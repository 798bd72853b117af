import Mathlib.Data.List.Basic
import Mathlib.Logic.Relation

/-!
# Texts joined by a separator

A list of texts that are joined by a separator is known up to the separators within the texts: what is
left of it is the parts into which these cut the texts.

## Main definitions

* `cuts`: the parts of a list of texts, one after the other
* `Shift`: what stands behind a separator moves to the front of the next text, with the separator

## Main results

* `intercalate_eq_iff`: two lists are joined to one text exactly if they have the same parts
* `eqvGen_shift_iff`: of lists of one length, exactly if shifts lead from the one to the other
* `eq_of_cuts_around`: a text with separators among texts without is told apart by its parts
-/

namespace Deliivo

variable {α : Type*} [DecidableEq α] {x : α} {texts texts' : List (List α)}

/-- The parts into which a separator cuts the texts of a list, one after the other. -/
def cuts (x : α) (texts : List (List α)) : List (List α) := texts.flatMap (List.splitOn x)

/-- What is joined comes apart into its parts. -/
theorem splitOn_joined (h : texts ≠ []) : ([x].intercalate texts).splitOn x = cuts x texts := by
  induction texts with
  | nil => exact absurd rfl h
  | cons text texts ih =>
    cases texts with
    | nil => rw [List.intercalate_singleton, cuts, List.flatMap_singleton]
    | cons next texts =>
      have hrest := ih (List.cons_ne_nil _ _)
      rw [List.intercalate_cons_cons, List.append_assoc, List.singleton_append,
        List.splitOn_append_cons_self, hrest]
      rfl

/-- **Two lists are joined to one text** exactly if they have the same parts. -/
theorem intercalate_eq_iff (h : texts ≠ []) (h' : texts' ≠ []) :
    [x].intercalate texts = [x].intercalate texts' ↔ cuts x texts = cuts x texts' := by
  constructor
  · intro hjoined
    rw [← splitOn_joined h, ← splitOn_joined h', hjoined]
  · intro hcuts
    rw [← splitOn_joined h, ← splitOn_joined h'] at hcuts
    rw [← @List.intercalate_splitOn α ([x].intercalate texts) _ _ x, hcuts, List.intercalate_splitOn]

theorem cuts_append (x : α) (texts texts' : List (List α)) :
    cuts x (texts ++ texts') = cuts x texts ++ cuts x texts' := List.flatMap_append

/-! ## Shifts -/

/-- What stands behind a separator of a text moves to the front of the next text, and takes the
separator with it. -/
inductive Shift (x : α) : List (List α) → List (List α) → Prop
  | move (before : List (List α)) (left right next : List α) (after : List (List α)) :
    Shift x (before ++ (left ++ x :: right) :: next :: after)
      (before ++ left :: (right ++ x :: next) :: after)

theorem Shift.cuts_eq (h : Shift x texts texts') : cuts x texts = cuts x texts' := by
  cases h with
  | move before left right next after =>
    rw [cuts_append, cuts_append]
    refine congrArg (cuts x before ++ ·) ?_
    simp only [cuts, List.flatMap_cons, List.splitOn_append_cons_self, List.append_assoc]

omit [DecidableEq α] in
theorem Shift.cons (h : Shift x texts texts') (text : List α) :
    Shift x (text :: texts) (text :: texts') := by
  cases h with
  | move before left right next after => exact .move (text :: before) left right next after

omit [DecidableEq α] in
theorem eqvGen_shift_cons (h : Relation.EqvGen (Shift x) texts texts') (text : List α) :
    Relation.EqvGen (Shift x) (text :: texts) (text :: texts') := by
  induction h with
  | rel a b hab => exact .rel _ _ (hab.cons text)
  | refl a => exact .refl _
  | symm a b _ ih => exact ih.symm
  | trans a b c _ _ first second => exact first.trans _ _ _ second

/-- So many texts of given parts, with all the separators in the last one. -/
def leveled (x : α) : ℕ → List (List α) → List (List α)
  | 0, _ => []
  | 1, parts => [[x].intercalate parts]
  | _ + 2, [] => []
  | n + 2, part :: parts => part :: leveled x (n + 1) parts

/-- The separators of a list can all be shifted into its last text. -/
theorem eqvGen_leveled (texts : List (List α)) :
    Relation.EqvGen (Shift x) texts (leveled x texts.length (cuts x texts)) := by
  obtain ⟨n, hn⟩ : ∃ n, texts.length = n := ⟨_, rfl⟩
  induction n generalizing texts with
  | zero =>
    obtain rfl := List.length_eq_zero_iff.mp hn
    exact .refl _
  | succ n ih =>
    cases texts with
    | nil => cases hn
    | cons text rest =>
      cases rest with
      | nil =>
        rw [cuts, List.flatMap_singleton]
        have hself : leveled x [text].length (text.splitOn x) = [text] := by
          rw [List.length_singleton, leveled, List.intercalate_splitOn]
        rw [hself]
        exact .refl _
      | cons next rest =>
        have hlength : (next :: rest).length = n := Nat.succ.inj hn
        by_cases hmem : x ∈ text
        · -- what stands behind the first separator goes over
          obtain ⟨left, right, rfl, hleft⟩ := List.eq_append_cons_of_mem hmem
          have hshift := Shift.move (x := x) [] left right next rest
          have hparts : cuts x ((left ++ x :: right) :: next :: rest) =
              left :: cuts x ((right ++ x :: next) :: rest) := by
            rw [cuts, List.flatMap_cons, List.splitOn_append_cons_self_of_not_mem hleft,
              List.flatMap_cons, cuts, List.flatMap_cons, List.splitOn_append_cons_self,
              List.cons_append, List.append_assoc]
          have hrest := ih ((right ++ x :: next) :: rest) hlength
          rw [hparts]
          exact (Relation.EqvGen.rel _ _ hshift).trans _ _ _ (eqvGen_shift_cons hrest left)
        · have hparts : cuts x (text :: next :: rest) = text :: cuts x (next :: rest) := by
            rw [cuts, List.flatMap_cons, List.splitOn_eq_singleton hmem]
            rfl
          rw [hparts]
          exact eqvGen_shift_cons (ih _ hlength) text

/-- **Two lists of one length are joined to one text** exactly if shifts lead from the one to the
other. -/
theorem eqvGen_shift_iff (hlength : texts.length = texts'.length) :
    Relation.EqvGen (Shift x) texts texts' ↔ [x].intercalate texts = [x].intercalate texts' := by
  by_cases hne : texts = []
  · have hne' : texts' = [] := by
      rw [hne] at hlength
      exact List.length_eq_zero_iff.mp hlength.symm
    rw [hne, hne']
    exact iff_of_true (.refl _) rfl
  have hne' : texts' ≠ [] := by
    intro h
    rw [h] at hlength
    exact hne (List.length_eq_zero_iff.mp hlength)
  rw [intercalate_eq_iff hne hne']
  constructor
  · intro h
    clear hlength hne hne'
    induction h with
    | rel a b hab => exact hab.cuts_eq
    | refl a => rfl
    | symm a b _ ih => exact ih.symm
    | trans a b c _ _ first second => exact first.trans second
  · intro hcuts
    -- both lead to the same list
    have hleft := @eqvGen_leveled α _ x texts
    have hright := @eqvGen_leveled α _ x texts'
    rw [hcuts, hlength] at hleft
    exact hleft.trans _ _ _ hright.symm

/-! ## Texts without separators -/

/-- Texts without separators are their own parts. -/
theorem cuts_of_notMem (h : ∀ text ∈ texts, x ∉ text) : cuts x texts = texts := by
  induction texts with
  | nil => rfl
  | cons text texts ih =>
    obtain ⟨htext, hrest⟩ := List.forall_mem_cons.mp h
    have hparts := ih hrest
    rw [cuts, List.flatMap_cons, List.splitOn_eq_singleton htext]
    exact congrArg _ hparts

/-- **A text with separators** among so many texts without is told apart by its parts, and so are
they. -/
theorem eq_of_cuts_around {before before' after after' : List (List α)} {middle middle' : List α}
    (hbefore : ∀ text ∈ before, x ∉ text) (hbefore' : ∀ text ∈ before', x ∉ text)
    (hafter : ∀ text ∈ after, x ∉ text) (hafter' : ∀ text ∈ after', x ∉ text)
    (hlength : before.length = before'.length) (hlength' : after.length = after'.length)
    (h : cuts x (before ++ ([middle] ++ after)) = cuts x (before' ++ ([middle'] ++ after'))) :
    before = before' ∧ middle = middle' ∧ after = after' := by
  simp only [cuts_append, cuts_of_notMem hbefore, cuts_of_notMem hbefore', cuts_of_notMem hafter,
    cuts_of_notMem hafter'] at h
  obtain ⟨hfirst, hrest⟩ := List.append_inj h hlength
  obtain ⟨hmiddle, hlast⟩ := List.append_inj' hrest hlength'
  refine ⟨hfirst, ?_, hlast⟩
  rw [cuts, cuts, List.flatMap_singleton, List.flatMap_singleton] at hmiddle
  rw [← @List.intercalate_splitOn α middle _ _ x, hmiddle, List.intercalate_splitOn]

/-- What stands before the first separator of a text, and behind it, is known. -/
theorem eq_of_append_separator {key key' rest rest' : List α} (h : x ∉ key) (h' : x ∉ key')
    (htext : key ++ x :: rest = key' ++ x :: rest') : key = key' ∧ rest = rest' := by
  have hsplit := congrArg (List.splitOn x) htext
  rw [List.splitOn_append_cons_self_of_not_mem h, List.splitOn_append_cons_self_of_not_mem h'] at hsplit
  obtain ⟨hkey, hrest⟩ := List.cons.inj hsplit
  refine ⟨hkey, ?_⟩
  rw [← @List.intercalate_splitOn α rest _ _ x, hrest, List.intercalate_splitOn]

/-- Texts without separators, none of them empty, are known from the text they are joined to. -/
theorem eq_of_intercalate_eq (h : ∀ text ∈ texts, x ∉ text ∧ text ≠ [])
    (h' : ∀ text ∈ texts', x ∉ text ∧ text ≠ [])
    (hjoined : [x].intercalate texts = [x].intercalate texts') : texts = texts' := by
  have hparts : ∀ {l : List (List α)}, (∀ text ∈ l, x ∉ text ∧ text ≠ []) → l ≠ [] →
      ([x].intercalate l).splitOn x = l := by
    intro l hl hne
    exact (splitOn_joined hne).trans (cuts_of_notMem fun text htext => (hl text htext).1)
  -- a list of texts that are not empty is joined to one that is not
  have hsome : ∀ {l : List (List α)}, (∀ text ∈ l, x ∉ text ∧ text ≠ []) → l ≠ [] →
      [x].intercalate l ≠ [] := by
    intro l hl hne hnil
    have hsplit := hparts hl hne
    rw [hnil, List.splitOn_nil] at hsplit
    exact (hl [] (hsplit ▸ List.mem_singleton.mpr rfl)).2 rfl
  by_cases hne : texts = []
  · by_cases hne' : texts' = []
    · rw [hne, hne']
    · rw [hne, List.intercalate_nil] at hjoined
      exact absurd hjoined.symm (hsome h' hne')
  · by_cases hne' : texts' = []
    · rw [hne', List.intercalate_nil] at hjoined
      exact absurd hjoined (hsome h hne)
    · rw [← hparts h hne, ← hparts h' hne', hjoined]

end Deliivo
