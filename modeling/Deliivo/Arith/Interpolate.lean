import Mathlib.Tactic

/-!
# Filling the gaps of a list of values

A list of values, some of them unknown, is filled from left to right: an unknown value is put on the
way from the value before it, which is known or has been filled by then, to the next one that was known
from the start. What lies on the way after some of its steps is a parameter, `between`, so that it may
be rounded.

## Main definitions

* `Interpolate.fillMissing`: the loop
* `Interpolate.fillFrom`: what it computes behind a given value
* `Interpolate.interpolated`: one gap, step by step

## Main results

* `Interpolate.fillMissing_eq`: the loop computes `fillFrom`
* `Interpolate.fillFrom_kept`: known values stay
* `Interpolate.getElem?_fillFrom`: every value is so many steps of its gap away from the known ones
  around it
* `Interpolate.fillFrom_pairwise`: a list whose known values do not decrease is filled to one that does
  not, if what lies between two values that can be known does
-/

namespace Interpolate

variable {α : Type*} (between : α → α → ℕ → ℕ → α)

/-! ## The loop -/

/-- The value nearest before a position, with its position. -/
def previousKnown (filled : List (Option α)) : ℕ → Option (ℕ × α)
  | 0 => none
  | index + 1 =>
    match filled.getD index none with
    | some value => some (index, value)
    | none => previousKnown filled index

/-- The first value of a list, with the number of unknown ones before it. -/
def nextKnown : List (Option α) → Option (ℕ × α)
  | [] => none
  | some value :: _ => some (0, value)
  | none :: values => (nextKnown values).map fun next => (next.1 + 1, next.2)

/-- One turn of the loop: the search goes back in what has been filled, and forward in what was known. -/
def fillAt (values filled : List (Option α)) (index : ℕ) : List (Option α) :=
  match filled.getD index none with
  | some _ => filled
  | none =>
    match previousKnown filled index, nextKnown (values.drop (index + 1)) with
    | some (previous, previousValue), some (gap, nextValue) =>
      let next := index + 1 + gap
      filled.set index
        (some (between previousValue nextValue (next - previous) (index - previous)))
    | _, _ => filled

/-- The loop over all positions. -/
def fillMissing [Zero α] (values : List (Option α)) : List α :=
  ((List.range values.length).foldl (fillAt between values) values).map fun value => value.getD 0

/-- What the loop makes of the values behind `previous`. -/
def fillFrom (previous : α) : List (Option α) → List α
  | [] => []
  | some value :: values => value :: fillFrom value values
  | none :: values =>
    let filled := match nextKnown values with
      | none => previous
      | some (gap, next) => between previous next (gap + 2) 1
    filled :: fillFrom filled values

/-- What `count` of `steps` steps lead to on the way to `hi`, each of them taken from where the one
before it has led. -/
def interpolated (hi : α) : (steps count : ℕ) → (lo : α) → α
  | _, 0, lo => lo
  | steps, count + 1, lo => interpolated hi (steps - 1) count (between lo hi steps 1)

/-! ## What the loop computes -/

section Loop

variable {between}

theorem length_fillFrom (previous : α) (values : List (Option α)) :
    (fillFrom between previous values).length = values.length := by
  induction values generalizing previous with
  | nil => rfl
  | cons value values ih =>
    cases value with
    | some value => simp [fillFrom, ih]
    | none => simp [fillFrom, ih]

theorem fillFrom_cons (previous : α) (value : Option α) (values : List (Option α)) :
    ∃ first, fillFrom between previous (value :: values) = first :: fillFrom between first values := by
  cases value with
  | some value => exact ⟨_, rfl⟩
  | none => exact ⟨_, rfl⟩

/-- There is a value behind every unknown one. -/
theorem exists_nextKnown (values : List (Option α)) (last : α) :
    ∃ next, nextKnown (values ++ [some last]) = some next := by
  induction values with
  | nil => exact ⟨_, rfl⟩
  | cons value values ih =>
    cases value with
    | some value => exact ⟨_, rfl⟩
    | none =>
      obtain ⟨next, hnext⟩ := ih
      refine ⟨(next.1 + 1, next.2), ?_⟩
      rw [List.cons_append, nextKnown, hnext, Option.map_some]

/-- Right behind what has been filled, the nearest value is the last one filled. -/
theorem previousKnown_append (done : List α) (previous : α) (rest : List (Option α)) :
    previousKnown ((done ++ [previous]).map some ++ rest) (done.length + 1) =
      some (done.length, previous) := by
  have hget : ((done ++ [previous]).map some ++ rest).getD done.length none = some previous := by
    simp [List.getD_eq_getElem?_getD]
  rw [previousKnown, hget]

/-- One turn, right behind what has been filled. -/
theorem fillAt_append {values : List (Option α)} (done : List α) (previous : α)
    (value : Option α) (rest : List (Option α)) (last : α)
    (hvalues : values.drop (done.length + 2) = rest ++ [some last]) :
    fillAt between values ((done ++ [previous]).map some ++ value :: (rest ++ [some last]))
        (done.length + 1) =
      ((done ++ [previous]) ++ (fillFrom between previous (value :: (rest ++ [some last]))).take 1).map
        some ++ (rest ++ [some last]) := by
  have hget : ((done ++ [previous]).map some ++ value :: (rest ++ [some last])).getD
      (done.length + 1) none = value := by
    simp [List.getD_eq_getElem?_getD]
  rw [fillAt, hget]
  cases value with
  | some value => simp [fillFrom]
  | none =>
    obtain ⟨⟨gap, next⟩, hnext⟩ := exists_nextKnown rest last
    have hspan : done.length + 1 + 1 + gap - done.length = gap + 2 := by omega
    have hone : done.length + 1 - done.length = 1 := by omega
    simp only [previousKnown_append, hvalues, hnext, fillFrom, hspan, hone]
    simp

/-- The turns that are left, once `previous` is the last value filled. -/
theorem foldl_fillAt {values : List (Option α)} (done : List α) (previous : α)
    (rest : List (Option α)) (last : α)
    (hvalues : values.drop (done.length + 1) = rest ++ [some last]) :
    (List.range' (done.length + 1) rest.length).foldl (fillAt between values)
        ((done ++ [previous]).map some ++ (rest ++ [some last])) =
      ((done ++ [previous]) ++ (fillFrom between previous (rest ++ [some last])).take rest.length).map
        some ++ [some last] := by
  induction rest generalizing done previous with
  | nil => simp
  | cons value rest ih =>
    have hdrop : values.drop (done.length + 2) = rest ++ [some last] := by
      have := congrArg List.tail hvalues
      rwa [List.tail_drop] at this
    obtain ⟨first, hfirst⟩ := @fillFrom_cons α between previous value (rest ++ [some last])
    have hturn := @fillAt_append α between _ done previous value rest last hdrop
    rw [hfirst] at hturn
    have hrest := ih (done ++ [previous]) first (by simpa using hdrop)
    rw [List.length_cons, List.range'_succ, List.foldl_cons, List.cons_append, hturn, hfirst]
    simp only [List.length_append, List.length_cons, List.length_nil] at hrest
    simpa using hrest

/-- A list is filled by its values but the last, which is known. -/
theorem fillFrom_concat (previous : α) (values : List (Option α)) (last : α) :
    fillFrom between previous (values ++ [some last]) =
      (fillFrom between previous (values ++ [some last])).take values.length ++ [last] := by
  induction values generalizing previous with
  | nil => rfl
  | cons value values ih =>
    obtain ⟨first, hfirst⟩ := @fillFrom_cons α between previous value (values ++ [some last])
    rw [List.cons_append, hfirst, List.length_cons, List.take_succ_cons, List.cons_append, ← ih]

/-- **The loop computes `fillFrom`** behind the first value, if the last one is known as well. -/
theorem fillMissing_eq [Zero α] (first : α) (values : List (Option α)) (last : α) :
    fillMissing between (some first :: (values ++ [some last])) =
      first :: fillFrom between first (values ++ [some last]) := by
  have hlength : (some first :: (values ++ [some last])).length = 1 + (values.length + 1) := by
    simp
    omega
  have hrange : List.range (1 + (values.length + 1)) =
      0 :: (List.range' 1 values.length ++ [1 + values.length]) := by
    rw [List.range_eq_range', add_comm, List.range'_succ, List.range'_concat]
    simp
  have hzero : fillAt between (some first :: (values ++ [some last]))
      (some first :: (values ++ [some last])) 0 = some first :: (values ++ [some last]) := rfl
  have hturns := @foldl_fillAt α between
    (some first :: (values ++ [some last])) [] first values last rfl
  simp only [List.length_nil, zero_add, List.nil_append, List.map_cons, List.map_nil,
    List.cons_append] at hturns
  -- the last value is known, so that its turn does nothing
  have hlast : ∀ filled : List α, filled.length = values.length →
      fillAt between (some first :: (values ++ [some last]))
        (some first :: (filled.map some ++ [some last])) (1 + values.length) =
      some first :: (filled.map some ++ [some last]) := by
    intro filled hfilled
    have hget : (some first :: (filled.map some ++ [some last])).getD (1 + values.length) none =
        some last := by
      rw [List.getD_eq_getElem?_getD, add_comm, List.getElem?_cons_succ, ← hfilled]
      simp
    rw [fillAt, hget]
  rw [fillMissing, hlength, hrange, List.foldl_cons, hzero, List.foldl_append, hturns, List.foldl_cons,
    List.foldl_nil, hlast _ (by simp [length_fillFrom])]
  have hall := @fillFrom_concat α between first values last
  simp only [List.map_cons, Option.getD_some, List.map_append, List.map_nil, List.map_map]
  have hsame : (fun value : Option α => value.getD 0) ∘ some = id := rfl
  rw [hsame, List.map_id, ← hall]

end Loop

/-! ## What is filled -/

section Filled

variable {between}

/-- Known values stay. -/
theorem fillFrom_kept {previous value : α} {values : List (Option α)} {index : ℕ}
    (h : values[index]? = some (some value)) :
    (fillFrom between previous values)[index]? = some value := by
  induction values generalizing previous index with
  | nil => simp at h
  | cons first values ih =>
    cases index with
    | zero =>
      obtain rfl : first = some value := by simpa using h
      rfl
    | succ index =>
      obtain ⟨filled, hfilled⟩ := @fillFrom_cons α between previous first values
      rw [hfilled, List.getElem?_cons_succ]
      exact ih h

/-- The next known value is the first one of the list. -/
theorem filterMap_of_nextKnown {values : List (Option α)} {next : ℕ × α}
    (h : nextKnown values = some next) : ∃ rest, values.filterMap id = next.2 :: rest := by
  induction values generalizing next with
  | nil => simp [nextKnown] at h
  | cons value values ih =>
    cases value with
    | some value =>
      obtain rfl := Option.some.inj h
      exact ⟨values.filterMap id, rfl⟩
    | none =>
      obtain ⟨next', hnext', rfl⟩ := Option.map_eq_some_iff.mp h
      obtain ⟨rest, hrest⟩ := ih hnext'
      exact ⟨rest, hrest⟩

/-! ### One gap -/

/-- The search goes on behind a list in which it finds nothing. -/
theorem nextKnown_append (values values' : List (Option α)) :
    nextKnown (values ++ values') =
      (nextKnown values).or ((nextKnown values').map fun next => (next.1 + values.length, next.2)) := by
  induction values with
  | nil =>
    rw [List.nil_append, nextKnown, Option.none_or]
    cases nextKnown values' with
    | none => rfl
    | some next => rfl
  | cons value values ih =>
    cases value with
    | some value => rfl
    | none =>
      rw [List.cons_append, nextKnown, ih, nextKnown]
      cases nextKnown values with
      | some next => rfl
      | none =>
        cases nextKnown values' with
        | none => rfl
        | some next => simp [Nat.add_assoc]

theorem nextKnown_eq_none_iff {values : List (Option α)} :
    nextKnown values = none ↔ ∀ value ∈ values, value = none := by
  induction values with
  | nil => simp [nextKnown]
  | cons value values ih =>
    cases value with
    | some value => simp [nextKnown]
    | none => simp [nextKnown, ih]

theorem nextKnown_reverse_eq_none_iff {values : List (Option α)} :
    nextKnown values.reverse = none ↔ nextKnown values = none := by
  simp only [nextKnown_eq_none_iff, List.mem_reverse]

/-- **A value within a gap**: it is so many steps away from the known value before it, on the way to the
next one. -/
theorem getElem?_fillFrom {previous : α} {values : List (Option α)} {index gap : ℕ} {next : α}
    (hindex : index < values.length) (hnext : nextKnown (values.drop index) = some (gap, next)) :
    ∃ back lo, nextKnown ((values.take (index + 1)).reverse ++ [some previous]) = some (back, lo) ∧
      (fillFrom between previous values)[index]? =
        some (interpolated between next (back + gap) back lo) := by
  induction values generalizing previous index with
  | nil => cases hindex
  | cons value values ih =>
    cases index with
    | zero =>
      cases value with
      | some value =>
        obtain ⟨rfl, rfl⟩ : 0 = gap ∧ value = next := Prod.mk.injEq .. ▸ Option.some.inj hnext
        exact ⟨0, value, rfl, rfl⟩
      | none =>
        obtain ⟨⟨gap', next'⟩, hnext', heq⟩ := Option.map_eq_some_iff.mp hnext
        obtain ⟨rfl, rfl⟩ : gap' + 1 = gap ∧ next' = next := Prod.mk.injEq .. ▸ heq
        refine ⟨1, previous, rfl, ?_⟩
        rw [fillFrom, hnext', List.getElem?_cons_zero, Nat.add_comm 1]
        rfl
    | succ index =>
      obtain ⟨first, hfirst⟩ := @fillFrom_cons α between previous value values
      obtain ⟨back, lo, hback, hfilled⟩ :=
        @ih first index (Nat.lt_of_succ_lt_succ hindex) hnext
      rw [List.take_succ_cons, List.reverse_cons, List.append_assoc, List.singleton_append]
      rw [nextKnown_append] at hback ⊢
      rw [hfirst, List.getElem?_cons_succ, hfilled]
      cases hknown : nextKnown (values.take (index + 1)).reverse with
      | some known =>
        -- there is a known value in between, and it is the same for both
        rw [hknown] at hback
        exact ⟨back, lo, hback, rfl⟩
      | none =>
        rw [hknown, Option.none_or] at hback
        have hlength : (values.take (index + 1)).reverse.length = index + 1 := by
          rw [List.length_reverse, List.length_take]
          exact min_eq_left (Nat.lt_of_succ_lt_succ hindex)
        rw [hlength] at hback ⊢
        obtain ⟨rfl, rfl⟩ : 0 + (index + 1) = back ∧ first = lo :=
          Prod.mk.injEq .. ▸ Option.some.inj hback
        cases value with
        | some value =>
          obtain rfl : value = first := (List.cons.inj hfirst).1
          exact ⟨_, _, rfl, rfl⟩
        | none =>
          -- the first value has been filled on the way to the same next one
          refine ⟨1 + (index + 1), previous, rfl, ?_⟩
          have htake : nextKnown (values.take index) = none := by
            rw [nextKnown_reverse_eq_none_iff, nextKnown_eq_none_iff] at hknown
            exact nextKnown_eq_none_iff.mpr fun v hv =>
              hknown v ((List.take_sublist_take_left (Nat.le_succ index)).subset hv)
          have hsame : nextKnown values = some (gap + index, next) := by
            rw [← List.take_append_drop index values, nextKnown_append, htake, Option.none_or]
            have hdrop : nextKnown (values.drop index) = some (gap, next) := hnext
            rw [hdrop, Option.map_some, List.length_take,
              min_eq_left (Nat.lt_of_succ_lt_succ hindex).le]
          have hstep : first = between previous next (gap + index + 2) 1 := by
            have hhead := (List.cons.inj hfirst).1
            rw [hsame] at hhead
            exact hhead.symm
          have hsteps : 1 + (index + 1) + gap = gap + index + 2 := by omega
          have hcount : 1 + (index + 1) = index + 1 + 1 := by omega
          rw [hsteps, hcount, interpolated, ← hstep]
          congr 2
          · omega
          · omega

/-! ### Order -/

/-- **What is filled does not decrease**, if the known values do not and if what lies between two values
that can be known does, and can be known. -/
theorem fillFrom_pairwise [Preorder α] {G : α → Prop}
    (hbetween : ∀ lo hi gap, G lo → G hi → lo ≤ hi →
      G (between lo hi (gap + 2) 1) ∧ lo ≤ between lo hi (gap + 2) 1 ∧ between lo hi (gap + 2) 1 ≤ hi)
    {previous : α} {values : List (Option α)} (hprevious : G previous)
    (hknown : ∀ value ∈ values.filterMap id, G value)
    (hmono : (previous :: values.filterMap id).Pairwise (· ≤ ·)) :
    (previous :: fillFrom between previous values).Pairwise (· ≤ ·) := by
  induction values generalizing previous with
  | nil => simp [fillFrom]
  | cons value values ih =>
    -- it is enough that the first one does not decrease, nor the others behind it
    have hcons : ∀ first, previous ≤ first →
        (first :: fillFrom between first values).Pairwise (· ≤ ·) →
        (previous :: first :: fillFrom between first values).Pairwise (· ≤ ·) := by
      intro first hfirst hrest
      refine List.pairwise_cons.mpr ⟨fun x hx => ?_, hrest⟩
      rcases List.mem_cons.mp hx with rfl | hx
      · exact hfirst
      · exact hfirst.trans ((List.pairwise_cons.mp hrest).1 x hx)
    cases value with
    | some value =>
      have hrest : (value :: values.filterMap id).Pairwise (· ≤ ·) := hmono.tail
      refine hcons value ((List.pairwise_cons.mp hmono).1 value List.mem_cons_self) ?_
      exact ih (hknown value List.mem_cons_self)
        (fun v hv => hknown v (List.mem_cons_of_mem _ hv)) hrest
    | none =>
      have hmono' : (previous :: values.filterMap id).Pairwise (· ≤ ·) := hmono
      have hknown' : ∀ v ∈ values.filterMap id, G v := hknown
      rw [fillFrom]
      cases hnext : nextKnown values with
      | none => exact hcons previous le_rfl (ih hprevious hknown' hmono')
      | some next =>
        obtain ⟨gap, next⟩ := next
        obtain ⟨rest, hrest⟩ := filterMap_of_nextKnown hnext
        have hmem : next ∈ values.filterMap id := by
          rw [hrest]
          exact List.mem_cons_self
        have hle : previous ≤ next := (List.pairwise_cons.mp hmono').1 next hmem
        obtain ⟨hfilled, hlo, hhi⟩ := hbetween previous next gap hprevious (hknown' next hmem) hle
        refine hcons _ hlo (ih hfilled hknown' ?_)
        -- the filled value is below the next known one, and so below all of them
        refine List.pairwise_cons.mpr ⟨fun v hv => ?_, (List.pairwise_cons.mp hmono').2⟩
        have hsorted := (List.pairwise_cons.mp hmono').2
        rw [hrest] at hv hsorted
        rcases List.mem_cons.mp hv with rfl | hv
        · exact hhi
        · exact hhi.trans ((List.pairwise_cons.mp hsorted).1 v hv)

end Filled

end Interpolate
