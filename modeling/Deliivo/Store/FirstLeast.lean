import Mathlib.Tactic

/-!
# Scanning a list for the least

A scan that keeps a member until a strictly smaller one comes ends with the first of the least
members.

## Main definitions

* `List.FirstLeast cost l a`: `a` is the first of the members of least cost
* `List.keepLess`: one step of the scan

## Main results

* `List.foldl_keepLess_eq_some_iff`: what the scan ends with
* `List.FirstLeast.unique`: there is only one
-/

namespace List

variable {α β : Type*} [LinearOrder β] (cost : α → β)

/-- The first of the members of least cost. -/
def FirstLeast (l : List α) (a : α) : Prop :=
  ∃ before behind, l = before ++ a :: behind ∧ (∀ b ∈ before, cost a < cost b) ∧
    ∀ b ∈ behind, cost a ≤ cost b

/-- Keep the member so far unless the next one is strictly smaller. -/
def keepLess (best : Option α) (a : α) : Option α :=
  if best.all fun b => cost a < cost b then some a else best

variable {cost} {l : List α} {a : α}

theorem keepLess_some (b : α) :
    keepLess cost (some b) a = if cost a < cost b then some a else some b := by
  simp [keepLess]

theorem FirstLeast.mem (h : FirstLeast cost l a) : a ∈ l := by
  obtain ⟨before, behind, rfl, -⟩ := h
  exact mem_append_right _ mem_cons_self

/-- A scan that has kept `a` ends with the first of the least from `a` on. -/
theorem firstLeast_foldl_some (l : List α) (a : α) :
    ∃ b, l.foldl (keepLess cost) (some a) = some b ∧ FirstLeast cost (a :: l) b := by
  induction l generalizing a with
  | nil => exact ⟨a, rfl, [], [], rfl, by simp, by simp⟩
  | cons c l ih =>
    rw [foldl_cons, keepLess_some]
    by_cases hc : cost c < cost a
    · -- the new member replaces the old one
      rw [if_pos hc]
      obtain ⟨b, hb, before, behind, heq, hbefore, hbehind⟩ := ih c
      refine ⟨b, hb, a :: before, behind, by rw [heq, cons_append], ?_, hbehind⟩
      intro x hx
      rcases mem_cons.mp hx with rfl | hx
      · have hle : cost b ≤ cost c := by
          have hmem : c ∈ before ++ b :: behind := heq ▸ mem_cons_self
          rcases mem_append.mp hmem with h | h
          · exact (hbefore c h).le
          · rcases mem_cons.mp h with rfl | h
            · exact le_rfl
            · exact hbehind c h
        exact hle.trans_lt hc
      · exact hbefore x hx
    · rw [if_neg hc]
      obtain ⟨b, hb, before, behind, heq, hbefore, hbehind⟩ := ih a
      refine ⟨b, hb, ?_⟩
      cases before with
      | nil =>
        obtain ⟨rfl, rfl⟩ := List.cons.inj heq
        refine ⟨[], c :: l, rfl, by simp, ?_⟩
        intro x hx
        rcases mem_cons.mp hx with rfl | hx
        · exact not_lt.mp hc
        · exact hbehind x hx
      | cons a' before =>
        obtain ⟨rfl, rfl⟩ := List.cons.inj heq
        refine ⟨a :: c :: before, behind, rfl, ?_, hbehind⟩
        intro x hx
        have ha := hbefore a mem_cons_self
        rcases mem_cons.mp hx with rfl | hx
        · exact ha
        · rcases mem_cons.mp hx with rfl | hx
          · exact ha.trans_le (not_lt.mp hc)
          · exact hbefore x (mem_cons_of_mem _ hx)

/-- There is only one first of the least. -/
theorem FirstLeast.unique {b : α} (ha : FirstLeast cost l a) (hb : FirstLeast cost l b) : a = b := by
  obtain ⟨before, behind, rfl, hbefore, hbehind⟩ := ha
  obtain ⟨before', behind', heq, hbefore', hbehind'⟩ := hb
  rcases append_eq_append_iff.mp heq with ⟨c, rfl, hc⟩ | ⟨c, rfl, hc⟩
  · cases c with
    | nil => exact (List.cons.inj hc).1
    | cons x c =>
      obtain ⟨rfl, rfl⟩ := List.cons.inj hc
      have hlt := hbefore' a (mem_append_right _ mem_cons_self)
      have hle := hbehind b (mem_append_right _ mem_cons_self)
      exact absurd hlt (not_lt.mpr hle)
  · cases c with
    | nil => exact (List.cons.inj hc).1.symm
    | cons x c =>
      obtain ⟨rfl, rfl⟩ := List.cons.inj hc
      have hlt := hbefore b (mem_append_right _ mem_cons_self)
      have hle := hbehind' a (mem_append_right _ mem_cons_self)
      exact absurd hlt (not_lt.mpr hle)

/-- **The scan ends with the first of the least.** -/
theorem foldl_keepLess_eq_some_iff : l.foldl (keepLess cost) none = some a ↔ FirstLeast cost l a := by
  cases l with
  | nil => exact iff_of_false (by simp) fun h => not_mem_nil h.mem
  | cons c l =>
    obtain ⟨b, hb, hleast⟩ := @firstLeast_foldl_some _ _ _ cost l c
    have hfold : (c :: l).foldl (keepLess cost) none = some b := by
      rw [foldl_cons]
      exact hb
    rw [hfold, Option.some.injEq]
    constructor
    · rintro rfl
      exact hleast
    · intro h
      exact hleast.unique h

end List
