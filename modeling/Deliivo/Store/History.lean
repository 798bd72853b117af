import Mathlib.Tactic

/-!
# Histories of a deterministic system

A system that takes one step at a time, and what holds along a whole history of it. The rule
`always_iff_each` is the exact form of "every step that meets its condition keeps the property":
where a step keeps the property precisely when it meets the condition, the property holds in every
state of a history precisely when every step of it does.

## Main definitions

* `after step s l`: the state after the history `l` from `s`
* `Always step P s l`: `P` holds in every state reached along `l`, the first included
* `Each step C s l`: every step of `l` meets the condition `C` in the state it is taken in

## Main results

* `invariant_after`, `always_of_each`: the invariant rule, and the one for conditional invariants
* `always_iff_each`: the exact rule
* `each_of_between`, `Each.between`: what every step does, and what holds between any two points
-/

namespace History

variable {σ α : Type*} (step : σ → α → σ)

/-- The state after a history. -/
def after (s : σ) (l : List α) : σ := l.foldl step s

/-- `P` holds in every state reached along a history, the first one included. -/
def Always (P : σ → Prop) : σ → List α → Prop
  | s, [] => P s
  | s, a :: l => P s ∧ Always P (step s a) l

/-- Every step of a history meets the condition `C` in the state it is taken in. -/
def Each (C : σ → α → Prop) : σ → List α → Prop
  | _, [] => True
  | s, a :: l => C s a ∧ Each C (step s a) l

@[simp] theorem after_nil (s : σ) : after step s [] = s := rfl

@[simp] theorem after_cons (s : σ) (a : α) (l : List α) :
    after step s (a :: l) = after step (step s a) l := rfl

variable {step}

/-- The invariant rule. -/
theorem invariant_after {I : σ → Prop} (hstep : ∀ s a, I s → I (step s a)) {s : σ} (h : I s)
    (l : List α) : I (after step s l) := by
  induction l generalizing s with
  | nil => exact h
  | cons a l ih => exact ih (hstep s a h)

theorem Always.head {P : σ → Prop} {s : σ} {l : List α} (h : Always step P s l) : P s := by
  cases l with
  | nil => exact h
  | cons a l => exact h.1

theorem Always.last {P : σ → Prop} {s : σ} {l : List α} (h : Always step P s l) :
    P (after step s l) := by
  induction l generalizing s with
  | nil => exact h
  | cons a l ih => exact ih h.2

theorem Always.imp {P Q : σ → Prop} (hPQ : ∀ s, P s → Q s) {s : σ} {l : List α}
    (h : Always step P s l) : Always step Q s l := by
  induction l generalizing s with
  | nil => exact hPQ s h
  | cons a l ih => exact ⟨hPQ s h.1, ih h.2⟩

/-- What the steps that meet a condition preserve holds along a history of such steps. -/
theorem always_of_each {I : σ → Prop} {C : σ → α → Prop}
    (hstep : ∀ s a, I s → C s a → I (step s a)) {s : σ} (hI : I s) {l : List α}
    (h : Each step C s l) : Always step I s l := by
  induction l generalizing s with
  | nil => exact hI
  | cons a l ih => exact ⟨hI, ih (hstep s a hI h.1) h.2⟩

/-- Under an invariant that the steps keep, a condition on every step may be weakened. -/
theorem Each.imp {I : σ → Prop} {C D : σ → α → Prop} (hinv : ∀ s a, I s → I (step s a))
    (hCD : ∀ s a, I s → C s a → D s a) {s : σ} (hI : I s) {l : List α} (h : Each step C s l) :
    Each step D s l := by
  induction l generalizing s with
  | nil => trivial
  | cons a l ih => exact ⟨hCD s a hI h.1, ih (hinv s a hI) h.2⟩

theorem Each.and {C D : σ → α → Prop} {s : σ} {l : List α} (hC : Each step C s l)
    (hD : Each step D s l) : Each step (fun s a => C s a ∧ D s a) s l := by
  induction l generalizing s with
  | nil => trivial
  | cons a l ih => exact ⟨⟨hC.1, hD.1⟩, ih hC.2 hD.2⟩

/-- Under an invariant, a property that a step keeps, in the relation `R` to the state before,
exactly when it meets its condition holds along a history, every step of it in the relation, exactly
when every step of the history meets its condition. -/
theorem always_and_each_iff_each {I P : σ → Prop} {R C : σ → α → Prop}
    (hinv : ∀ s a, I s → I (step s a))
    (hstep : ∀ s a, I s → P s → (P (step s a) ∧ R s a ↔ C s a))
    {s : σ} (hI : I s) (hP : P s) (l : List α) :
    Always step P s l ∧ Each step R s l ↔ Each step C s l := by
  induction l generalizing s with
  | nil => exact iff_of_true ⟨hP, trivial⟩ trivial
  | cons a l ih =>
    constructor
    · rintro ⟨⟨-, hrest⟩, hR, hRs⟩
      have hC : C s a := (hstep s a hI hP).mp ⟨hrest.head, hR⟩
      exact ⟨hC, (ih (hinv s a hI) hrest.head).mp ⟨hrest, hRs⟩⟩
    · rintro ⟨hC, hrest⟩
      obtain ⟨hP', hR⟩ := (hstep s a hI hP).mpr hC
      obtain ⟨hPs, hRs⟩ := (ih (hinv s a hI) hP').mpr hrest
      exact ⟨⟨hP, hPs⟩, hR, hRs⟩

theorem each_true (s : σ) (l : List α) : Each step (fun _ _ => True) s l := by
  induction l generalizing s with
  | nil => trivial
  | cons a l ih => exact ⟨trivial, ih _⟩

/-- The same without a relation. -/
theorem always_iff_each {I P : σ → Prop} {C : σ → α → Prop}
    (hinv : ∀ s a, I s → I (step s a))
    (hstep : ∀ s a, I s → P s → (P (step s a) ↔ C s a))
    {s : σ} (hI : I s) (hP : P s) (l : List α) : Always step P s l ↔ Each step C s l := by
  rw [← always_and_each_iff_each (R := fun _ _ => True) hinv ?_ hI hP l, and_iff_left (each_true s l)]
  intro s a hI hP
  rw [and_true]
  exact hstep s a hI hP

/-! ## Two points of a history -/

theorem after_append (s : σ) (l l' : List α) :
    after step s (l ++ l') = after step (after step s l) l' := List.foldl_append

theorem each_append {C : σ → α → Prop} {s : σ} {l l' : List α} :
    Each step C s (l ++ l') ↔ Each step C s l ∧ Each step C (after step s l) l' := by
  induction l generalizing s with
  | nil => exact (and_iff_right trivial).symm
  | cons a l ih => exact (and_congr_right fun _ => ih).trans and_assoc.symm

/-- What every step does, and what doing it twice comes to, a history does. -/
theorem Each.after {R : σ → σ → Prop} (hrefl : ∀ s, R s s)
    (htrans : ∀ s t u, R s t → R t u → R s u) {s : σ} {l : List α}
    (h : Each step (fun s a => R s (step s a)) s l) : R s (after step s l) := by
  induction l generalizing s with
  | nil => exact hrefl s
  | cons a l ih => exact htrans _ _ _ h.1 (ih h.2)

/-- What holds between any two points of a history holds of every step. -/
theorem each_of_between {R : σ → σ → Prop} {s : σ} {l : List α}
    (h : ∀ l₁ l₂ l₃, l = l₁ ++ l₂ ++ l₃ → R (after step s l₁) (after step s (l₁ ++ l₂))) :
    Each step (fun s a => R s (step s a)) s l := by
  induction l generalizing s with
  | nil => trivial
  | cons a l ih =>
    refine ⟨h [] [a] l rfl, ih fun l₁ l₂ l₃ hl => ?_⟩
    exact h (a :: l₁) l₂ l₃ (congrArg (a :: ·) hl)

/-- What every step does holds between any two points of a history, if the relation is reflexive and
transitive. -/
theorem Each.between {R : σ → σ → Prop} (hrefl : ∀ s, R s s)
    (htrans : ∀ s t u, R s t → R t u → R s u) {s : σ} {l : List α}
    (h : Each step (fun s a => R s (step s a)) s l) (l₁ l₂ l₃ : List α) (hl : l = l₁ ++ l₂ ++ l₃) :
    R (History.after step s l₁) (History.after step s (l₁ ++ l₂)) := by
  subst hl
  rw [after_append]
  exact (each_append.mp (each_append.mp h).1).2.after hrefl htrans

end History
