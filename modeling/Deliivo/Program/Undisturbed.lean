import Deliivo.Program.Pool

/-!
# A thread by itself

What one thread does if the others, while it runs, change the state in some ways only: the relation `R`
says in which. Nothing is asked of the other threads besides, and nothing is promised to them.

## Main definitions

* `Undisturbed`: what is left of a thread meets a condition in each of its steps, and ends in `Q`

## Main results

* `Undisturbed.bind`, `Undisturbed.perform`, `Undisturbed.issues`: the rules of programs
* `Undisturbed.meets`: in a history in which the other moves keep to `R`, the thread meets the condition
-/

universe u

namespace Program

variable {F : Type → Type u} {ε ι η σ κ Op α β : Type} {S : Concurrent F ε ι η σ κ Op}

/-- What is left of the thread `tid` meets `C` in each step, on the state that the step is taken in and
what it reports, and ends in `Q`, as long as what goes on between its steps is in the relation `R`. -/
def Undisturbed (S : Concurrent F ε ι η σ κ Op) (R : Logged η σ → Logged η σ → Prop)
    (C : Logged η σ → List η → Prop) (tid : ℕ) (Q : Except ε α → Logged η σ → Prop) :
    Program F ε α → Logged η σ → Prop
  | ret a, x => Q (.ok a) x
  | throw e, x => Q (.error e) x
  | step c k, x => ∀ y, R x y → ∀ i b es s, S.exec tid c i y.state = some (b, es, s) →
      C y es ∧ Undisturbed S R C tid Q (k b) (y.next tid es s)

namespace Undisturbed

variable {R : Logged η σ → Logged η σ → Prop} {C : Logged η σ → List η → Prop} {tid : ℕ}
  {Q Q' : Except ε α → Logged η σ → Prop} {P : Except ε β → Logged η σ → Prop}
  {A : Logged η σ → Prop} {x : Logged η σ}

theorem mono {p : Program F ε α} (h : Undisturbed S R C tid Q p x) (hQ : ∀ r x, Q r x → Q' r x) :
    Undisturbed S R C tid Q' p x := by
  induction p generalizing x with
  | ret a => exact hQ _ _ h
  | throw e => exact hQ _ _ h
  | step c k ih =>
    intro y hy i b es s hexec
    obtain ⟨hC, hk⟩ := h y hy i b es s hexec
    exact ⟨hC, ih b hk⟩

/-- A sequence: the second part starts where the first one has ended. -/
theorem bind {p : Program F ε α} {f : α → Program F ε β}
    (h : Undisturbed S R C tid (fun r x => match r with
      | .ok a => Undisturbed S R C tid P (f a) x
      | .error e => P (.error e) x) p x) :
    Undisturbed S R C tid P (p.bind f) x := by
  induction p generalizing x with
  | ret a => exact h
  | throw e => exact h
  | step c k ih =>
    intro y hy i b es s hexec
    obtain ⟨hC, hk⟩ := h y hy i b es s hexec
    exact ⟨hC, ih b hk⟩

/-- A sequence of which the first part keeps an assertion, however it ends. -/
theorem sequence {p : Program F ε α} {f : α → Program F ε β}
    (hp : Undisturbed S R C tid (fun _ => A) p x) (hthrow : ∀ e y, A y → P (.error e) y)
    (hf : ∀ a y, A y → Undisturbed S R C tid P (f a) y) :
    Undisturbed S R C tid P (p.bind f) x := by
  refine bind (hp.mono fun r y hy => ?_)
  cases r with
  | ok a => exact hf a y hy
  | error e => exact hthrow e y hy

/-- One command whose answer says whether it failed. -/
theorem perform {c : F (Except ε α)} (h : ∀ y, R x y → ∀ i r es s,
    S.exec tid c i y.state = some (r, es, s) → C y es ∧ Q r (y.next tid es s)) :
    Undisturbed S R C tid Q (Program.perform c) x := by
  intro y hy i r es s hexec
  obtain ⟨hC, hQ⟩ := h y hy i r es s hexec
  cases r with
  | ok a => exact ⟨hC, hQ⟩
  | error e => exact ⟨hC, hQ⟩

/-- A program all of whose commands keep an assertion that the others keep too. -/
theorem issues {p : Program F ε α} (hR : ∀ y z, A y → R y z → A z)
    (h : p.Issues fun {_} c => ∀ y, A y → ∀ i b es s, S.exec tid c i y.state = some (b, es, s) →
      C y es ∧ A (y.next tid es s)) (hx : A x) :
    Undisturbed S R C tid (fun _ => A) p x := by
  induction p generalizing x with
  | ret a => exact hx
  | throw e => exact hx
  | step c k ih =>
    intro y hy i b es s hexec
    obtain ⟨hC, hA⟩ := h.1 y (hR x y hx hy) i b es s hexec
    exact ⟨hC, ih b (h.2 b) hA⟩

/-! ## Histories -/

section Histories

variable {p : Pool F ε η σ Op} {op : Op} {rest : Program F ε Unit}

/-- What is left of a thread after the moves of others is what it was. -/
theorem threads_of_other {move : Move Op ι κ} (h : ∀ i, move ≠ .step tid i)
    (hthread : p.threads[tid]? = some (op, rest)) :
    (p.step S move).threads[tid]? = some (op, rest) := by
  cases move with
  | start op' => exact List.getElem?_append_left (List.getElem?_eq_some_iff.mp hthread).1 ▸ hthread
  | disturb d => exact hthread
  | step t i =>
    have hne : t ≠ tid := fun heq => h i (by rw [heq])
    cases ht : p.threads[t]? with
    | none => rwa [Pool.step_no_thread ht]
    | some thread =>
      obtain ⟨op', rest'⟩ := thread
      rw [Pool.step_thread ht]
      cases rest' with
      | ret a | throw e => exact hthread
      | step c k =>
        simp only [Pool.stepThread]
        cases S.exec t c i p.now.state with
        | none => exact hthread
        | some r => exact (List.getElem?_set_ne hne).trans hthread

/-- A step of the thread itself meets the condition, and what is left of it then does. -/
theorem own_step (hrefl : ∀ x, R x x) {Q : Except ε Unit → Logged η σ → Prop}
    (hthread : p.threads[tid]? = some (op, rest)) (hx : R x p.now)
    (h : Undisturbed S R C tid Q rest x) (i : ι) :
    p.StepMeets S (fun _ t x _ es => t = tid → C x es) tid i op rest ∧
      ∃ rest' x', (p.step S (.step tid i : Move Op ι κ)).threads[tid]? = some (op, rest') ∧
        R x' (p.step S (.step tid i : Move Op ι κ)).now ∧ Undisturbed S R C tid Q rest' x' := by
  rw [Pool.step_thread hthread]
  cases rest with
  | ret a => exact ⟨trivial, .ret a, x, hthread, hx, h⟩
  | throw e => exact ⟨trivial, .throw e, x, hthread, hx, h⟩
  | step c k =>
    simp only [Pool.stepThread, Pool.StepMeets]
    cases hexec : S.exec tid c i p.now.state with
    | none => exact ⟨fun _ _ _ hnone => (by cases hnone), .step c k, x, hthread, hx, h⟩
    | some r =>
      obtain ⟨b, es, s⟩ := r
      obtain ⟨hC, hk⟩ := h p.now hx i b es s hexec
      refine ⟨?_, k b, _, ?_, hrefl _, hk⟩
      · rintro _ _ _ ⟨⟩ -
        exact hC
      · exact List.getElem?_set_self (List.getElem?_eq_some_iff.mp hthread).1

/-- **A thread meets the condition** in each of its steps, in a history of which every other move keeps
to `R`. -/
theorem meets (hrefl : ∀ x, R x x) (htrans : ∀ x y z, R x y → R y z → R x z)
    {Q : Except ε Unit → Logged η σ → Prop} (hthread : p.threads[tid]? = some (op, rest))
    (h : Undisturbed S R C tid Q rest p.now) {moves : List (Move Op ι κ)}
    (hothers : History.Each (Pool.step S)
      (fun p move => (∀ i, move ≠ .step tid i) → R p.now (p.step S move).now) p moves) :
    History.Each (Pool.step S)
      (Pool.Meets S (fun _ t x _ es => t = tid → C x es) fun _ _ => True) p moves := by
  -- what is left of the thread is as it was left, and only the others have moved since
  suffices hrun : ∀ (moves : List (Move Op ι κ)) (p : Pool F ε η σ Op) rest x,
      p.threads[tid]? = some (op, rest) → R x p.now → Undisturbed S R C tid Q rest x →
      History.Each (Pool.step S)
        (fun p move => (∀ i, move ≠ .step tid i) → R p.now (p.step S move).now) p moves →
      History.Each (Pool.step S)
        (Pool.Meets S (fun _ t x _ es => t = tid → C x es) fun _ _ => True) p moves from
    hrun moves p rest p.now hthread (hrefl _) h hothers
  intro moves
  induction moves with
  | nil => exact fun _ _ _ _ _ _ _ => trivial
  | cons move moves ih =>
    rintro p rest x hthread hx h ⟨hmove, hothers⟩
    by_cases hother : ∀ i, move ≠ .step tid i
    · refine ⟨?_, ih _ rest x (threads_of_other hother hthread) (htrans _ _ _ hx (hmove hother)) h
        hothers⟩
      cases move with
      | start op' => trivial
      | disturb d => trivial
      | step t i =>
        refine fun op' rest' _ => ?_
        cases rest' with
        | ret a | throw e => trivial
        | step c k => exact fun _ _ _ _ ht => absurd (by rw [ht]) (hother i)
    · obtain ⟨i, rfl⟩ : ∃ i, move = .step tid i := by
        by_contra hnone
        exact hother fun i heq => hnone ⟨i, heq⟩
      obtain ⟨hmeets, rest', x', hthread', hx', h'⟩ := own_step hrefl hthread hx h i
      refine ⟨fun op' rest₀ h₀ => ?_, ih _ rest' x' hthread' hx' h' hothers⟩
      rw [hthread] at h₀
      cases h₀
      exact hmeets

end Histories

end Undisturbed

end Program
