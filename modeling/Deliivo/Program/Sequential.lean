import Deliivo.Program.Basic

/-!
# Running one program alone

A machine says what a command does: from the environment's reply and the state, an answer, the
events it gives rise to and the next state. The environment is a sequence of replies, one for every
command issued, so a run is determined by the program, the replies and the state it starts from,
and the position in the sequence is passed along: the commands of a second program meet the replies
that come after those of the first.

## Main definitions

* `Machine F ι η σ`: what the commands of `F` do to states `σ` under replies `ι`
* `Program.run M o p n s`: the run of `p` from `s`, its `k`-th command meeting the reply `o (n + k)`
* `Program.Wp M Q p s`: whatever the replies, `p` ends from `s` in an outcome and a state with `Q`

## Main results

* `Program.run_bind`, `Program.run_tryCatch`: a run goes through its parts
* `Program.wp_run`, `Program.wp_iff_run`: what holds against all replies is what holds of every run
* `Program.Wp.bind`, `Program.Wp.tryCatch`, `Program.wp_forEach_flatMap`: the rules of the predicate
-/

universe u

/-- What the commands of `F` do: from the environment's reply and the state, an answer, the events
the command gives rise to and the state it leaves. -/
structure Machine (F : Type → Type u) (ι η σ : Type) where
  exec {β : Type} : F β → ι → σ → β × List η × σ

namespace Program

variable {F : Type → Type u} {ι η σ ε α β γ : Type}

/-! ## Runs -/

section Run

variable (M : Machine F ι η σ) (o : ℕ → ι)

/-- The run of a program from position `n` of the replies `o`: its outcome, the position reached
and the final state. -/
def run : Program F ε α → ℕ → σ → Except ε α × ℕ × σ
  | ret a, n, s => (.ok a, n, s)
  | throw e, n, s => (.error e, n, s)
  | step c k, n, s => (k (M.exec c (o n) s).1).run (n + 1) (M.exec c (o n) s).2.2

@[simp] theorem run_ret (a : α) (n : ℕ) (s : σ) :
    run M o (ret a : Program F ε α) n s = (.ok a, n, s) := rfl

@[simp] theorem run_throw (e : ε) (n : ℕ) (s : σ) :
    run M o (throw e : Program F ε α) n s = (.error e, n, s) := rfl

@[simp] theorem run_step (c : F β) (k : β → Program F ε α) (n : ℕ) (s : σ) :
    run M o (step c k) n s = run M o (k (M.exec c (o n) s).1) (n + 1) (M.exec c (o n) s).2.2 := rfl

/-- What is left to do once the first part of a sequence has ended with outcome `r`. -/
def resume (f : α → Program F ε β) :
    Except ε α × ℕ × σ → Except ε β × ℕ × σ
  | (.ok a, n, s) => run M o (f a) n s
  | (.error e, n, s) => (.error e, n, s)

@[simp] theorem resume_ok (f : α → Program F ε β) (a : α) (n : ℕ) (s : σ) :
    resume M o f (.ok a, n, s) = run M o (f a) n s := rfl

@[simp] theorem resume_error (f : α → Program F ε β) (e : ε) (n : ℕ) (s : σ) :
    resume M o f (.error e, n, s) = (.error e, n, s) := rfl

/-- A sequence runs its first part and resumes with the second where the first left off. -/
theorem run_bind (p : Program F ε α) (f : α → Program F ε β)
    (n : ℕ) (s : σ) : run M o (p.bind f) n s = resume M o f (run M o p n s) := by
  induction p generalizing n s with
  | ret a => rfl
  | throw e => rfl
  | step c k ih => exact ih _ _ _

/-- The handler runs from where the exception was thrown, on the state left there. -/
def recover (h : ε → Program F ε α) :
    Except ε α × ℕ × σ → Except ε α × ℕ × σ
  | (.ok a, n, s) => (.ok a, n, s)
  | (.error e, n, s) => run M o (h e) n s

@[simp] theorem recover_ok (h : ε → Program F ε α) (a : α) (n : ℕ) (s : σ) :
    recover M o h (.ok a, n, s) = (.ok a, n, s) := rfl

@[simp] theorem recover_error (h : ε → Program F ε α) (e : ε) (n : ℕ) (s : σ) :
    recover M o h (.error e, n, s) = run M o (h e) n s := rfl

theorem run_tryCatch (p : Program F ε α) (h : ε → Program F ε α)
    (n : ℕ) (s : σ) : run M o (p.tryCatch h) n s = recover M o h (run M o p n s) := by
  induction p generalizing n s with
  | ret a => rfl
  | throw e => rfl
  | step c k ih => exact ih _ _ _

end Run

/-! ## Runs with one reply throughout -/

section Eval

variable (M : Machine F ι η σ) (i : ι)

/-- The run of a program all of whose commands meet the reply `i`: its outcome and final state. -/
def eval : Program F ε α → σ → Except ε α × σ
  | ret a, s => (.ok a, s)
  | throw e, s => (.error e, s)
  | step c k, s => (k (M.exec c i s).1).eval (M.exec c i s).2.2

@[simp] theorem eval_ret (a : α) (s : σ) : eval M i (ret a : Program F ε α) s = (.ok a, s) := rfl

@[simp] theorem eval_throw (e : ε) (s : σ) :
    eval M i (throw e : Program F ε α) s = (.error e, s) := rfl

@[simp] theorem eval_step (c : F β) (k : β → Program F ε α) (s : σ) :
    eval M i (step c k) s = eval M i (k (M.exec c i s).1) (M.exec c i s).2.2 := rfl

theorem run_const (p : Program F ε α) (n : ℕ) (s : σ) :
    ((run M (fun _ => i) p n s).1, (run M (fun _ => i) p n s).2.2) = eval M i p s := by
  induction p generalizing n s with
  | ret a => rfl
  | throw e => rfl
  | step c k ih => exact ih _ _ _

variable {M i}

theorem eval_bind (p : Program F ε α) (f : α → Program F ε β) (s : σ) :
    eval M i (p.bind f) s =
      match eval M i p s with
      | (.ok a, s') => eval M i (f a) s'
      | (.error e, s') => (.error e, s') := by
  induction p generalizing s with
  | ret a => rfl
  | throw e => rfl
  | step c k ih => exact ih _ _

theorem eval_bind_ok {p : Program F ε α} {f : α → Program F ε β} {s s' : σ} {a : α}
    (h : eval M i p s = (.ok a, s')) : eval M i (p.bind f) s = eval M i (f a) s' := by
  rw [eval_bind, h]

theorem eval_bind_error {p : Program F ε α} {f : α → Program F ε β} {s s' : σ} {e : ε}
    (h : eval M i p s = (.error e, s')) : eval M i (p.bind f) s = (.error e, s') := by
  rw [eval_bind, h]

theorem eval_tryCatch_ok {p : Program F ε α} {handler : ε → Program F ε α} {s s' : σ} {a : α}
    (h : eval M i p s = (.ok a, s')) : eval M i (p.tryCatch handler) s = (.ok a, s') := by
  induction p generalizing s with
  | ret a => exact h
  | throw e => simp at h
  | step c k ih => exact ih _ h

theorem eval_tryCatch_error {p : Program F ε α} {handler : ε → Program F ε α} {s s' : σ} {e : ε}
    (h : eval M i p s = (.error e, s')) :
    eval M i (p.tryCatch handler) s = eval M i (handler e) s' := by
  induction p generalizing s with
  | ret a => simp at h
  | throw e' =>
    obtain ⟨he, rfl⟩ := Prod.mk.injEq .. ▸ h
    cases he
    rfl
  | step c k ih => exact ih _ h

end Eval

/-! ## What holds whatever the replies -/

section Wp

/-- Whatever the replies, `p` ends from `s` in an outcome and a state satisfying `Q`. -/
def Wp (M : Machine F ι η σ) (Q : Except ε α → σ → Prop) : Program F ε α → σ → Prop
  | ret a, s => Q (.ok a) s
  | throw e, s => Q (.error e) s
  | step c k, s => ∀ i, (k (M.exec c i s).1).Wp M Q (M.exec c i s).2.2

variable {M : Machine F ι η σ} {Q Q' : Except ε α → σ → Prop} {R : Except ε β → σ → Prop}

theorem wp_run {p : Program F ε α} {s : σ} (h : p.Wp M Q s) (o : ℕ → ι) (n : ℕ) :
    Q (run M o p n s).1 (run M o p n s).2.2 := by
  induction p generalizing n s with
  | ret a => exact h
  | throw e => exact h
  | step c k ih => exact ih _ (h (o n)) (n + 1)

/-- A run looks at the replies from its position on only. -/
theorem run_congr {o o' : ℕ → ι} (p : Program F ε α) {n : ℕ} (h : ∀ m, n ≤ m → o m = o' m) (s : σ) :
    run M o p n s = run M o' p n s := by
  induction p generalizing n s with
  | ret a => rfl
  | throw e => rfl
  | step c k ih =>
    rw [run_step, run_step, h n le_rfl]
    exact ih _ (fun m hm => h m (Nat.le_of_succ_le hm)) _

/-- What holds against all replies is what holds of every run. -/
theorem wp_iff_run [Nonempty ι] {p : Program F ε α} {s : σ} (n : ℕ) :
    p.Wp M Q s ↔ ∀ o, Q (run M o p n s).1 (run M o p n s).2.2 := by
  refine ⟨fun h o => wp_run h o n, fun h => ?_⟩
  induction p generalizing n s with
  | ret a => exact h fun _ => Classical.arbitrary ι
  | throw e => exact h fun _ => Classical.arbitrary ι
  | step c k ih =>
    intro i
    refine ih _ (n + 1) fun o => ?_
    have hrun := h fun m => if m = n then i else o m
    simp only [run_step, if_pos] at hrun
    have hcongr := @run_congr _ _ _ _ _ _ M (fun m => if m = n then i else o m) o
      (k (M.exec c i s).1) (n + 1) (fun m hm => if_neg (by omega)) (M.exec c i s).2.2
    rwa [hcongr] at hrun

theorem Wp.mono {p : Program F ε α} {s : σ} (h : p.Wp M Q s)
    (hQ : ∀ r s, Q r s → Q' r s) : p.Wp M Q' s := by
  induction p generalizing s with
  | ret a => exact hQ _ _ h
  | throw e => exact hQ _ _ h
  | step c k ih => exact fun i => ih _ (h i)

/-- A sequence: the first part ends where the second may start, or throws where that is allowed. -/
theorem Wp.bind {p : Program F ε α} {f : α → Program F ε β} {s : σ}
    (h : p.Wp M (fun r s => match r with | .ok a => (f a).Wp M R s | .error e => R (.error e) s) s) :
    (p.bind f).Wp M R s := by
  induction p generalizing s with
  | ret a => exact h
  | throw e => exact h
  | step c k ih => exact fun i => ih _ (h i)

theorem Wp.tryCatch {p : Program F ε α} {h : ε → Program F ε α}
    {s : σ}
    (hp : p.Wp M (fun r s => match r with | .ok a => Q (.ok a) s | .error e => (h e).Wp M Q s) s) :
    (p.tryCatch h).Wp M Q s := by
  induction p generalizing s with
  | ret a => exact hp
  | throw e => exact hp
  | step c k ih => exact fun i => ih _ (hp i)

/-- `p` preserves `I` whatever the replies, and whether it returns or throws. -/
def Preserves (M : Machine F ι η σ) (I : σ → Prop) (p : Program F ε α) : Prop :=
  ∀ s, I s → p.Wp M (fun _ s => I s) s

variable {I : σ → Prop}

theorem preserves_ret (a : α) : Preserves M I (ret a : Program F ε α) := fun _ h => h

theorem preserves_throw (e : ε) : Preserves M I (throw e : Program F ε α) := fun _ h => h

theorem Preserves.bind {p : Program F ε α} {f : α → Program F ε β} (hp : p.Preserves M I)
    (hf : ∀ a, (f a).Preserves M I) : (p.bind f).Preserves M I := by
  intro s h
  refine Wp.bind ((hp s h).mono fun r s' h' => ?_)
  cases r with
  | ok a => exact hf a s' h'
  | error e => exact h'

/-- What the steps of a loop add up to. -/
theorem wp_forEach_flatMap {τ γ : Type} {C : σ → σ → List τ → Prop} (hnil : ∀ s, C s s [])
    (happend : ∀ {s s' s'' l l'}, C s s' l → C s' s'' l' → C s s'' (l ++ l')) {g : γ → List τ}
    {f : γ → Program F ε Unit} {xs : List γ}
    (hf : ∀ x ∈ xs, ∀ s, (f x).Wp M (fun r s' => r = .ok () → C s s' (g x)) s) (s : σ) :
    (forEach xs f).Wp M (fun r s' => r = .ok () → C s s' (xs.flatMap g)) s := by
  induction xs generalizing s with
  | nil => exact fun _ => hnil s
  | cons x xs ih =>
    refine Wp.bind ((hf x List.mem_cons_self s).mono ?_)
    rintro (e | u) s' hx
    · intro herror
      cases herror
    · refine (ih (fun y hy => hf y (List.mem_cons_of_mem _ hy)) s').mono ?_
      intro r s'' hrest hok
      exact happend (hx rfl) (hrest hok)

end Wp

end Program
