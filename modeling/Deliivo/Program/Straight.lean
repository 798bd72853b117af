import Deliivo.Program.Sequential

/-!
# Straight runs

A program runs straight from a state if its commands succeed one after the other under the reply
`i₀`, and any other reply makes the command it meets fail without effect, with the exception `e₀`.
What such a run does under arbitrary replies is then known from the first failing command alone:
the run stops there, in the state that the commands before it have left.

## Main definitions

* `Program.Straight M i₀ e₀ p s l a s'`: `p` runs straight from `s` to `s'`, returning `a`; `l`
  lists the states in which its commands are issued

## Main results

* `Straight.bind`: straight runs compose
* `Straight.run_ok`, `Straight.run_fault`: the run without a failing command, and the run up to the
  first one
* `Straight.run_cases`: every run is one of the two
-/

universe u

namespace Program

variable {F : Type → Type u} {ι η σ ε α β γ : Type} {M : Machine F ι η σ} {i₀ : ι} {e₀ : ε}

/-- `p` runs straight from `s` to `s'` and returns `a`; its commands are issued in the states `l`. -/
inductive Straight (M : Machine F ι η σ) (i₀ : ι) (e₀ : ε) :
    Program F ε α → σ → List σ → α → σ → Prop
  | ret (a : α) (s : σ) : Straight M i₀ e₀ (ret a) s [] a s
  | step {β : Type} {c : F β} {k : β → Program F ε α} {s s' s'' : σ} {b : β} {es : List η}
      {l : List σ} {a : α}
      (exec : M.exec c i₀ s = (b, es, s'))
      (fault : ∀ i, i ≠ i₀ → ∃ b' es', M.exec c i s = (b', es', s) ∧ k b' = throw e₀)
      (rest : Straight M i₀ e₀ (k b) s' l a s'') :
      Straight M i₀ e₀ (step c k) s (s :: l) a s''

namespace Straight

variable {p : Program F ε α} {s s' s'' : σ} {l l' : List σ} {a : α} {b : β}

theorem bind {f : α → Program F ε β} (h : Straight M i₀ e₀ p s l a s')
    (hf : Straight M i₀ e₀ (f a) s' l' b s'') :
    Straight M i₀ e₀ (p.bind f) s (l ++ l') b s'' := by
  induction h with
  | ret a s => exact hf
  | step exec fault rest ih =>
    refine .step exec (fun i hi => ?_) (ih hf)
    obtain ⟨b', es', hexec, hthrow⟩ := fault i hi
    exact ⟨b', es', hexec, by rw [hthrow, throw_bind]⟩

variable {o : ℕ → ι} {n : ℕ}

theorem run_ok (h : Straight M i₀ e₀ p s l a s') (hok : ∀ j < l.length, o (n + j) = i₀) :
    run M o p n s = (.ok a, n + l.length, s') := by
  induction h generalizing n with
  | ret a s => rfl
  | @step γ c k s s' s'' b es l a exec fault rest ih =>
    have h0 : o n = i₀ := hok 0 (Nat.succ_pos _)
    have hok' : ∀ j < l.length, o (n + 1 + j) = i₀ := fun j hj => by
      rw [Nat.add_right_comm]
      exact hok (j + 1) (Nat.succ_lt_succ hj)
    rw [run_step, h0, exec, ih hok', List.length_cons, Nat.add_right_comm, Nat.add_assoc]

/-- The first command that meets another reply ends the run, in the state it was issued in. -/
theorem run_fault (h : Straight M i₀ e₀ p s l a s') {j : ℕ} (hj : j < l.length)
    (hok : ∀ k < j, o (n + k) = i₀) (hbad : o (n + j) ≠ i₀) :
    run M o p n s = (.error e₀, n + j + 1, l[j]) := by
  induction h generalizing n j with
  | ret a s => exact absurd hj (Nat.not_lt_zero _)
  | @step γ c k s s' s'' b es l a exec fault rest ih =>
    cases j with
    | zero =>
      obtain ⟨b', es', hexec, hthrow⟩ := fault (o n) hbad
      rw [run_step, hexec, hthrow]
      rfl
    | succ j =>
      have h0 : o n = i₀ := hok 0 (Nat.succ_pos _)
      have hok' : ∀ k < j, o (n + 1 + k) = i₀ := fun k hk => by
        rw [Nat.add_right_comm]
        exact hok (k + 1) (Nat.succ_lt_succ hk)
      have hbad' : o (n + 1 + j) ≠ i₀ := by
        rwa [Nat.add_right_comm]
      rw [run_step, h0, exec, ih (Nat.lt_of_succ_lt_succ hj) hok' hbad', Nat.add_right_comm n 1 j]
      rfl

/-- A straight run goes through, or stops at its first failing command. -/
theorem run_cases (h : Straight M i₀ e₀ p s l a s') (o : ℕ → ι) (n : ℕ) :
    (∀ j < l.length, o (n + j) = i₀) ∧ run M o p n s = (.ok a, n + l.length, s') ∨
      ∃ (j : ℕ) (hj : j < l.length), (∀ k < j, o (n + k) = i₀) ∧ o (n + j) ≠ i₀ ∧
        run M o p n s = (.error e₀, n + j + 1, l[j]) := by
  classical
  by_cases hok : ∀ j < l.length, o (n + j) = i₀
  · exact Or.inl ⟨hok, h.run_ok hok⟩
  · have hex : ∃ j, j < l.length ∧ o (n + j) ≠ i₀ := by simpa using hok
    obtain ⟨hj, hbad⟩ := Nat.find_spec hex
    have hbefore : ∀ k < Nat.find hex, o (n + k) = i₀ := by
      intro k hk
      by_contra hne
      exact Nat.find_min hex hk ⟨hk.trans hj, hne⟩
    exact Or.inr ⟨Nat.find hex, hj, hbefore, hbad, h.run_fault hj hbefore hbad⟩

theorem eval (h : Straight M i₀ e₀ p s l a s') : Program.eval M i₀ p s = (.ok a, s') := by
  rw [← run_const M i₀ p 0 s, h.run_ok fun _ _ => rfl]

/-- A single command that meets the good reply. -/
theorem run_single_ok {t : σ} (h : Straight M i₀ e₀ p s [t] a s') (ho : o n = i₀) :
    run M o p n s = (.ok a, n + 1, s') :=
  h.run_ok fun j hj => by
    obtain rfl : j = 0 := by simpa using hj
    exact ho

/-- A single command that meets another reply. -/
theorem run_single_fault {t : σ} (h : Straight M i₀ e₀ p s [t] a s') (ho : o n ≠ i₀) :
    run M o p n s = (.error e₀, n + 1, t) :=
  h.run_fault (Nat.succ_pos 0) (fun _ hk => absurd hk (Nat.not_lt_zero _)) ho

end Straight

end Program
