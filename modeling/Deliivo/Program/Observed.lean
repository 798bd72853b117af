import Deliivo.Program.Confined

/-!
# Pools with a value beside the state

What a property compares the state with may be something that the state no longer shows. A pool is
observed by a value that is worked out from what every command reports and the state that it leaves.
Nothing that is observed changes what the pool does.

## Main definitions

* `Concurrent.observed`: the pool with the value
* `Pool.erase`: the pool without it

## Main results

* `Pool.erase_after`: an observed pool does what the pool does
* `Pool.OpsConfined.observed`: what the operations issue is the same
-/

universe u

namespace Program

variable {F : Type → Type u} {ε ι η σ κ Op γ : Type}

/-- What runs concurrently, with a value that `observe` works out from what a command has reported
and the state that it leaves. -/
def Concurrent.observed (S : Concurrent F ε ι η σ κ Op) (observe : List η → σ → γ → γ) :
    Concurrent F ε ι η (σ × γ) κ Op where
  exec tid c i s := (S.exec tid c i s.1).map fun r => (r.1, r.2.1, r.2.2, observe r.2.1 r.2.2 s.2)
  disturb d s := (S.disturb d s.1, s.2)
  program := S.program

namespace Pool

variable {S : Concurrent F ε ι η σ κ Op} {observe : List η → σ → γ → γ}

/-- The pool without the value. -/
def erase (p : Pool F ε η (σ × γ) Op) : Pool F ε η σ Op where
  now := { state := p.now.state.1, log := p.now.log }
  threads := p.threads

theorem erase_step (p : Pool F ε η (σ × γ) Op) (move : Move Op ι κ) :
    (p.step (S.observed observe) move).erase = p.erase.step S move := by
  cases move with
  | start op | disturb d => rfl
  | step tid reply =>
    cases ht : p.threads[tid]? with
    | none =>
      have ht' : p.erase.threads[tid]? = none := ht
      rw [step_no_thread ht, step_no_thread ht']
    | some t =>
      obtain ⟨op, rest⟩ := t
      have ht' : p.erase.threads[tid]? = some (op, rest) := ht
      rw [step_thread ht, step_thread ht']
      cases rest with
      | ret a | throw e => rfl
      | step c k =>
        have hstate : p.erase.now.state = p.now.state.1 := rfl
        simp only [stepThread, Concurrent.observed, hstate]
        cases S.exec tid c reply p.now.state.1 <;> rfl

/-- **An observed pool does what the pool does.** -/
theorem erase_after (p : Pool F ε η (σ × γ) Op) (moves : List (Move Op ι κ)) :
    (History.after (step (S.observed observe)) p moves).erase =
      History.after (step S) p.erase moves := by
  induction moves generalizing p with
  | nil => rfl
  | cons move moves ih =>
    rw [History.after_cons, History.after_cons, ih, erase_step]

/-- Observing changes nothing of what the operations issue. -/
theorem OpsConfined.observed {C : Op → {β : Type} → F β → Prop} (h : OpsConfined S C) :
    OpsConfined (S.observed observe) C := by
  intro op
  refine (h op).anti fun c b hb => ?_
  obtain ⟨tid, i, s, es, s', hexec⟩ := hb
  obtain ⟨r, hr, heq⟩ := Option.map_eq_some_iff.mp hexec
  obtain ⟨rfl, -⟩ := Prod.mk.injEq .. ▸ heq
  exact ⟨tid, i, s.1, r.2.1, r.2.2, hr⟩

end Pool

end Program
