import Deliivo.Program.Basic
import Deliivo.Store.History

/-!
# Programs next to each other

A pool runs programs in threads over one shared state. Its moves start an operation in a new
thread, let one thread issue its next command, or let the environment change the shared state; any
thread may move next, so a history of moves is an interleaving. A command may find itself blocked,
and then nothing happens. What the commands report is kept in a log, each entry with its thread.

## Main definitions

* `Concurrent`: what commands do for a thread, what the environment can do, and the operations
* `Pool.step`: one move
* `Pool.Meets`: a move meets a condition on the steps of threads and one on the environment
* `Pool.Idle`: no operation is in progress

## Main results

* `Pool.step_thread`: what one step of a thread is
* `Pool.log_lt`: the log only names threads that have been started
-/

universe u

namespace Program

/-- A shared state with a log of events, each with its thread. -/
structure Logged (η σ : Type) where
  state : σ
  log : List (ℕ × η) := []

namespace Logged

variable {η σ : Type}

/-- The logged state after a command of thread `tid` has reported `es` and left `s`. -/
def next (x : Logged η σ) (tid : ℕ) (es : List η) (s : σ) : Logged η σ where
  state := s
  log := x.log ++ es.map (Prod.mk tid)

@[simp] theorem next_state (x : Logged η σ) (tid : ℕ) (es : List η) (s : σ) :
    (x.next tid es s).state = s := rfl

/-- A command that has no effect. -/
theorem next_none (x : Logged η σ) (tid : ℕ) : x.next tid [] x.state = x := by
  rw [next, List.map_nil, List.append_nil]

theorem mem_next_log {x : Logged η σ} {tid : ℕ} {es : List η} {s : σ} {entry : ℕ × η} :
    entry ∈ (x.next tid es s).log ↔ entry ∈ x.log ∨ entry.1 = tid ∧ entry.2 ∈ es := by
  obtain ⟨i, e⟩ := entry
  simp only [next, List.mem_append, List.mem_map, Prod.mk.injEq]
  constructor
  · rintro (h | ⟨e', he', rfl, rfl⟩)
    · exact Or.inl h
    · exact Or.inr ⟨rfl, he'⟩
  · rintro (h | ⟨rfl, he⟩)
    · exact Or.inl h
    · exact Or.inr ⟨e, he, rfl, rfl⟩

/-- What one thread has reported. -/
def own (x : Logged η σ) (tid : ℕ) : List η :=
  x.log.filterMap fun entry => if entry.1 = tid then some entry.2 else none

theorem mem_own {x : Logged η σ} {tid : ℕ} {e : η} : e ∈ x.own tid ↔ (tid, e) ∈ x.log := by
  simp [own]

@[simp] theorem own_next_self (x : Logged η σ) (tid : ℕ) (es : List η) (s : σ) :
    (x.next tid es s).own tid = x.own tid ++ es := by
  simp [own, next, List.filterMap_append, List.filterMap_map]

theorem own_next_ne {x : Logged η σ} {tid t : ℕ} {es : List η} {s : σ} (h : t ≠ tid) :
    (x.next tid es s).own t = x.own t := by
  simp [own, next, List.filterMap_append, List.filterMap_map, Ne.symm h]

/-- A thread that the log does not name has reported nothing. -/
theorem own_eq_nil {x : Logged η σ} {tid : ℕ} (h : ∀ entry ∈ x.log, entry.1 ≠ tid) :
    x.own tid = [] := by
  rw [own, List.filterMap_eq_nil_iff]
  intro entry hentry
  exact if_neg (h entry hentry)

end Logged

/-- What runs concurrently: the effect of a command for a thread under the environment's reply,
`none` where it is blocked; what the environment does to the shared state; the operations. -/
structure Concurrent (F : Type → Type u) (ε ι η σ κ Op : Type) where
  exec {β : Type} : ℕ → F β → ι → σ → Option (β × List η × σ)
  disturb : κ → σ → σ
  program : Op → Program F ε Unit

/-- One move of a pool. -/
inductive Move (Op ι κ : Type)
  | start (op : Op)
  | step (tid : ℕ) (reply : ι)
  | disturb (d : κ)

/-- Threads over a logged state; a thread is an operation and what is left of it. -/
structure Pool (F : Type → Type u) (ε η σ Op : Type) where
  now : Logged η σ
  threads : List (Op × Program F ε Unit) := []

/-- Nothing is left of a program. -/
def Done {F : Type → Type u} {ε α : Type} : Program F ε α → Prop
  | ret _ | throw _ => True
  | step _ _ => False

/-- How a program has ended, if it has. -/
def result? {F : Type → Type u} {ε α : Type} : Program F ε α → Option (Except ε α)
  | ret a => some (.ok a)
  | throw e => some (.error e)
  | step _ _ => none

theorem done_iff {F : Type → Type u} {ε α : Type} {p : Program F ε α} :
    p.Done ↔ ∃ r, p.result? = some r := by
  cases p with
  | ret a => exact iff_of_true trivial ⟨_, rfl⟩
  | throw e => exact iff_of_true trivial ⟨_, rfl⟩
  | step c k => exact iff_of_false id fun ⟨_, h⟩ => by cases h

namespace Pool

variable {F : Type → Type u} {ε ι η σ κ Op : Type} (S : Concurrent F ε ι η σ κ Op)

/-- One step of a thread, given what is left of it. -/
def stepThread (p : Pool F ε η σ Op) (tid : ℕ) (reply : ι) (op : Op) :
    Program F ε Unit → Pool F ε η σ Op
  | .ret _ | .throw _ => p
  | .step c k =>
    match S.exec tid c reply p.now.state with
    | none => p
    | some (b, es, s) =>
      { now := p.now.next tid es s
        threads := p.threads.set tid (op, k b) }

/-- One move. -/
def step (p : Pool F ε η σ Op) : Move Op ι κ → Pool F ε η σ Op
  | .start op => { p with threads := p.threads ++ [(op, S.program op)] }
  | .disturb d => { p with now := { p.now with state := S.disturb d p.now.state } }
  | .step tid reply =>
    match p.threads[tid]? with
    | none => p
    | some (op, rest) => p.stepThread S tid reply op rest

/-- The step of a thread meets the condition `cond` on the state it is taken in, the reply and what
it reports; a step that is blocked does. -/
def StepMeets (cond : Op → ℕ → Logged η σ → ι → List η → Prop) (p : Pool F ε η σ Op) (tid : ℕ)
    (reply : ι) (op : Op) : Program F ε Unit → Prop
  | .ret _ | .throw _ => True
  | .step c _ => ∀ b es s, S.exec tid c reply p.now.state = some (b, es, s) →
      cond op tid p.now reply es

/-- A move meets the condition `cond` on steps and `disturbance` on what the environment does. -/
def Meets (cond : Op → ℕ → Logged η σ → ι → List η → Prop)
    (disturbance : κ → Logged η σ → Prop) (p : Pool F ε η σ Op) : Move Op ι κ → Prop
  | .start _ => True
  | .disturb d => disturbance d p.now
  | .step tid reply => ∀ op rest, p.threads[tid]? = some (op, rest) →
      p.StepMeets S cond tid reply op rest

section Conditions

variable {S} {cond cond' : Op → ℕ → Logged η σ → ι → List η → Prop}
  {disturbance : κ → Logged η σ → Prop} {p : Pool F ε η σ Op} {move : Move Op ι κ}

theorem Meets.imp (h : p.Meets S cond disturbance move)
    (hcond : ∀ op tid x i es, cond op tid x i es → cond' op tid x i es) :
    p.Meets S cond' disturbance move := by
  cases move with
  | start op => trivial
  | disturb d => exact h
  | step tid reply =>
    intro op rest ht
    cases rest with
    | ret a | throw e => trivial
    | step c k => exact fun b es s hexec => hcond _ _ _ _ _ (h op _ ht b es s hexec)

/-- Where nothing is asked of a step, every move meets it. -/
theorem meets_of_forall (hcond : ∀ op tid x i es, cond op tid x i es)
    (hdisturb : ∀ d x, disturbance d x) (p : Pool F ε η σ Op) (move : Move Op ι κ) :
    p.Meets S cond disturbance move := by
  cases move with
  | start op => trivial
  | disturb d => exact hdisturb d p.now
  | step tid reply =>
    intro op rest _
    cases rest with
    | ret a | throw e => trivial
    | step c k => exact fun _ _ _ _ => hcond _ _ _ _ _

end Conditions

/-- Every operation that has been started has ended. -/
def Idle (p : Pool F ε η σ Op) : Prop := ∀ t ∈ p.threads, t.2.Done

variable {S}

theorem step_thread {p : Pool F ε η σ Op} {tid : ℕ} {reply : ι} {op : Op} {rest : Program F ε Unit}
    (h : p.threads[tid]? = some (op, rest)) :
    p.step S (.step tid reply) = p.stepThread S tid reply op rest := by
  simp only [step, h]

theorem step_no_thread {p : Pool F ε η σ Op} {tid : ℕ} {reply : ι} (h : p.threads[tid]? = none) :
    p.step S (.step tid reply) = p := by
  simp only [step, h]

/-- The log only names threads that have been started. -/
def LogLt (p : Pool F ε η σ Op) : Prop := ∀ entry ∈ p.now.log, entry.1 < p.threads.length

theorem logLt_step (p : Pool F ε η σ Op) (move : Move Op ι κ) (h : p.LogLt) :
    (p.step S move).LogLt := by
  cases move with
  | start op =>
    intro entry hentry
    rw [step, List.length_append]
    exact Nat.lt_add_right _ (h entry hentry)
  | disturb d => exact h
  | step tid reply =>
    cases ht : p.threads[tid]? with
    | none => rwa [step_no_thread ht]
    | some t =>
      obtain ⟨op, rest⟩ := t
      rw [step_thread ht]
      cases rest with
      | ret a | throw e => exact h
      | step c k =>
        simp only [stepThread]
        cases hexec : S.exec tid c reply p.now.state with
        | none => exact h
        | some r =>
          intro entry hentry
          rw [List.length_set]
          rcases Logged.mem_next_log.mp hentry with hold | ⟨rfl, -⟩
          · exact h entry hold
          · exact (List.getElem?_eq_some_iff.mp ht).1

end Pool

end Program
