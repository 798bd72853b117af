import Deliivo.Program.RelyGuarantee

/-!
# Pools that log what their steps are seen to do

A log of events says what the commands report. Where a property is about something else that a thread
has done, what it has read or what it has asked of another system, the pool is traced: every step logs
beside its events what can be seen of it. Tracing changes nothing of what the pool does.

## Main definitions

* `Concurrent.traced`: the pool that logs what is seen
* `Pool.untraced`: its events alone

## Main results

* `Pool.untraced_after`: a traced pool does what the pool does
* `Protocol.keeps_traced`: a command of a traced pool
-/

universe u

namespace Program

variable {F : Type → Type u} {ε ι η σ κ Op ω : Type}

/-- What a step logs: its events, and what is seen of it. -/
def seenEvents (es : List η) (seen : List ω) : List (η ⊕ ω) := es.map .inl ++ seen.map .inr

theorem inl_mem_seenEvents {es : List η} {seen : List ω} {e : η} :
    .inl e ∈ seenEvents es seen ↔ e ∈ es := by
  simp [seenEvents]

theorem inr_mem_seenEvents {es : List η} {seen : List ω} {v : ω} :
    .inr v ∈ seenEvents es seen ↔ v ∈ seen := by
  simp [seenEvents]

/-- What runs concurrently, every step logging what `see` makes of it as well. -/
def Concurrent.traced (S : Concurrent F ε ι η σ κ Op)
    (see : {β : Type} → F β → ι → σ → List ω) : Concurrent F ε ι (η ⊕ ω) σ κ Op where
  exec tid c i s := (S.exec tid c i s).map fun r => (r.1, seenEvents r.2.1 (see c i s), r.2.2)
  disturb := S.disturb
  program := S.program

section Seen

variable (x : Logged (η ⊕ ω) σ)

/-- What a thread has been seen to do. -/
def Logged.seen (tid : ℕ) : List ω := (x.own tid).filterMap Sum.getRight?

variable {x}

theorem Logged.seen_next_self (tid : ℕ) (es : List η) (seen : List ω) (s : σ) :
    (x.next tid (seenEvents es seen) s).seen tid = x.seen tid ++ seen := by
  have hnone : (Sum.getRight? ∘ (Sum.inl : η → η ⊕ ω)) = fun _ => none := rfl
  have hsome : (Sum.getRight? ∘ (Sum.inr : ω → η ⊕ ω)) = some := rfl
  simp [Logged.seen, seenEvents, List.filterMap_append, List.filterMap_map, hnone, hsome]

theorem Logged.seen_next_ne {tid t : ℕ} {es : List (η ⊕ ω)} {s : σ} (h : t ≠ tid) :
    (x.next tid es s).seen t = x.seen t := by
  rw [Logged.seen, Logged.own_next_ne h, Logged.seen]

theorem Logged.seen_eq_nil {tid : ℕ} (h : ∀ entry ∈ x.log, entry.1 ≠ tid) : x.seen tid = [] := by
  rw [Logged.seen, Logged.own_eq_nil h, List.filterMap_nil]

end Seen

namespace Pool

variable {S : Concurrent F ε ι η σ κ Op} {see : {β : Type} → F β → ι → σ → List ω}

/-- The pool with its events alone. -/
def untraced (p : Pool F ε (η ⊕ ω) σ Op) : Pool F ε η σ Op where
  now := {
    state := p.now.state
    log := p.now.log.filterMap fun entry => entry.2.getLeft?.map (Prod.mk entry.1) }
  threads := p.threads

theorem untraced_step (p : Pool F ε (η ⊕ ω) σ Op) (move : Move Op ι κ) :
    (p.step (S.traced see) move).untraced = p.untraced.step S move := by
  cases move with
  | start op | disturb d => rfl
  | step tid reply =>
    cases ht : p.threads[tid]? with
    | none =>
      have ht' : p.untraced.threads[tid]? = none := ht
      rw [step_no_thread ht, step_no_thread ht']
    | some t =>
      obtain ⟨op, rest⟩ := t
      have ht' : p.untraced.threads[tid]? = some (op, rest) := ht
      rw [step_thread ht, step_thread ht']
      cases rest with
      | ret a | throw e => rfl
      | step c k =>
        have hstate : p.untraced.now.state = p.now.state := rfl
        simp only [stepThread, Concurrent.traced, hstate]
        cases S.exec tid c reply p.now.state with
        | none => rfl
        | some r =>
          simp only [Option.map_some, untraced, Logged.next, seenEvents, List.map_append,
            List.filterMap_append, List.map_map, List.filterMap_map]
          congr 2
          simp [Function.comp_def]

/-- **A traced pool does what the pool does.** -/
theorem untraced_after (p : Pool F ε (η ⊕ ω) σ Op) (moves : List (Move Op ι κ)) :
    (History.after (step (S.traced see)) p moves).untraced =
      History.after (step S) p.untraced moves := by
  induction moves generalizing p with
  | nil => rfl
  | cons move moves ih =>
    rw [History.after_cons, History.after_cons, ih, untraced_step]

end Pool

/-- One command of a traced pool, read off what it does in the pool. -/
theorem Protocol.keeps_traced {S : Concurrent F ε ι η σ κ Op}
    {see : {β : Type} → F β → ι → σ → List ω}
    {cond : Op → ℕ → Logged (η ⊕ ω) σ → ι → List (η ⊕ ω) → Prop}
    {disturbance : κ → Logged (η ⊕ ω) σ → Prop} {P : Protocol (S.traced see) cond disturbance}
    {op : Op} {tid : ℕ} {β : Type} {c : F β} {y : Logged (η ⊕ ω) σ}
    {Q : β → Logged (η ⊕ ω) σ → Prop}
    (h : ∀ i b es s, S.exec tid c i y.state = some (b, es, s) →
      cond op tid y i (seenEvents es (see c i y.state)) →
      let z := y.next tid (seenEvents es (see c i y.state)) s
      P.Guar tid y z ∧ P.Inv z ∧ Q b z) : P.Keeps op tid c y Q := by
  intro i b es s hexec hcond
  obtain ⟨r, hr, heq⟩ := Option.map_eq_some_iff.mp hexec
  obtain ⟨rfl, rfl, rfl⟩ : r.1 = b ∧ seenEvents r.2.1 (see c i y.state) = es ∧ r.2.2 = s := by
    simpa only [Prod.mk.injEq] using heq
  exact h i r.1 r.2.1 r.2.2 hr hcond

end Program
