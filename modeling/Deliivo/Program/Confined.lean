import Deliivo.Program.Pool

/-!
# Steps that are what they are whoever runs next to them

If every command that an operation can issue has some property, every step of the pool has it, in
any interleaving and whatever the threads have read before. What can be read off single commands in
this way needs no reasoning about what other threads do in between.

Which commands an operation can issue may depend on what it has been answered, so the property is
stated along the answers that are possible, together with what holds of the value returned.

## Main definitions

* `Emits A P Q`: along the answers in `A` a program issues commands with `P` and returns values
  with `Q`
* `Pool.Confined`: what is left of every thread issues commands of its operation's kind only

## Main results

* `Emits.bind`, `Emits.tryCatch`, `Emits.forEach`: the rules
* `Pool.relates_of_confined`, `Pool.each_of_confined`: a relation that every such command keeps holds
  between the logged states before and after every move
* `Pool.always_iff_each_of_confined`, `Pool.relates_iff_each_of_confined`: the exact rules for an
  invariant and for a relation
-/

universe u

namespace Program

/-! ## What a program issues, and what it returns -/

section Emits

variable {F : Type → Type u} {ε α β γ : Type} (A : {β : Type} → F β → β → Prop)
  (P : {β : Type} → F β → Prop)

/-- Along the answers in `A` the program issues commands with `P` and returns values with `Q`. -/
def Emits (Q : α → Prop) : Program F ε α → Prop
  | ret a => Q a
  | throw _ => True
  | step c k => P c ∧ ∀ b, A c b → Emits Q (k b)

variable {A P} {Q Q' : α → Prop} {R : β → Prop}

@[simp] theorem emits_throw (e : ε) : Emits A P Q (throw e : Program F ε α) := trivial

/-- Fewer answers are possible. -/
theorem Emits.anti {A' : {β : Type} → F β → β → Prop} {p : Program F ε α} (h : Emits A P Q p)
    (hA : ∀ {β : Type} (c : F β) (b : β), A' c b → A c b) : Emits A' P Q p := by
  induction p with
  | ret a => exact h
  | throw e => trivial
  | step c k ih => exact ⟨h.1, fun b hb => ih b (h.2 b (hA c b hb))⟩

theorem Emits.bind {p : Program F ε α} {f : α → Program F ε β} (hp : Emits A P Q p)
    (hf : ∀ a, Q a → Emits A P R (f a)) : Emits A P R (p.bind f) := by
  induction p with
  | ret a => exact hf a hp
  | throw e => trivial
  | step c k ih => exact ⟨hp.1, fun b hb => ih b (hp.2 b hb)⟩

theorem emits_perform {c : F (Except ε α)} (hc : P c) (hQ : ∀ a, A c (.ok a) → Q a) :
    Emits A P Q (perform c) := by
  refine ⟨hc, fun r hr => ?_⟩
  cases r with
  | ok a => exact hQ a hr
  | error e => trivial

theorem Emits.forEach {xs : List γ} {f : γ → Program F ε Unit}
    (h : ∀ x ∈ xs, Emits A P (fun _ => True) (f x)) :
    Emits A P (fun _ => True) (forEach xs f) := by
  induction xs with
  | nil => trivial
  | cons x xs ih =>
    exact (h x List.mem_cons_self).bind fun _ _ => ih fun y hy => h y (List.mem_cons_of_mem _ hy)

/-- Commands that have the property whatever they are answered. -/
theorem Issues.emits {p : Program F ε α} (h : p.Issues P) : Emits A P (fun _ => True) p := by
  induction p with
  | ret a => trivial
  | throw e => trivial
  | step c k ih => exact ⟨h.1, fun b _ => ih b (h.2 b)⟩

/-- The same of a program that is run for what it does. -/
theorem Issues.emits_discard {p : Program F ε α} (h : p.Issues P) :
    Emits A P (fun _ => True) (p.bind fun _ => ret ()) :=
  h.emits.bind fun _ _ => trivial

end Emits

/-! ## Pools -/

namespace Pool

variable {F : Type → Type u} {ε ι η σ κ Op : Type} (S : Concurrent F ε ι η σ κ Op)
  (C : Op → {β : Type} → F β → Prop)

/-- The answers that a command can get. -/
def Answers {β : Type} (c : F β) (b : β) : Prop :=
  ∃ tid i s es s', S.exec tid c i s = some (b, es, s')

/-- What is left of every thread issues commands of its operation's kind only. -/
def Confined (p : Pool F ε η σ Op) : Prop :=
  ∀ t ∈ p.threads, Emits (fun {_} c b => Answers S c b) (fun {_} c => C t.1 c) (fun _ => True) t.2

/-- The operations issue commands of their kind only. -/
def OpsConfined : Prop :=
  ∀ op, Emits (fun {_} c b => Answers S c b) (fun {_} c => C op c) (fun _ => True) (S.program op)

variable {S C}

theorem confined_step (hops : OpsConfined S C) {p : Pool F ε η σ Op} (h : Confined S C p)
    (move : Move Op ι κ) : Confined S C (p.step S move) := by
  cases move with
  | start op =>
    intro t ht
    rcases List.mem_append.mp ht with ht | ht
    · exact h t ht
    · rw [List.mem_singleton.mp ht]
      exact hops op
  | disturb d => exact h
  | step tid reply =>
    cases ht : p.threads[tid]? with
    | none => rwa [step_no_thread ht]
    | some t =>
      obtain ⟨op, rest⟩ := t
      rw [step_thread ht]
      cases rest with
      | ret a | throw e => exact h
      | step c k =>
        simp only [stepThread]
        cases hexec : S.exec tid c reply p.now.state with
        | none => exact h
        | some r =>
          obtain ⟨b, es, s⟩ := r
          intro t hmem
          rcases List.mem_or_eq_of_mem_set hmem with hold | rfl
          · exact h t hold
          · exact (h _ (List.mem_of_getElem? ht)).2 b ⟨tid, reply, _, es, s, hexec⟩

variable {cond : Op → ℕ → Logged η σ → ι → List η → Prop} {disturbance : κ → Logged η σ → Prop}

/-- What the step of a thread makes of the state is in a relation that its operation is to keep. -/
def Relates (S : Concurrent F ε ι η σ κ Op) (R : Op → Logged η σ → Logged η σ → Prop)
    (p : Pool F ε η σ Op) (move : Move Op ι κ) : Prop :=
  ∀ tid reply op rest, move = .step tid reply → p.threads[tid]? = some (op, rest) →
    R op p.now (p.step S move).now

/-- **Every step of a thread is in the relation** of its operation, if the commands of the operations
are where their steps meet the condition. -/
theorem relates_of_confined {R : Op → Logged η σ → Logged η σ → Prop} (hops : OpsConfined S C)
    (hrefl : ∀ op x, R op x x)
    (hstep : ∀ (op : Op) (tid : ℕ) {β : Type} (c : F β) (i : ι) (x : Logged η σ) (b : β)
      (es : List η) (s : σ), C op c → S.exec tid c i x.state = some (b, es, s) →
      cond op tid x i es → R op x (x.next tid es s))
    {p : Pool F ε η σ Op} (hp : Confined S C p) {moves : List (Move Op ι κ)}
    (h : History.Each (step S) (Meets S cond disturbance) p moves) :
    History.Each (step S) (Relates S R) p moves := by
  refine History.Each.imp (I := Confined S C) (fun p move hp => confined_step hops hp move) ?_ hp h
  rintro p move hp hmeets tid reply op rest rfl ht
  have hcond := hmeets op rest ht
  rw [step_thread ht]
  cases rest with
  | ret a | throw e => exact hrefl _ _
  | step c k =>
    simp only [stepThread]
    cases hexec : S.exec tid c reply p.now.state with
    | none => exact hrefl _ _
    | some r =>
      obtain ⟨b, es, s⟩ := r
      exact hstep op tid c reply p.now b es s (hp _ (List.mem_of_getElem? ht)).1 hexec
        (hcond b es s hexec)

/-- **Every move keeps a relation** that every command of the operations keeps where its step meets
the condition. -/
theorem each_of_confined {R : Logged η σ → Logged η σ → Prop} (hops : OpsConfined S C)
    (hrefl : ∀ x, R x x)
    (hstep : ∀ (op : Op) (tid : ℕ) {β : Type} (c : F β) (i : ι) (x : Logged η σ) (b : β)
      (es : List η) (s : σ), C op c → S.exec tid c i x.state = some (b, es, s) →
      cond op tid x i es → R x (x.next tid es s))
    (hdisturb : ∀ d x, disturbance d x → R x { x with state := S.disturb d x.state })
    {p : Pool F ε η σ Op} (hp : Confined S C p) {moves : List (Move Op ι κ)}
    (h : History.Each (step S) (Meets S cond disturbance) p moves) :
    History.Each (step S) (fun p move => R p.now (p.step S move).now) p moves := by
  have hrelates := relates_of_confined (R := fun _ => R) hops (fun _ => hrefl) hstep hp h
  refine (History.Each.and h hrelates).imp (I := fun _ => True) (fun _ _ _ => trivial) ?_ trivial
  rintro p move - ⟨hmeets, hthread⟩
  cases move with
  | start op => exact hrefl _
  | disturb d => exact hdisturb d p.now hmeets
  | step tid reply =>
    cases ht : p.threads[tid]? with
    | none =>
      rw [step_no_thread ht]
      exact hrefl _
    | some t => exact hthread tid reply t.1 t.2 rfl ht

/-- **An invariant that a command keeps, in a relation to the state before, exactly where its step
meets the condition** holds at all times, every step of a thread in the relation, exactly if every
move meets the conditions. -/
theorem always_and_relates_iff_each_of_confined {Q : Logged η σ → Prop}
    {R : Op → Logged η σ → Logged η σ → Prop} (hops : OpsConfined S C) (hrefl : ∀ op x, R op x x)
    (hstep : ∀ (op : Op) (tid : ℕ) {β : Type} (c : F β) (i : ι) (x : Logged η σ) (b : β)
      (es : List η) (s : σ), C op c → S.exec tid c i x.state = some (b, es, s) → Q x →
      (Q (x.next tid es s) ∧ R op x (x.next tid es s) ↔ cond op tid x i es))
    (hdisturb : ∀ d x, Q x → (Q { x with state := S.disturb d x.state } ↔ disturbance d x))
    {p : Pool F ε η σ Op} (hp : Confined S C p) (hQ : Q p.now) (moves : List (Move Op ι κ)) :
    History.Always (step S) (fun p => Q p.now) p moves ∧
        History.Each (step S) (Relates S R) p moves ↔
      History.Each (step S) (Meets S cond disturbance) p moves := by
  refine History.always_and_each_iff_each (I := Confined S C)
    (fun p move hp => confined_step hops hp move) ?_ hp hQ moves
  intro p move hp hQ
  have hnone : (∀ tid reply, move ≠ .step tid reply) → Relates S R p move :=
    fun h tid reply _ _ heq => absurd heq (h tid reply)
  cases move with
  | start op => exact iff_of_true ⟨hQ, hnone fun _ _ h => by cases h⟩ trivial
  | disturb d =>
    rw [and_iff_left (hnone fun _ _ h => by cases h)]
    exact hdisturb d p.now hQ
  | step tid reply =>
    cases ht : p.threads[tid]? with
    | none =>
      rw [step_no_thread ht]
      refine iff_of_true ⟨hQ, ?_⟩ fun op rest h => ?_
      · rintro tid' reply' op rest ⟨⟩ h
        rw [ht] at h
        cases h
      · rw [ht] at h
        cases h
    | some t =>
      obtain ⟨op, rest⟩ := t
      -- a thread that has a program has only this one
      have hthis : ∀ {P : Op → Program F ε Unit → Prop},
          (∀ op' rest', p.threads[tid]? = some (op', rest') → P op' rest') ↔ P op rest := by
        refine fun {P} => ⟨fun h => h op rest ht, fun h op' rest' h' => ?_⟩
        obtain ⟨rfl, rfl⟩ := Prod.mk.injEq .. ▸ Option.some.inj (ht.symm.trans h')
        exact h
      have hmeets : Meets S cond disturbance p (.step tid reply) ↔
          StepMeets S cond p tid reply op rest := hthis
      have hrelates : Relates S R p (.step tid reply) ↔
          R op p.now (p.step S (.step tid reply)).now := by
        refine Iff.trans ?_ (hthis (P := fun op _ => R op p.now (p.step S (.step tid reply)).now))
        refine ⟨fun h op' rest' => h tid reply op' rest' rfl, ?_⟩
        rintro h tid' reply' op' rest' ⟨⟩
        exact h op' rest'
      rw [hrelates, step_thread ht, hmeets]
      -- a thread that has ended takes no step
      cases rest with
      | ret a | throw e => exact iff_of_true ⟨hQ, hrefl _ _⟩ trivial
      | step c k =>
        simp only [stepThread, StepMeets]
        cases hexec : S.exec tid c reply p.now.state with
        | none =>
          refine iff_of_true ⟨hQ, hrefl _ _⟩ fun b es s h => ?_
          cases h
        | some r =>
          obtain ⟨b, es, s⟩ := r
          have hstep' := hstep op tid c reply p.now b es s (hp _ (List.mem_of_getElem? ht)).1
            hexec hQ
          rw [hstep']
          constructor
          · rintro h b' es' s' heq
            cases heq
            exact h
          · intro h
            exact h b es s rfl

theorem relates_true (p : Pool F ε η σ Op) (moves : List (Move Op ι κ)) :
    History.Each (step S) (Relates S fun _ _ _ => True) p moves :=
  (History.each_true p moves).imp (I := fun _ => True) (fun _ _ _ => trivial)
    (fun _ _ _ _ _ _ _ _ _ _ => trivial) trivial

/-- The rule for an invariant alone. -/
theorem always_iff_each_of_confined {Q : Logged η σ → Prop} (hops : OpsConfined S C)
    (hstep : ∀ (op : Op) (tid : ℕ) {β : Type} (c : F β) (i : ι) (x : Logged η σ) (b : β)
      (es : List η) (s : σ), C op c → S.exec tid c i x.state = some (b, es, s) → Q x →
      (Q (x.next tid es s) ↔ cond op tid x i es))
    (hdisturb : ∀ d x, Q x → (Q { x with state := S.disturb d x.state } ↔ disturbance d x))
    {p : Pool F ε η σ Op} (hp : Confined S C p) (hQ : Q p.now) (moves : List (Move Op ι κ)) :
    History.Always (step S) (fun p => Q p.now) p moves ↔
      History.Each (step S) (Meets S cond disturbance) p moves := by
  rw [← always_and_relates_iff_each_of_confined (R := fun _ _ _ => True) hops (fun _ _ => trivial) ?_
    hdisturb hp hQ moves, and_iff_left (relates_true _ _)]
  intro op tid β c i x b es s hc hexec hQ
  rw [and_true]
  exact hstep op tid c i x b es s hc hexec hQ

/-- The rule for a relation alone. -/
theorem relates_iff_each_of_confined {R : Op → Logged η σ → Logged η σ → Prop}
    (hops : OpsConfined S C) (hrefl : ∀ op x, R op x x)
    (hstep : ∀ (op : Op) (tid : ℕ) {β : Type} (c : F β) (i : ι) (x : Logged η σ) (b : β)
      (es : List η) (s : σ), C op c → S.exec tid c i x.state = some (b, es, s) →
      (R op x (x.next tid es s) ↔ cond op tid x i es))
    {p : Pool F ε η σ Op} (hp : Confined S C p) (moves : List (Move Op ι κ)) :
    History.Each (step S) (Relates S R) p moves ↔
      History.Each (step S) (Meets S cond fun _ _ => True) p moves := by
  have halways : History.Always (step S) (fun _ => True) p moves := by
    refine History.always_of_each (C := fun _ _ => True) (fun _ _ _ _ => trivial) trivial ?_
    exact History.each_true _ _
  rw [← always_and_relates_iff_each_of_confined (Q := fun _ => True) (R := R) hops hrefl ?_
    (fun _ _ _ => Iff.rfl) hp trivial moves, and_iff_right halways]
  intro op tid β c i x b es s hc hexec _
  rw [true_and]
  exact hstep op tid c i x b es s hc hexec

end Pool

end Program
