import Deliivo.Program.Pool

/-!
# Rely–guarantee reasoning about pools

A protocol says, for every thread, what it may rely on of the others, what it guarantees to them,
and which invariant all of them keep. An operation is safe if its commands keep the guarantee and
the invariant wherever the others have taken the state in between, and if it ends as promised. Then
so it does in every interleaving (`Protocol.sound`).

Only the steps that meet the condition of the protocol have to keep the guarantee, so that a
history is covered if all of its moves meet it.

## Main definitions

* `Protocol`: invariant, relies, guarantees and postconditions
* `Protocol.Safe`: what is left of a thread keeps the protocol and ends in `Q`

## Main results

* `Safe.bind`, `Safe.tryCatch`, `Safe.perform`, `Safe.command`: the rules of programs
* `Safe.sequence`, `Safe.guarded`: the same, with one assertion throughout
* `Safe.issues`: commands that keep an assertion, one and all
* `Protocol.sound`, `Protocol.soundTo`: the composition rule
* `Protocol.each_guar`: what the threads guarantee, every move does
-/

universe u

namespace Program

variable {F : Type → Type u} {ε ι η σ κ Op : Type}

/-- What the threads of a pool owe each other, in histories whose steps meet `cond` and in which the
environment meets `disturbance`. -/
structure Protocol (S : Concurrent F ε ι η σ κ Op)
    (cond : Op → ℕ → Logged η σ → ι → List η → Prop) (disturbance : κ → Logged η σ → Prop) where
  /-- What holds of the logged state at all times. -/
  Inv : Logged η σ → Prop
  /-- What a thread relies on: how others may have changed the logged state. -/
  Rely : ℕ → Logged η σ → Logged η σ → Prop
  /-- What a thread guarantees of its own steps. -/
  Guar : ℕ → Logged η σ → Logged η σ → Prop
  /-- What holds once an operation has ended. -/
  Post : Op → ℕ → Logged η σ → Prop
  rely_refl : ∀ tid x, Rely tid x x
  rely_trans : ∀ {tid x y z}, Rely tid x y → Rely tid y z → Rely tid x z
  guar_rely : ∀ {tid tid' x y}, tid ≠ tid' → Inv x → Guar tid' x y → Rely tid x y
  env_inv : ∀ {d x}, Inv x → disturbance d x → Inv { x with state := S.disturb d x.state }
  env_rely : ∀ {d x} tid, Inv x → disturbance d x → Rely tid x { x with state := S.disturb d x.state }
  post_stable : ∀ {op tid x y}, Post op tid x → Rely tid x y → Inv y → Post op tid y

namespace Protocol

variable {S : Concurrent F ε ι η σ κ Op} {cond : Op → ℕ → Logged η σ → ι → List η → Prop}
  {disturbance : κ → Logged η σ → Prop} (P : Protocol S cond disturbance)

/-- One command, issued in `y`, keeps the protocol and leads to `Q`. -/
def Keeps {β : Type} (op : Op) (tid : ℕ) (c : F β) (y : Logged η σ)
    (Q : β → Logged η σ → Prop) : Prop :=
  ∀ i b es s, S.exec tid c i y.state = some (b, es, s) → cond op tid y i es →
    P.Guar tid y (y.next tid es s) ∧ P.Inv (y.next tid es s) ∧ Q b (y.next tid es s)

/-- What is left of a thread keeps the protocol and ends in `Q`. -/
def Safe {α : Type} (op : Op) (tid : ℕ) (Q : Except ε α → Logged η σ → Prop) :
    Program F ε α → Logged η σ → Prop
  | ret a, x => Q (.ok a) x
  | throw e, x => Q (.error e) x
  | step c k, x => ∀ y, P.Rely tid x y → P.Inv y →
      P.Keeps op tid c y fun b z => Safe op tid Q (k b) z

/-- The assertion survives what the others do. -/
def Stable (tid : ℕ) (A : Logged η σ → Prop) : Prop :=
  ∀ x y, A x → P.Rely tid x y → P.Inv y → A y

variable {P} {α β : Type} {op : Op} {tid : ℕ} {x : Logged η σ}

namespace Safe

section Rules

variable {Q Q' : Except ε α → Logged η σ → Prop} {R : Except ε β → Logged η σ → Prop}

theorem mono {p : Program F ε α} (h : P.Safe op tid Q p x) (hQ : ∀ r x, Q r x → Q' r x) :
    P.Safe op tid Q' p x := by
  induction p generalizing x with
  | ret a => exact hQ _ _ h
  | throw e => exact hQ _ _ h
  | step c k ih =>
    intro y hy hI i b es s hexec hc
    obtain ⟨hG, hI', hk⟩ := h y hy hI i b es s hexec hc
    exact ⟨hG, hI', ih b hk⟩

/-- A sequence: the first part ends where the second may start, or throws where that is allowed. -/
theorem bind {p : Program F ε α} {f : α → Program F ε β}
    (h : P.Safe op tid (fun r x => match r with
      | .ok a => P.Safe op tid R (f a) x
      | .error e => R (.error e) x) p x) :
    P.Safe op tid R (p.bind f) x := by
  induction p generalizing x with
  | ret a => exact h
  | throw e => exact h
  | step c k ih =>
    intro y hy hI i b es s hexec hc
    obtain ⟨hG, hI', hk⟩ := h y hy hI i b es s hexec hc
    exact ⟨hG, hI', ih b hk⟩

theorem tryCatch {p : Program F ε α} {handler : ε → Program F ε α}
    (h : P.Safe op tid (fun r x => match r with
      | .ok a => Q (.ok a) x
      | .error e => P.Safe op tid Q (handler e) x) p x) :
    P.Safe op tid Q (p.tryCatch handler) x := by
  induction p generalizing x with
  | ret a => exact h
  | throw e => exact h
  | step c k ih =>
    intro y hy hI i b es s hexec hc
    obtain ⟨hG, hI', hk⟩ := h y hy hI i b es s hexec hc
    exact ⟨hG, hI', ih b hk⟩

/-- A sequence, both of whose parts end in one assertion. -/
theorem sequence {A : Logged η σ → Prop} {p : Program F ε α} {f : α → Program F ε β}
    (hp : P.Safe op tid (fun _ => A) p x)
    (hf : ∀ a y, A y → P.Safe op tid (fun _ => A) (f a) y) :
    P.Safe op tid (fun _ => A) (p.bind f) x := by
  refine bind (hp.mono ?_)
  rintro (e | a) y hy
  · exact hy
  · exact hf a y hy

/-- A handled program, both of whose parts end in one assertion. -/
theorem guarded {A : Logged η σ → Prop} {p : Program F ε α} {handler : ε → Program F ε α}
    (hp : P.Safe op tid (fun _ => A) p x)
    (hh : ∀ e y, A y → P.Safe op tid (fun _ => A) (handler e) y) :
    P.Safe op tid (fun _ => A) (p.tryCatch handler) x := by
  refine tryCatch (hp.mono ?_)
  rintro (e | a) y hy
  · exact hh e y hy
  · exact hy

/-- One command, whose answer is returned. -/
theorem command {c : F α} {A : Logged η σ → Prop} (hA : P.Stable tid A) (hx : A x)
    (h : ∀ y, A y → P.Inv y → P.Keeps op tid c y fun b z => Q (.ok b) z) :
    P.Safe op tid Q (Program.command c) x :=
  fun y hy hI => h y (hA x y hx hy hI) hI

/-- One command, whose answer is returned or thrown. -/
theorem perform {c : F (Except ε α)} {A : Logged η σ → Prop} (hA : P.Stable tid A) (hx : A x)
    (h : ∀ y, A y → P.Inv y → P.Keeps op tid c y Q) :
    P.Safe op tid Q (Program.perform c) x := by
  intro y hy hI i b es s hexec hc
  obtain ⟨hG, hI', hQ⟩ := h y (hA x y hx hy hI) hI i b es s hexec hc
  refine ⟨hG, hI', ?_⟩
  cases b with
  | ok a => exact hQ
  | error e => exact hQ

/-- Commands that keep a stable assertion, one and all. -/
theorem issues {p : Program F ε α} {A : Logged η σ → Prop} (hA : P.Stable tid A)
    (hp : p.Issues fun {_} c => ∀ y, A y → P.Inv y → P.Keeps op tid c y fun _ => A) (hx : A x) :
    P.Safe op tid (fun _ => A) p x := by
  induction p generalizing x with
  | ret a => exact hx
  | throw e => exact hx
  | step c k ih =>
    intro y hy hI i b es s hexec hc
    obtain ⟨hG, hI', hA'⟩ := hp.1 y (hA x y hx hy hI) hI i b es s hexec hc
    exact ⟨hG, hI', ih b (hp.2 b) hA'⟩

/-- A safe program is safe cut short, where the cut owes nothing. -/
theorem cut {p : Program F ε α} {e : ε} {n : ℕ} (h : P.Safe op tid (fun _ _ => True) p x) :
    P.Safe op tid (fun _ _ => True) (p.cut e n) x := by
  induction p generalizing x n with
  | ret a => cases n <;> exact h
  | throw e' => cases n <;> exact h
  | step c k ih =>
    cases n with
    | zero => trivial
    | succ n =>
      intro y hy hI i b es s hexec hc
      obtain ⟨hG, hI', hk⟩ := h y hy hI i b es s hexec hc
      exact ⟨hG, hI', ih b hk⟩

/-- What is safe stays safe while others move. -/
theorem stable {p : Program F ε α} {y : Logged η σ} (h : P.Safe op tid Q p x)
    (hQ : ∀ r, P.Stable tid (Q r)) (hy : P.Rely tid x y) (hI : P.Inv y) :
    P.Safe op tid Q p y := by
  cases p with
  | ret a => exact hQ _ x y h hy hI
  | throw e => exact hQ _ x y h hy hI
  | step c k => exact fun z hz => h z (P.rely_trans hy hz)

end Rules

end Safe

/-! ## Composition -/

section Sound

variable (P)

/-- The invariant holds and what is left of every thread is safe. -/
structure Holds (p : Pool F ε η σ Op) : Prop where
  inv : P.Inv p.now
  logLt : p.LogLt
  safe : ∀ tid op rest, p.threads[tid]? = some (op, rest) →
    P.Safe op tid (fun _ => P.Post op tid) rest p.now

/-- Every operation is safe in a thread that the log does not name yet. -/
def SafeOperations : Prop :=
  ∀ op tid x, P.Inv x → (∀ entry ∈ x.log, entry.1 ≠ tid) →
    P.Safe op tid (fun _ => P.Post op tid) (S.program op) x

/-- The same where what an operation has promised depends on whether it returns or throws. -/
structure HoldsTo (R : Op → ℕ → Except ε Unit → Logged η σ → Prop) (p : Pool F ε η σ Op) : Prop where
  inv : P.Inv p.now
  logLt : p.LogLt
  safe : ∀ tid op rest, p.threads[tid]? = some (op, rest) → P.Safe op tid (R op tid) rest p.now

/-- Every operation keeps what it has promised, in a thread that the log does not name yet. -/
def SafeOperationsTo (R : Op → ℕ → Except ε Unit → Logged η σ → Prop) : Prop :=
  ∀ op tid x, P.Inv x → (∀ entry ∈ x.log, entry.1 ≠ tid) → P.Safe op tid (R op tid) (S.program op) x

variable {P} {p : Pool F ε η σ Op} {R : Op → ℕ → Except ε Unit → Logged η σ → Prop}

theorem holds_iff_holdsTo : P.Holds p ↔ P.HoldsTo (fun op tid _ => P.Post op tid) p :=
  ⟨fun h => ⟨h.inv, h.logLt, h.safe⟩, fun h => ⟨h.inv, h.logLt, h.safe⟩⟩

theorem stable_post (op : Op) (tid : ℕ) (_ : Except ε Unit) : P.Stable tid (P.Post op tid) :=
  fun _ _ hx hr hI => P.post_stable hx hr hI

theorem HoldsTo.start (hops : P.SafeOperationsTo R) (h : P.HoldsTo R p) (op : Op) :
    P.HoldsTo R (p.step S (.start op)) where
  inv := h.inv
  logLt := Pool.logLt_step p _ h.logLt
  safe tid op' rest ht := by
    rw [Pool.step, List.getElem?_append] at ht
    split_ifs at ht with hlt
    · exact h.safe tid op' rest ht
    · -- the new thread; the log names older ones only
      have hnew : (op, S.program op) = (op', rest) := by
        have hzero : tid - p.threads.length = 0 := by
          by_contra hne
          rw [List.getElem?_eq_none (by simp; omega)] at ht
          cases ht
        rw [hzero] at ht
        exact Option.some.inj ht
      obtain ⟨rfl, rfl⟩ := Prod.mk.injEq .. ▸ hnew
      refine hops op tid p.now h.inv fun entry hentry => ?_
      exact ne_of_lt ((h.logLt entry hentry).trans_le (not_lt.mp hlt))

variable (hR : ∀ op tid r, P.Stable tid (R op tid r))

include hR

theorem HoldsTo.disturb (h : P.HoldsTo R p) {d : κ} (hd : disturbance d p.now) :
    P.HoldsTo R (p.step S (.disturb d)) where
  inv := P.env_inv h.inv hd
  logLt := h.logLt
  safe tid op rest ht :=
    (h.safe tid op rest ht).stable (hR op tid) (P.env_rely tid h.inv hd) (P.env_inv h.inv hd)

theorem HoldsTo.step (h : P.HoldsTo R p) {tid : ℕ} {reply : ι}
    (hmeets : p.Meets S cond disturbance (.step tid reply)) :
    P.HoldsTo R (p.step S (.step tid reply)) := by
  cases ht : p.threads[tid]? with
  | none => rwa [Pool.step_no_thread ht]
  | some t =>
    obtain ⟨op, rest⟩ := t
    have hsafe := h.safe tid op rest ht
    have hcond := hmeets op rest ht
    have hlog := Pool.logLt_step p (.step tid reply : Move Op ι κ) h.logLt (S := S)
    rw [Pool.step_thread ht] at hlog ⊢
    cases rest with
    | ret a | throw e => exact h
    | step c k =>
      simp only [Pool.stepThread] at hlog ⊢
      cases hexec : S.exec tid c reply p.now.state with
      | none => exact h
      | some r =>
        obtain ⟨b, es, s⟩ := r
        rw [hexec] at hlog
        obtain ⟨hG, hI, hk⟩ := hsafe p.now (P.rely_refl tid _) h.inv reply b es s hexec
          (hcond b es s hexec)
        refine ⟨hI, hlog, fun tid' op' rest' ht' => ?_⟩
        rw [List.getElem?_set] at ht'
        split_ifs at ht' with heq hlt
        · -- the thread that has moved
          obtain ⟨rfl, rfl⟩ := Prod.mk.injEq .. ▸ Option.some.inj ht'
          exact heq ▸ hk
        · -- any other relies on what this one guarantees
          exact (h.safe tid' op' rest' ht').stable (hR op' tid')
            (P.guar_rely (Ne.symm heq) h.inv hG) hI

theorem HoldsTo.move (hops : P.SafeOperationsTo R) (h : P.HoldsTo R p) (move : Move Op ι κ)
    (hmeets : p.Meets S cond disturbance move) : P.HoldsTo R (p.step S move) := by
  cases move with
  | start op => exact h.start hops op
  | disturb d => exact h.disturb hR hmeets
  | step tid reply => exact h.step hR hmeets

/-- **Composition**: if every operation is safe, then in every history whose moves meet the
conditions the invariant holds at all times and every thread is safe. -/
theorem soundTo (hops : P.SafeOperationsTo R) (h : P.HoldsTo R p) {moves : List (Move Op ι κ)}
    (hmeets : History.Each (Pool.step S) (Pool.Meets S cond disturbance) p moves) :
    History.Always (Pool.step S) (P.HoldsTo R) p moves :=
  History.always_of_each (fun _ move h hmeets => h.move hR hops move hmeets) h hmeets

omit hR

theorem Holds.move (hops : P.SafeOperations) (h : P.Holds p) (move : Move Op ι κ)
    (hmeets : p.Meets S cond disturbance move) : P.Holds (p.step S move) :=
  holds_iff_holdsTo.mpr ((holds_iff_holdsTo.mp h).move stable_post hops move hmeets)

/-- **Composition**, where what has been promised does not depend on how an operation ends. -/
theorem sound (hops : P.SafeOperations) (h : P.Holds p) {moves : List (Move Op ι κ)}
    (hmeets : History.Each (Pool.step S) (Pool.Meets S cond disturbance) p moves) :
    History.Always (Pool.step S) P.Holds p moves :=
  (soundTo stable_post hops (holds_iff_holdsTo.mp h) hmeets).imp fun _ => holds_iff_holdsTo.mpr

/-- What the threads guarantee of their steps holds of every move, if it holds of what the environment
does. -/
theorem each_guar {R : Logged η σ → Logged η σ → Prop} (hops : P.SafeOperations) (h : P.Holds p)
    (hrefl : ∀ x, R x x) (hguar : ∀ tid x y, P.Guar tid x y → R x y)
    (hdisturb : ∀ d x, disturbance d x → R x { x with state := S.disturb d x.state })
    {moves : List (Move Op ι κ)}
    (hmeets : History.Each (Pool.step S) (Pool.Meets S cond disturbance) p moves) :
    History.Each (Pool.step S) (fun p move => R p.now (p.step S move).now) p moves := by
  induction moves generalizing p with
  | nil => trivial
  | cons move moves ih =>
    obtain ⟨hmeet, hrest⟩ := hmeets
    refine ⟨?_, ih (h.move hops move hmeet) hrest⟩
    cases move with
    | start op => exact hrefl _
    | disturb d => exact hdisturb d p.now hmeet
    | step tid reply =>
      cases ht : p.threads[tid]? with
      | none =>
        rw [Pool.step_no_thread ht]
        exact hrefl _
      | some t =>
        obtain ⟨op, rest⟩ := t
        have hsafe := h.safe tid op rest ht
        have hcond := hmeet op rest ht
        rw [Pool.step_thread ht]
        cases rest with
        | ret a | throw e => exact hrefl _
        | step c k =>
          simp only [Pool.stepThread]
          cases hexec : S.exec tid c reply p.now.state with
          | none => exact hrefl _
          | some r =>
            obtain ⟨b, es, s⟩ := r
            -- a step of a safe thread, taken under the condition, is one the others may rely on
            exact hguar tid _ _ (hsafe p.now (P.rely_refl tid _) h.inv reply b es s hexec
              (hcond b es s hexec)).1

/-- An operation that has ended has ended as promised. -/
theorem HoldsTo.post (h : P.HoldsTo R p) {tid : ℕ} {op : Op} {rest : Program F ε Unit}
    (ht : p.threads[tid]? = some (op, rest)) {r : Except ε Unit} (hdone : rest.result? = some r) :
    R op tid r p.now := by
  have hsafe := h.safe tid op rest ht
  cases rest with
  | ret a =>
    obtain rfl := Option.some.inj hdone
    exact hsafe
  | throw e =>
    obtain rfl := Option.some.inj hdone
    exact hsafe
  | step c k => cases hdone

theorem Holds.post (h : P.Holds p) {tid : ℕ} {op : Op} {rest : Program F ε Unit}
    (ht : p.threads[tid]? = some (op, rest)) (hdone : rest.Done) : P.Post op tid p.now := by
  obtain ⟨r, hr⟩ := done_iff.mp hdone
  exact (holds_iff_holdsTo.mp h).post ht hr

/-- A pool in which nothing has been started holds from its invariant. -/
theorem holdsTo_of_inv (hinv : P.Inv p.now) (hlog : p.now.log = []) (hthreads : p.threads = []) :
    P.HoldsTo R p where
  inv := hinv
  logLt entry hentry := by
    rw [hlog] at hentry
    cases hentry
  safe tid op rest ht := by simp [hthreads] at ht

theorem holds_of_inv (hinv : P.Inv p.now) (hlog : p.now.log = []) (hthreads : p.threads = []) :
    P.Holds p := holds_iff_holdsTo.mpr (holdsTo_of_inv hinv hlog hthreads)

end Sound

end Protocol

end Program
