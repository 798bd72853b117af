import Deliivo.Program.ReadCommitted

/-!
# Promises about what is committed and reported

Threads on a server can promise more of each other than that the committed database is sound. What a
thread has read without a lock may be there for good, where no commit ever takes it away; and what the
threads have reported can be compared with what is committed. Both are promises about every commit: it
relates the database before it to the one after it, and it keeps an invariant of the database and the
log.

## Main definitions

* `Promises`: what every commit keeps, and which part of the database a row protects
* `promised`: the protocol of threads that keep the promises

## Main results

* `promised_run`, `promised_auto`, `promised_commit`, `promised_rollback`: what a thread owes for its
  commands
* `Protocol.Safe.lasting`: what is there for good is there when a program has run
* `promised_transaction`: the rule of a transaction
* `promised_between`: what lies between any two points of a run
-/

namespace Program

/-- What holds of the log and the committed database, what every commit leaves as it is, and which part
of the database a row protects. -/
structure Promises (η δ ρ : Type) extends Protection δ ρ where
  Inv : List (ℕ × η) → δ → Prop
  Step : δ → δ → Prop
  step_refl : ∀ d, Step d d
  step_trans : ∀ {d d' d''}, Step d d' → Step d' d'' → Step d d''

variable {δ ρ η ε κ Op : Type}

/-- A change of the committed database, while thread `tid` reports `es`, keeps the promises if the rows
`rows` are locked. -/
structure Promises.Keeps (G : Promises η δ ρ) (rows : List ρ) (log log' : List (ℕ × η))
    (d d' : δ) : Prop where
  inv : G.Inv log d → G.Inv log' d'
  step : G.Step d d'
  same : ∀ r ∉ rows, G.same r d d'

/-- What a thread may rely on: its transaction is let alone, what is there for good stays, and the log
only grows. -/
structure Promises.Rely (G : Promises η δ ρ) (tid : ℕ) (x y : Logged η (Server δ ρ)) : Prop where
  undisturbed : x.state.Undisturbed G.toProtection tid y.state
  step : G.Step x.state.committed y.state.committed
  log : x.log <+: y.log

theorem Promises.Rely.refl (G : Promises η δ ρ) (tid : ℕ) (x : Logged η (Server δ ρ)) :
    G.Rely tid x x :=
  ⟨.refl _ tid _, G.step_refl _, List.prefix_rfl⟩

theorem Promises.Rely.trans {G : Promises η δ ρ} {tid : ℕ} {x y z : Logged η (Server δ ρ)}
    (h : G.Rely tid x y) (h' : G.Rely tid y z) : G.Rely tid x z where
  undisturbed := h.undisturbed.trans h'.undisturbed
  step := G.step_trans h.step h'.step
  log := h.log.trans h'.log

/-! ## The protocol -/

section Protocol

variable [DecidableEq ρ] (unavailable : ε) (disturb : κ → δ → δ)
  (program : Op → Program (ServerCall δ ρ η ε) ε Unit)

/-- Threads on a server that keep the promises. -/
def promised (G : Promises η δ ρ)
    (cond : Op → ℕ → Logged η (Server δ ρ) → Bool → List η → Prop)
    (disturbance : κ → Logged η (Server δ ρ) → Prop)
    (hdisturb : ∀ d x, disturbance d x →
      G.Keeps [] x.log x.log x.state.committed (disturb d x.state.committed)) :
    Protocol (serverPool unavailable disturb program) cond disturbance where
  Inv x := x.state.Exclusive ∧ G.Inv x.log x.state.committed
  Rely := G.Rely
  Guar tid x y := ∀ t, t ≠ tid → G.Rely t x y
  Post _ _ _ := True
  rely_refl := Promises.Rely.refl G
  rely_trans h h' := h.trans h'
  guar_rely hne _ h := h _ hne
  env_inv h hd := ⟨h.1, (hdisturb _ _ hd).inv h.2⟩
  env_rely _ _ hd := {
    undisturbed := ⟨rfl, rfl, fun r _ => (hdisturb _ _ hd).same r List.not_mem_nil⟩
    step := (hdisturb _ _ hd).step
    log := List.prefix_rfl }
  post_stable _ _ _ := trivial

variable {unavailable disturb program} {G : Promises η δ ρ}
  {cond : Op → ℕ → Logged η (Server δ ρ) → Bool → List η → Prop}
  {disturbance : κ → Logged η (Server δ ρ) → Prop}
  {hdisturb : ∀ d x, disturbance d x →
    G.Keeps [] x.log x.log x.state.committed (disturb d x.state.committed)}

variable {op : Op} {tid : ℕ} {y : Logged η (Server δ ρ)} {α β : Type}

/-- The log after a thread has reported `es`. -/
def Logged.logged (x : Logged η (Server δ ρ)) (tid : ℕ) (es : List η) : List (ℕ × η) :=
  x.log ++ es.map (Prod.mk tid)

omit [DecidableEq ρ] in
@[simp] theorem Logged.logged_nil (x : Logged η (Server δ ρ)) (tid : ℕ) : x.logged tid [] = x.log :=
  List.append_nil x.log

omit [DecidableEq ρ] in
/-- A command that is not answered and has no effect. -/
theorem promised_unanswered (tid : ℕ) (hinv : y.state.Exclusive ∧ G.Inv y.log y.state.committed) :
    (∀ t, t ≠ tid → G.Rely t y (y.next tid [] y.state)) ∧
      (y.next tid [] y.state).state.Exclusive ∧
      G.Inv (y.next tid [] y.state).log (y.next tid [] y.state).state.committed := by
  rw [Logged.next_none]
  exact ⟨fun t _ => .refl G t y, hinv⟩

/-- A statement within a transaction: what is committed stays as it is. -/
theorem promised_run {c : Statement δ ρ η β} {Q : Except ε β → Logged η (Server δ ρ) → Prop}
    (hinv : y.state.Exclusive ∧ G.Inv y.log y.state.committed)
    (hlog : G.Inv (y.logged tid (c.report (c.answer (y.state.view tid)))) y.state.committed)
    (hrun : cond op tid y true (c.report (c.answer (y.state.view tid))) →
      Q (.ok (c.answer (y.state.view tid)))
        (y.next tid (c.report (c.answer (y.state.view tid))) (y.state.run tid c)))
    (hfail : Q (.error unavailable) y) :
    (promised unavailable disturb program G cond disturbance hdisturb).Keeps op tid (.run c) y Q := by
  intro i b es s hexec hcond
  cases i with
  | false =>
    obtain ⟨rfl, rfl, rfl⟩ := (Prod.mk.injEq .. ▸ Option.some.inj hexec : _ ∧ _).imp id
      (Prod.mk.injEq .. ▸ ·)
    obtain ⟨hrely, hinv'⟩ := promised_unanswered tid hinv
    refine ⟨hrely, hinv', ?_⟩
    rw [Logged.next_none]
    exact hfail
  | true =>
    simp only [serverPool, ServerCall.exec] at hexec
    by_cases hfree : y.state.Free tid (c.locks (y.state.view tid))
    · rw [if_pos hfree] at hexec
      obtain ⟨rfl, rfl, rfl⟩ := (Prod.mk.injEq .. ▸ Option.some.inj hexec : _ ∧ _).imp id
        (Prod.mk.injEq .. ▸ ·)
      exact ⟨fun t ht => ⟨Server.undisturbed_run ht, G.step_refl _, List.prefix_append _ _⟩,
        ⟨hinv.1.run hfree, hlog⟩, hrun hcond⟩
    · rw [if_neg hfree] at hexec
      cases hexec

/-- A statement as a transaction of its own: what it writes is committed at once. -/
theorem promised_auto {c : Statement δ ρ η β} {Q : Except ε β → Logged η (Server δ ρ) → Prop}
    (hinv : y.state.Exclusive ∧ G.Inv y.log y.state.committed)
    (hcommit : G.Keeps (c.locks y.state.committed) y.log
      (y.logged tid (c.report (c.answer y.state.committed))) y.state.committed
      (c.write y.state.committed y.state.committed))
    (hrun : cond op tid y true (c.report (c.answer y.state.committed)) →
      Q (.ok (c.answer y.state.committed))
        (y.next tid (c.report (c.answer y.state.committed)) (y.state.auto c)))
    (hfail : Q (.error unavailable) y) :
    (promised unavailable disturb program G cond disturbance hdisturb).Keeps op tid (.auto c) y Q := by
  intro i b es s hexec hcond
  cases i with
  | false =>
    obtain ⟨rfl, rfl, rfl⟩ := (Prod.mk.injEq .. ▸ Option.some.inj hexec : _ ∧ _).imp id
      (Prod.mk.injEq .. ▸ ·)
    obtain ⟨hrely, hinv'⟩ := promised_unanswered tid hinv
    refine ⟨hrely, hinv', ?_⟩
    rw [Logged.next_none]
    exact hfail
  | true =>
    simp only [serverPool, ServerCall.exec] at hexec
    by_cases hfree : y.state.Free tid (c.locks y.state.committed)
    · rw [if_pos hfree] at hexec
      obtain ⟨rfl, rfl, rfl⟩ := (Prod.mk.injEq .. ▸ Option.some.inj hexec : _ ∧ _).imp id
        (Prod.mk.injEq .. ▸ ·)
      exact ⟨fun t ht => ⟨Server.undisturbed_auto hfree hcommit.same ht, hcommit.step,
        List.prefix_append _ _⟩, ⟨hinv.1, hcommit.inv hinv.2⟩, hrun hcond⟩
    · rw [if_neg hfree] at hexec
      cases hexec

theorem promised_rollback {Q : Unit → Logged η (Server δ ρ) → Prop}
    (hinv : y.state.Exclusive ∧ G.Inv y.log y.state.committed)
    (hQ : Q () (y.next tid [] (y.state.rollback tid))) :
    (promised unavailable disturb program G cond disturbance hdisturb).Keeps op tid .rollback y Q := by
  intro i b es s hexec _
  obtain ⟨-, rfl, rfl⟩ := (Prod.mk.injEq .. ▸ Option.some.inj hexec : _ ∧ _).imp id
    (Prod.mk.injEq .. ▸ ·)
  refine ⟨fun t ht => ⟨Server.undisturbed_rollback ht, G.step_refl _, List.prefix_append _ _⟩,
    ⟨hinv.1.rollback, ?_⟩, hQ⟩
  rw [Logged.next, List.map_nil, List.append_nil]
  exact hinv.2

/-- A commit: what the thread has written keeps the promises, under the locks that it holds. -/
theorem promised_commit {events : List η} {Q : Except ε Unit → Logged η (Server δ ρ) → Prop}
    (hinv : y.state.Exclusive ∧ G.Inv y.log y.state.committed)
    (hcommit : cond op tid y true events →
      G.Keeps (y.state.ownLocks tid) y.log (y.logged tid events) y.state.committed
        (y.state.view tid))
    (hdone : cond op tid y true events → Q (.ok ()) (y.next tid events (y.state.commit tid)))
    (hfail : Q (.error unavailable) (y.next tid [] (y.state.rollback tid))) :
    (promised unavailable disturb program G cond disturbance hdisturb).Keeps op tid
      (.commit events) y Q := by
  intro i b es s hexec hcond
  cases i with
  | false =>
    obtain ⟨rfl, rfl, rfl⟩ := (Prod.mk.injEq .. ▸ Option.some.inj hexec : _ ∧ _).imp id
      (Prod.mk.injEq .. ▸ ·)
    refine ⟨fun t ht => ⟨Server.undisturbed_rollback ht, G.step_refl _, List.prefix_append _ _⟩,
      ⟨hinv.1.rollback, ?_⟩, hfail⟩
    rw [Logged.next, List.map_nil, List.append_nil]
    exact hinv.2
  | true =>
    obtain ⟨rfl, rfl, rfl⟩ := (Prod.mk.injEq .. ▸ Option.some.inj hexec : _ ∧ _).imp id
      (Prod.mk.injEq .. ▸ ·)
    have hkeep := hcommit hcond
    exact ⟨fun t ht => ⟨Server.undisturbed_commit hinv.1 hkeep.same ht, hkeep.step,
      List.prefix_append _ _⟩, ⟨hinv.1.rollback, hkeep.inv hinv.2⟩, hdone hcond⟩

/-- What stays for good stays while a program runs. -/
theorem Protocol.Safe.lasting {p : Program (ServerCall δ ρ η ε) ε α} {x : Logged η (Server δ ρ)}
    {Q : Except ε α → Logged η (Server δ ρ) → Prop} {A : Logged η (Server δ ρ) → Prop}
    (h : (promised unavailable disturb program G cond disturbance hdisturb).Safe op tid Q p x)
    (hA : ∀ x y, A x → G.Step x.state.committed y.state.committed → x.log <+: y.log → A y)
    (hx : A x) :
    (promised unavailable disturb program G cond disturbance hdisturb).Safe op tid
      (fun r y => Q r y ∧ A y) p x := by
  induction p generalizing x with
  | ret a => exact ⟨h, hx⟩
  | throw e => exact ⟨h, hx⟩
  | step c k ih =>
    intro y hy hI i b es s hexec hc
    obtain ⟨hG, hI', hk⟩ := h y hy hI i b es s hexec hc
    -- the step of this thread is one that any other thread may rely on
    have hown := hG (tid + 1) (Nat.succ_ne_self tid)
    exact ⟨hG, hI', ih b hk (hA _ _ (hA _ _ hx hy.step hy.log) hown.step hown.log)⟩

/-- What a transaction owes where its body has ended in `x`: what it has written may be committed, and
stays so while the others move; where the body throws, it is given up. -/
def MayCommit (P : Protocol (serverPool unavailable disturb program) cond disturbance)
    (G : Promises η δ ρ) (op : Op) (tid : ℕ) (report : α → List η)
    (Q : Except ε α → Logged η (Server δ ρ) → Prop) (unavailable : ε) :
    Except ε α → Logged η (Server δ ρ) → Prop
  | .ok a, x => ∀ z, P.Rely tid x z → P.Inv z →
      (cond op tid z true (report a) →
        G.Keeps (z.state.ownLocks tid) z.log (z.logged tid (report a)) z.state.committed
          (z.state.view tid) ∧
        Q (.ok a) (z.next tid (report a) (z.state.commit tid))) ∧
      Q (.error unavailable) (z.next tid [] (z.state.rollback tid))
  | .error e, x => ∀ z, P.Rely tid x z → P.Inv z →
      Q (.error e) (z.next tid [] (z.state.rollback tid))

/-- **A transaction** opens with nothing written and nothing locked. -/
theorem promised_transaction {body : Program (ServerCall δ ρ η ε) ε α} {report : α → List η}
    {Q : Except ε α → Logged η (Server δ ρ) → Prop}
    (hbegin : ∀ z : Logged η (Server δ ρ), G.Rely tid y z → z.state.Exclusive →
      G.Inv z.log z.state.committed → Q (.error unavailable) z)
    (hbody : ∀ x : Logged η (Server δ ρ), x.state.ownWrites tid = [] → x.state.ownLocks tid = [] →
      G.Step y.state.committed x.state.committed → y.log <+: x.log →
      G.Inv x.log x.state.committed →
      (promised unavailable disturb program G cond disturbance hdisturb).Safe op tid
        (MayCommit (promised unavailable disturb program G cond disturbance hdisturb) G op tid
          report Q unavailable) body x) :
    (promised unavailable disturb program G cond disturbance hdisturb).Safe op tid Q
      (transaction body report) y := by
  intro z hz hinv i b es s hexec _
  cases i with
  | false =>
    obtain ⟨rfl, rfl, rfl⟩ := (Prod.mk.injEq .. ▸ Option.some.inj hexec : _ ∧ _).imp id
      (Prod.mk.injEq .. ▸ ·)
    obtain ⟨hrely, hinv'⟩ := promised_unanswered tid hinv
    refine ⟨hrely, hinv', ?_⟩
    rw [Logged.next_none]
    exact hbegin z hz hinv.1 hinv.2
  | true =>
    obtain ⟨rfl, rfl, rfl⟩ := (Prod.mk.injEq .. ▸ Option.some.inj hexec : _ ∧ _).imp id
      (Prod.mk.injEq .. ▸ ·)
    have hlog : (z.next tid [] (z.state.rollback tid)).log = z.log := by
      rw [Logged.next, List.map_nil, List.append_nil]
    have hinv' : (z.state.rollback tid).Exclusive ∧
        G.Inv (z.next tid [] (z.state.rollback tid)).log (z.state.rollback tid).committed := by
      rw [hlog]
      exact ⟨hinv.1.rollback, hinv.2⟩
    refine ⟨fun t ht => ⟨Server.undisturbed_rollback ht, G.step_refl _, List.prefix_append _ _⟩,
      hinv', ?_⟩
    change (promised unavailable disturb program G cond disturbance hdisturb).Safe op tid Q
      ((body.tryCatch fun e => (command .rollback).bind fun _ => throw e).bind fun a =>
        (perform (.commit (report a))).bind fun _ => ret a) _
    have hopen := hbody (z.next tid [] (z.state.rollback tid)) Server.ownWrites_rollback_self
      Server.ownLocks_rollback_self hz.step (by rw [hlog]; exact hz.log) hinv'.2
    refine Protocol.Safe.bind (Protocol.Safe.tryCatch (hopen.mono ?_))
    rintro (e | a) x hx
    · -- the body has thrown
      intro w hw hinv
      exact promised_rollback hinv (hx w hw hinv)
    · intro w hw hinv
      obtain ⟨hdone, hfail⟩ := hx w hw hinv
      exact promised_commit hinv (fun hcond => (hdone hcond).1) (fun hcond => (hdone hcond).2) hfail

/-- **What is there for good stays** between any two points of a run, and the log only grows. -/
theorem promised_between {p : Pool (ServerCall δ ρ η ε) ε η (Server δ ρ) Op}
    (hops : (promised unavailable disturb program G cond disturbance hdisturb).SafeOperations)
    (hp : (promised unavailable disturb program G cond disturbance hdisturb).Holds p)
    {moves : List (Move Op Bool κ)}
    (hmeets : History.Each (Pool.step (serverPool unavailable disturb program))
      (Pool.Meets (serverPool unavailable disturb program) cond disturbance) p moves)
    (l₁ l₂ l₃ : List (Move Op Bool κ)) (hmoves : moves = l₁ ++ l₂ ++ l₃) :
    let later l := (History.after (Pool.step (serverPool unavailable disturb program)) p l).now
    G.Step (later l₁).state.committed (later (l₁ ++ l₂)).state.committed ∧
      (later l₁).log <+: (later (l₁ ++ l₂)).log := by
  have heach := (promised unavailable disturb program G cond disturbance hdisturb).each_guar
    (R := fun x y => G.Step x.state.committed y.state.committed ∧ x.log <+: y.log) hops hp
    (fun x => ⟨G.step_refl _, List.prefix_rfl⟩)
    (fun tid x y hguar => ⟨(hguar (tid + 1) (Nat.succ_ne_self tid)).step,
      (hguar (tid + 1) (Nat.succ_ne_self tid)).log⟩)
    (fun d x hd => ⟨(hdisturb d x hd).step, List.prefix_rfl⟩) hmeets
  refine History.Each.between (R := fun p q : Pool (ServerCall δ ρ η ε) ε η (Server δ ρ) Op =>
    G.Step p.now.state.committed q.now.state.committed ∧ p.now.log <+: q.now.log)
    (fun _ => ⟨G.step_refl _, List.prefix_rfl⟩) ?_ heach l₁ l₂ l₃ hmoves
  rintro p q r ⟨hstep, hlog⟩ ⟨hstep', hlog'⟩
  exact ⟨G.step_trans hstep hstep', hlog.trans hlog'⟩

end Protocol

end Program
