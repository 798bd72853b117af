import Deliivo.Program.RelyGuarantee

/-!
# Transactions that read what is committed

A server keeps a committed database. A thread that has a transaction open sees that database, as it is
when the statement runs, under its own writes; its locks keep the statements of other threads waiting
that want the same rows. Nothing else keeps two transactions apart: what a thread has read may be out
of date when it writes.

What can be relied on is what the locks protect. A part of the database is protected by a row if no
transaction commits a change of it without holding the row; a thread that holds the row then sees the
part stay as it is until it commits.

## Main definitions

* `Statement`, `Server`: a statement, and the state of the server
* `ServerCall`: the commands of a thread
* `transaction`, `autocommit`: programs of statements as one transaction, and single statements
* `Protection`: which part of the database a row protects
* `readCommitted`: the protocol of threads on a server

## Main results

* `keeps_run`, `keeps_auto`, `keeps_commit`, `keeps_rollback`: what a thread owes for its commands
* `safe_transaction`: the rule of a transaction
-/

universe u

namespace Program

/-- One statement over databases `δ` whose rows are named by `ρ`: the rows it locks, what it answers,
and what it writes, found by looking at one database and applied to another. -/
structure Statement (δ ρ η β : Type) where
  locks : δ → List ρ := fun _ => []
  answer : δ → β
  write : δ → δ → δ := fun _ d => d
  report : β → List η := fun _ => []

/-- What is one thread's in a list of entries that name their thread. -/
def ofThread {α : Type*} (tid : ℕ) (l : List (ℕ × α)) : List α :=
  l.filterMap fun e => if e.1 = tid then some e.2 else none

section OfThread

variable {α : Type*} {tid t : ℕ} {l l' : List (ℕ × α)}

theorem mem_ofThread {a : α} : a ∈ ofThread tid l ↔ (tid, a) ∈ l := by
  simp [ofThread]

theorem ofThread_append : ofThread tid (l ++ l') = ofThread tid l ++ ofThread tid l' :=
  List.filterMap_append

theorem ofThread_map_self (as : List α) : ofThread tid (as.map (Prod.mk tid)) = as := by
  induction as with
  | nil => rfl
  | cons a as ih =>
    rw [List.map_cons, ofThread, List.filterMap_cons, if_pos rfl]
    exact congrArg (a :: ·) ih

theorem ofThread_map_ne (h : t ≠ tid) (as : List α) : ofThread t (as.map (Prod.mk tid)) = [] := by
  rw [ofThread, List.filterMap_eq_nil_iff]
  intro e he
  obtain ⟨a, -, rfl⟩ := List.mem_map.mp he
  exact if_neg (Ne.symm h)

theorem ofThread_filter_self : ofThread tid (l.filter fun e => e.1 ≠ tid) = [] := by
  rw [ofThread, List.filterMap_eq_nil_iff]
  intro e he
  exact if_neg (of_decide_eq_true (List.mem_filter.mp he).2)

theorem ofThread_filter_ne (h : t ≠ tid) :
    ofThread t (l.filter fun e => e.1 ≠ tid) = ofThread t l := by
  induction l with
  | nil => rfl
  | cons e l ih =>
    by_cases he : e.1 = tid
    · have hother : e.1 ≠ t := fun heq => h (heq.symm.trans he)
      rw [List.filter_cons_of_neg (by simpa using he), ih, ofThread, ofThread, List.filterMap_cons,
        if_neg hother]
    · rw [List.filter_cons_of_pos (by simpa using he), ofThread, ofThread, List.filterMap_cons,
        List.filterMap_cons]
      rw [ofThread, ofThread] at ih
      rw [ih]

end OfThread

/-- A committed database with the writes and the locks of the transactions under way. -/
structure Server (δ ρ : Type) where
  committed : δ
  writes : List (ℕ × (δ → δ)) := []
  held : List (ℕ × ρ) := []

namespace Server

variable {δ ρ η β : Type} (s : Server δ ρ) (tid : ℕ)

/-- What a thread has written and not committed. -/
def ownWrites : List (δ → δ) := ofThread tid s.writes

/-- The rows that a thread has locked. -/
def ownLocks : List ρ := ofThread tid s.held

/-- What a thread has written, on top of a database. -/
def pending (d : δ) : δ := (s.ownWrites tid).foldl (fun d w => w d) d

/-- What a thread sees. -/
def view : δ := s.pending tid s.committed

/-- No other thread has locked one of the rows. -/
def Free (rows : List ρ) : Prop := ∀ lock ∈ s.held, lock.2 ∈ rows → lock.1 = tid

instance [DecidableEq ρ] (rows : List ρ) : Decidable (s.Free tid rows) :=
  inferInstanceAs (Decidable (∀ lock ∈ s.held, lock.2 ∈ rows → lock.1 = tid))

/-- A thread runs a statement. -/
def run (c : Statement δ ρ η β) : Server δ ρ where
  committed := s.committed
  writes := s.writes ++ [(tid, c.write (s.view tid))]
  held := s.held ++ (c.locks (s.view tid)).map (Prod.mk tid)

/-- A thread gives its transaction up. -/
def rollback : Server δ ρ where
  committed := s.committed
  writes := s.writes.filter fun w => w.1 ≠ tid
  held := s.held.filter fun l => l.1 ≠ tid

/-- A thread commits its transaction. -/
def commit : Server δ ρ := { s.rollback tid with committed := s.view tid }

/-- A thread runs a statement as a transaction of its own. -/
def auto (c : Statement δ ρ η β) : Server δ ρ :=
  { s with committed := c.write s.committed s.committed }

/-- No row is locked by two threads. -/
def Exclusive : Prop := ∀ l ∈ s.held, ∀ l' ∈ s.held, l.2 = l'.2 → l.1 = l'.1

end Server

/-- The commands of a thread. -/
inductive ServerCall (δ ρ η ε : Type) : Type → Type 1
  /-- Open a transaction. -/
  | begin : ServerCall δ ρ η ε (Except ε Unit)
  /-- Run a statement, within a transaction. -/
  | run {β : Type} (c : Statement δ ρ η β) : ServerCall δ ρ η ε (Except ε β)
  /-- Run a statement as a transaction of its own. -/
  | auto {β : Type} (c : Statement δ ρ η β) : ServerCall δ ρ η ε (Except ε β)
  /-- Commit the transaction; `events` says what that means. -/
  | commit (events : List η) : ServerCall δ ρ η ε (Except ε Unit)
  /-- Give the transaction up. -/
  | rollback : ServerCall δ ρ η ε Unit

section Programs

variable {δ ρ η ε α β : Type}

/-- One statement, as a transaction of its own. -/
def autocommit (c : Statement δ ρ η β) : Program (ServerCall δ ρ η ε) ε β := perform (.auto c)

/-- A transaction: given up if its body throws, and if it cannot be committed. -/
def transaction (body : Program (ServerCall δ ρ η ε) ε α) (report : α → List η) :
    Program (ServerCall δ ρ η ε) ε α :=
  (perform .begin).bind fun _ =>
    (body.tryCatch fun e => (command .rollback).bind fun _ => throw e).bind fun a =>
      (perform (.commit (report a))).bind fun _ => ret a

/-- What a command of a thread does: `none` while another thread has locked a row that it needs. A
command that is not answered (`false`) has no effect, but that of a commit, which ends the transaction
either way. -/
def ServerCall.exec [DecidableEq ρ] (unavailable : ε) (tid : ℕ) :
    {β : Type} → ServerCall δ ρ η ε β → Bool → Server δ ρ → Option (β × List η × Server δ ρ)
  | _, .begin, false, s => some (.error unavailable, [], s)
  | _, .begin, true, s => some (.ok (), [], s.rollback tid)
  | _, .run _, false, s => some (.error unavailable, [], s)
  | _, .run c, true, s =>
    if s.Free tid (c.locks (s.view tid)) then
      some (.ok (c.answer (s.view tid)), c.report (c.answer (s.view tid)), s.run tid c)
    else none
  | _, .auto _, false, s => some (.error unavailable, [], s)
  | _, .auto c, true, s =>
    if s.Free tid (c.locks s.committed) then
      some (.ok (c.answer s.committed), c.report (c.answer s.committed), s.auto c)
    else none
  | _, .commit events, true, s => some (.ok (), events, s.commit tid)
  | _, .commit _, false, s => some (.error unavailable, [], s.rollback tid)
  | _, .rollback, _, s => some ((), [], s.rollback tid)

/-- Threads on one server, next to what else becomes of its committed database. -/
def serverPool [DecidableEq ρ] {κ Op : Type} (unavailable : ε) (disturb : κ → δ → δ)
    (program : Op → Program (ServerCall δ ρ η ε) ε Unit) :
    Concurrent (ServerCall δ ρ η ε) ε Bool η (Server δ ρ) κ Op where
  exec tid c reply s := c.exec unavailable tid reply s
  disturb d s := { s with committed := disturb d s.committed }
  program := program

end Programs

namespace Server

variable {δ ρ η β : Type} {s : Server δ ρ} {tid t : ℕ} {c : Statement δ ρ η β}

theorem mem_ownLocks {r : ρ} : r ∈ s.ownLocks tid ↔ (tid, r) ∈ s.held := mem_ofThread

theorem ownWrites_run_self :
    (s.run tid c).ownWrites tid = s.ownWrites tid ++ [c.write (s.view tid)] :=
  ofThread_append.trans (congrArg _ (ofThread_map_self [c.write (s.view tid)]))

theorem ownWrites_run_ne (h : t ≠ tid) : (s.run tid c).ownWrites t = s.ownWrites t := by
  refine ofThread_append.trans ?_
  rw [← List.map_singleton (f := Prod.mk tid), ofThread_map_ne h, List.append_nil]
  rfl

theorem ownLocks_run_self :
    (s.run tid c).ownLocks tid = s.ownLocks tid ++ c.locks (s.view tid) :=
  ofThread_append.trans (congrArg _ (ofThread_map_self _))

theorem ownLocks_run_ne (h : t ≠ tid) : (s.run tid c).ownLocks t = s.ownLocks t := by
  refine ofThread_append.trans ?_
  rw [ofThread_map_ne h, List.append_nil]
  rfl

@[simp] theorem ownWrites_rollback_self : (s.rollback tid).ownWrites tid = [] := ofThread_filter_self

theorem ownWrites_rollback_ne (h : t ≠ tid) : (s.rollback tid).ownWrites t = s.ownWrites t :=
  ofThread_filter_ne h

@[simp] theorem ownLocks_rollback_self : (s.rollback tid).ownLocks tid = [] := ofThread_filter_self

theorem ownLocks_rollback_ne (h : t ≠ tid) : (s.rollback tid).ownLocks t = s.ownLocks t :=
  ofThread_filter_ne h

theorem mem_held_rollback {l : ℕ × ρ} : l ∈ (s.rollback tid).held ↔ l ∈ s.held ∧ l.1 ≠ tid :=
  List.mem_filter.trans (and_congr_right fun _ => decide_eq_true_iff)

/-- A thread sees its own writes. -/
theorem pending_run (d : δ) :
    (s.run tid c).pending tid d = c.write (s.view tid) (s.pending tid d) := by
  rw [pending, ownWrites_run_self, List.foldl_append]
  rfl

theorem pending_of_nil (h : s.ownWrites tid = []) (d : δ) : s.pending tid d = d := by
  rw [pending, h]
  rfl

theorem Exclusive.run (h : s.Exclusive) (hfree : s.Free tid (c.locks (s.view tid))) :
    (s.run tid c).Exclusive := by
  have hmem : ∀ l ∈ (s.run tid c).held, l ∈ s.held ∨ l.1 = tid ∧ l.2 ∈ c.locks (s.view tid) := by
    intro l hl
    rcases List.mem_append.mp hl with hold | hnew
    · exact Or.inl hold
    · obtain ⟨r, hr, rfl⟩ := List.mem_map.mp hnew
      exact Or.inr ⟨rfl, hr⟩
  intro l hl l' hl' heq
  rcases hmem l hl with hold | ⟨htid, hlock⟩
  · rcases hmem l' hl' with hold' | ⟨htid', hlock'⟩
    · exact h l hold l' hold' heq
    · exact (hfree l hold (heq ▸ hlock')).trans htid'.symm
  · rcases hmem l' hl' with hold' | ⟨htid', -⟩
    · exact htid.trans (hfree l' hold' (heq ▸ hlock)).symm
    · exact htid.trans htid'.symm

theorem Exclusive.rollback (h : s.Exclusive) : (s.rollback tid).Exclusive := by
  intro l hl l' hl' heq
  exact h l (mem_held_rollback.mp hl).1 l' (mem_held_rollback.mp hl').1 heq

end Server

/-! ## What the locks protect -/

/-- Which part of a database a row protects: `same r d d'` says that it is the same in both. -/
structure Protection (δ ρ : Type) where
  same : ρ → δ → δ → Prop
  refl : ∀ r d, same r d d
  trans : ∀ {r d d' d''}, same r d d' → same r d' d'' → same r d d''

namespace Server

section Undisturbed

variable {δ ρ : Type} (G : Protection δ ρ) (tid : ℕ)

/-- What others may do to the transaction of a thread: nothing to what it has written and locked, or to
what is protected by its locks. -/
structure Undisturbed (s s' : Server δ ρ) : Prop where
  writes : s'.ownWrites tid = s.ownWrites tid
  locks : s'.ownLocks tid = s.ownLocks tid
  same : ∀ r ∈ s.ownLocks tid, G.same r s.committed s'.committed

theorem Undisturbed.refl (s : Server δ ρ) : s.Undisturbed G tid s where
  writes := rfl
  locks := rfl
  same _ _ := G.refl _ _

variable {G tid}

theorem Undisturbed.trans {s s' s'' : Server δ ρ} (h : s.Undisturbed G tid s')
    (h' : s'.Undisturbed G tid s'') : s.Undisturbed G tid s'' where
  writes := h'.writes.trans h.writes
  locks := h'.locks.trans h.locks
  same r hr := G.trans (h.same r hr) (h'.same r (h.locks ▸ hr))

theorem Undisturbed.pending {s s' : Server δ ρ} (h : s.Undisturbed G tid s') (d : δ) :
    s'.pending tid d = s.pending tid d := by
  rw [Server.pending, Server.pending, h.writes]

variable {η β : Type} {s : Server δ ρ} {c : Statement δ ρ η β} {t : ℕ}

theorem undisturbed_run (h : t ≠ tid) : s.Undisturbed G t (s.run tid c) where
  writes := ownWrites_run_ne h
  locks := ownLocks_run_ne h
  same _ _ := G.refl _ _

theorem undisturbed_rollback (h : t ≠ tid) : s.Undisturbed G t (s.rollback tid) where
  writes := ownWrites_rollback_ne h
  locks := ownLocks_rollback_ne h
  same _ _ := G.refl _ _

/-- A commit that changes what a row protects only under the lock of the row. -/
theorem undisturbed_commit (hexclusive : s.Exclusive)
    (hsame : ∀ r ∉ s.ownLocks tid, G.same r s.committed (s.view tid)) (h : t ≠ tid) :
    s.Undisturbed G t (s.commit tid) where
  writes := ownWrites_rollback_ne h
  locks := ownLocks_rollback_ne h
  same r hr := by
    refine hsame r fun hown => h ?_
    exact hexclusive (t, r) (mem_ownLocks.mp hr) (tid, r) (mem_ownLocks.mp hown) rfl

theorem undisturbed_auto (hfree : s.Free tid (c.locks s.committed))
    (hsame : ∀ r ∉ c.locks s.committed, G.same r s.committed (c.write s.committed s.committed))
    (h : t ≠ tid) : s.Undisturbed G t (s.auto c) where
  writes := rfl
  locks := rfl
  same r hr := hsame r fun hlock => h (hfree (t, r) (mem_ownLocks.mp hr) hlock)

end Undisturbed

end Server

/-! ## The protocol -/

section Protocol

variable {δ ρ η ε κ Op : Type} [DecidableEq ρ] (unavailable : ε) (disturb : κ → δ → δ)
  (program : Op → Program (ServerCall δ ρ η ε) ε Unit)

/-- What holds of the committed database, what every commit does to it, and which part of it a row
protects. -/
structure Commits (δ ρ : Type) extends Protection δ ρ where
  Inv : δ → Prop
  Step : δ → δ → Prop
  step_refl : ∀ d, Step d d

/-- A change of the committed database keeps what is promised, if the rows `rows` are locked. -/
structure Commits.Keeps (G : Commits δ ρ) (rows : List ρ) (d d' : δ) : Prop where
  inv : G.Inv d'
  step : G.Step d d'
  same : ∀ r ∉ rows, G.same r d d'

/-- Threads on a server: every commit keeps what is promised, and rows are locked by one thread. -/
def readCommitted (G : Commits δ ρ)
    (cond : Op → ℕ → Logged η (Server δ ρ) → Bool → List η → Prop)
    (disturbance : κ → Logged η (Server δ ρ) → Prop)
    (hdisturb : ∀ d x, G.Inv x.state.committed → disturbance d x →
      G.Keeps [] x.state.committed (disturb d x.state.committed)) :
    Protocol (serverPool unavailable disturb program) cond disturbance where
  Inv x := x.state.Exclusive ∧ G.Inv x.state.committed
  Rely tid x y := x.state.Undisturbed G.toProtection tid y.state
  Guar tid x y := G.Step x.state.committed y.state.committed ∧
    ∀ t, t ≠ tid → x.state.Undisturbed G.toProtection t y.state
  Post _ _ _ := True
  rely_refl tid x := .refl _ tid x.state
  rely_trans h h' := h.trans h'
  guar_rely hne _ h := h.2 _ hne
  env_inv h hd := ⟨h.1, (hdisturb _ _ h.2 hd).inv⟩
  env_rely _ h hd := ⟨rfl, rfl, fun r _ => (hdisturb _ _ h.2 hd).same r List.not_mem_nil⟩
  post_stable _ _ _ := trivial

variable {unavailable disturb program} {G : Commits δ ρ}
  {cond : Op → ℕ → Logged η (Server δ ρ) → Bool → List η → Prop}
  {disturbance : κ → Logged η (Server δ ρ) → Prop}
  {hdisturb : ∀ d x, G.Inv x.state.committed → disturbance d x →
    G.Keeps [] x.state.committed (disturb d x.state.committed)}

variable {op : Op} {tid : ℕ} {y : Logged η (Server δ ρ)} {α β : Type}

/-- A statement within a transaction: nothing is owed until the commit. -/
theorem keeps_run {c : Statement δ ρ η β} {Q : Except ε β → Logged η (Server δ ρ) → Prop}
    (hinv : y.state.Exclusive ∧ G.Inv y.state.committed)
    (hrun : cond op tid y true (c.report (c.answer (y.state.view tid))) →
      Q (.ok (c.answer (y.state.view tid)))
        (y.next tid (c.report (c.answer (y.state.view tid))) (y.state.run tid c)))
    (hfail : Q (.error unavailable) y) :
    (readCommitted unavailable disturb program G cond disturbance hdisturb).Keeps op tid (.run c) y
      Q := by
  intro i b es s hexec hcond
  cases i with
  | false =>
    obtain ⟨rfl, rfl, rfl⟩ := (Prod.mk.injEq .. ▸ Option.some.inj hexec : _ ∧ _).imp id
      (Prod.mk.injEq .. ▸ ·)
    rw [Logged.next_none]
    exact ⟨⟨G.step_refl _, fun t _ => .refl _ t _⟩, hinv, hfail⟩
  | true =>
    simp only [serverPool, ServerCall.exec] at hexec
    by_cases hfree : y.state.Free tid (c.locks (y.state.view tid))
    · rw [if_pos hfree] at hexec
      obtain ⟨rfl, rfl, rfl⟩ := (Prod.mk.injEq .. ▸ Option.some.inj hexec : _ ∧ _).imp id
        (Prod.mk.injEq .. ▸ ·)
      exact ⟨⟨G.step_refl _, fun t ht => Server.undisturbed_run ht⟩, ⟨hinv.1.run hfree, hinv.2⟩,
        hrun hcond⟩
    · rw [if_neg hfree] at hexec
      cases hexec

/-- A statement as a transaction of its own: what it writes is committed at once. -/
theorem keeps_auto {c : Statement δ ρ η β} {Q : Except ε β → Logged η (Server δ ρ) → Prop}
    (hinv : y.state.Exclusive ∧ G.Inv y.state.committed)
    (hcommit : G.Keeps (c.locks y.state.committed) y.state.committed
      (c.write y.state.committed y.state.committed))
    (hrun : cond op tid y true (c.report (c.answer y.state.committed)) →
      Q (.ok (c.answer y.state.committed))
        (y.next tid (c.report (c.answer y.state.committed)) (y.state.auto c)))
    (hfail : Q (.error unavailable) y) :
    (readCommitted unavailable disturb program G cond disturbance hdisturb).Keeps op tid (.auto c) y
      Q := by
  intro i b es s hexec hcond
  cases i with
  | false =>
    obtain ⟨rfl, rfl, rfl⟩ := (Prod.mk.injEq .. ▸ Option.some.inj hexec : _ ∧ _).imp id
      (Prod.mk.injEq .. ▸ ·)
    rw [Logged.next_none]
    exact ⟨⟨G.step_refl _, fun t _ => .refl _ t _⟩, hinv, hfail⟩
  | true =>
    simp only [serverPool, ServerCall.exec] at hexec
    by_cases hfree : y.state.Free tid (c.locks y.state.committed)
    · rw [if_pos hfree] at hexec
      obtain ⟨rfl, rfl, rfl⟩ := (Prod.mk.injEq .. ▸ Option.some.inj hexec : _ ∧ _).imp id
        (Prod.mk.injEq .. ▸ ·)
      exact ⟨⟨hcommit.step, fun t ht => Server.undisturbed_auto hfree hcommit.same ht⟩,
        ⟨hinv.1, hcommit.inv⟩, hrun hcond⟩
    · rw [if_neg hfree] at hexec
      cases hexec

theorem keeps_rollback {Q : Unit → Logged η (Server δ ρ) → Prop}
    (hinv : y.state.Exclusive ∧ G.Inv y.state.committed)
    (hQ : Q () (y.next tid [] (y.state.rollback tid))) :
    (readCommitted unavailable disturb program G cond disturbance hdisturb).Keeps op tid .rollback y
      Q := by
  intro i b es s hexec _
  obtain ⟨-, rfl, rfl⟩ := (Prod.mk.injEq .. ▸ Option.some.inj hexec : _ ∧ _).imp id
    (Prod.mk.injEq .. ▸ ·)
  exact ⟨⟨G.step_refl _, fun t ht => Server.undisturbed_rollback ht⟩, ⟨hinv.1.rollback, hinv.2⟩, hQ⟩

/-- A commit: what the thread has written keeps what is promised, under the locks that it holds. -/
theorem keeps_commit {events : List η} {Q : Except ε Unit → Logged η (Server δ ρ) → Prop}
    (hinv : y.state.Exclusive ∧ G.Inv y.state.committed)
    (hcommit : cond op tid y true events →
      G.Keeps (y.state.ownLocks tid) y.state.committed (y.state.view tid))
    (hdone : cond op tid y true events → Q (.ok ()) (y.next tid events (y.state.commit tid)))
    (hfail : Q (.error unavailable) (y.next tid [] (y.state.rollback tid))) :
    (readCommitted unavailable disturb program G cond disturbance hdisturb).Keeps op tid
      (.commit events) y Q := by
  intro i b es s hexec hcond
  cases i with
  | false =>
    obtain ⟨rfl, rfl, rfl⟩ := (Prod.mk.injEq .. ▸ Option.some.inj hexec : _ ∧ _).imp id
      (Prod.mk.injEq .. ▸ ·)
    exact ⟨⟨G.step_refl _, fun t ht => Server.undisturbed_rollback ht⟩, ⟨hinv.1.rollback, hinv.2⟩,
      hfail⟩
  | true =>
    obtain ⟨rfl, rfl, rfl⟩ := (Prod.mk.injEq .. ▸ Option.some.inj hexec : _ ∧ _).imp id
      (Prod.mk.injEq .. ▸ ·)
    have hkeep := hcommit hcond
    exact ⟨⟨hkeep.step, fun t ht => Server.undisturbed_commit hinv.1 hkeep.same ht⟩,
      ⟨hinv.1.rollback, hkeep.inv⟩, hdone hcond⟩

/-- **A transaction**: it opens with nothing written and nothing locked. Where its body returns, what it
has written may be committed, and stays so while the others move; where the body throws, and where the
commit fails, it is given up. -/
theorem safe_transaction {body : Program (ServerCall δ ρ η ε) ε α} {report : α → List η}
    {Q : Except ε α → Logged η (Server δ ρ) → Prop}
    (hbegin : ∀ z : Logged η (Server δ ρ), y.state.Undisturbed G.toProtection tid z.state →
      z.state.Exclusive → G.Inv z.state.committed → Q (.error unavailable) z)
    (hbody : ∀ x : Logged η (Server δ ρ), x.state.ownWrites tid = [] → x.state.ownLocks tid = [] →
      G.Inv x.state.committed →
      (readCommitted unavailable disturb program G cond disturbance hdisturb).Safe op tid
        (fun r x => ∀ z : Logged η (Server δ ρ),
          x.state.Undisturbed G.toProtection tid z.state → z.state.Exclusive →
          G.Inv z.state.committed →
          match r with
          | .ok a => (cond op tid z true (report a) →
                G.Keeps (z.state.ownLocks tid) z.state.committed (z.state.view tid) ∧
                  Q (.ok a) (z.next tid (report a) (z.state.commit tid))) ∧
              Q (.error unavailable) (z.next tid [] (z.state.rollback tid))
          | .error e => Q (.error e) (z.next tid [] (z.state.rollback tid))) body x) :
    (readCommitted unavailable disturb program G cond disturbance hdisturb).Safe op tid Q
      (transaction body report) y := by
  intro z hz hinv i b es s hexec _
  cases i with
  | false =>
    obtain ⟨rfl, rfl, rfl⟩ := (Prod.mk.injEq .. ▸ Option.some.inj hexec : _ ∧ _).imp id
      (Prod.mk.injEq .. ▸ ·)
    rw [Logged.next_none]
    exact ⟨⟨G.step_refl _, fun t _ => .refl _ t _⟩, hinv, hbegin z hz hinv.1 hinv.2⟩
  | true =>
    obtain ⟨rfl, rfl, rfl⟩ := (Prod.mk.injEq .. ▸ Option.some.inj hexec : _ ∧ _).imp id
      (Prod.mk.injEq .. ▸ ·)
    refine ⟨⟨G.step_refl _, fun t ht => Server.undisturbed_rollback ht⟩,
      ⟨hinv.1.rollback, hinv.2⟩, ?_⟩
    change (readCommitted unavailable disturb program G cond disturbance hdisturb).Safe op tid Q
      ((body.tryCatch fun e => (command .rollback).bind fun _ => throw e).bind fun a =>
        (perform (.commit (report a))).bind fun _ => ret a) _
    have hopen := hbody (z.next tid [] (z.state.rollback tid)) Server.ownWrites_rollback_self
      Server.ownLocks_rollback_self hinv.2
    refine Protocol.Safe.bind (Protocol.Safe.tryCatch (hopen.mono ?_))
    rintro (e | a) x hx
    · -- the body has thrown
      intro w hw hinv
      exact keeps_rollback hinv (hx w hw hinv.1 hinv.2)
    · intro w hw hinv
      obtain ⟨hdone, hfail⟩ := hx w hw hinv.1 hinv.2
      exact keeps_commit hinv (fun hcond => (hdone hcond).1) (fun hcond => (hdone hcond).2) hfail

end Protocol

end Program
