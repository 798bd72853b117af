import Deliivo.Domain.Pool
import Deliivo.Domain.Preserves
import Deliivo.Payment.Frame
import Deliivo.Payout.Eligibility

/-!
# What becomes of an outbox event

The worker behind the outbox moves a row to `PROCESSING`, runs its handler and writes what has come
of it, each in a step of its own, and selects pending rows only. A run may stop at any step, with the
process that it is in, and runs may overlap.

**If no run ends with a row on hand, no write that follows a handler's success fails, and no run
selects a row that another still has on its list, then whenever no run is in progress every event is
accounted for** (`outbox_loses_no_event`).

## Main definitions

* `OutboxOp`, `outboxPool`: runs of the worker, cut short anywhere, and writers of events
* `RunView`: what a run has selected, and which row it has on hand
* `Attempts`: how often the handler of an event has failed, and whether it has succeeded
* `laterRuns`: what runs one after the other come to
* `NothingLost`: what is to hold whenever no run is in progress

## Main results

* `safe_processOutboxEvent`: one row keeps the protocol
* `laterRuns_hold`: a later run moves a payment left in `PAID` on
* `outbox_loses_no_event`
-/

namespace Deliivo

open Program (Logged Protocol Pool Move)

/-! ## What is recorded of runs and handlers -/

/-- Whether the worker has a handler for events of this type. -/
def OutboxEvent.registered (e : OutboxEvent) : Bool := (outboxHandler e).isSome

/-- How far a run has come: the rows that it has selected and not yet written back, the row that it
has moved to `PROCESSING`, and how the handler of that row has ended. -/
structure RunView where
  listed : List ℕ := []
  onHand : Option ℕ := none
  returned : Option Bool := none

def RunView.see (v : RunView) : Event → RunView
  | .outboxSelected ids => { v with listed := ids }
  | .outboxWritten id row =>
    if row.status = .processing then
      { v with onHand := if row.registered then some id else none }
    else { listed := v.listed.erase id }
  | .handlerEnded _ returned => { v with returned := some returned }
  | .outboxRunEnded => { v with listed := [] }
  | _ => v

/-- How far the run in thread `tid` has come. -/
def runView (tid : ℕ) (log : List (ℕ × Event)) : RunView :=
  log.foldl (fun v entry => if entry.1 = tid then v.see entry.2 else v) {}

/-- The handler attempts on one event. -/
structure Attempts where
  failed : ℕ := 0
  succeeded : Bool := false

def Attempts.see (id : ℕ) (a : Attempts) : Event → Attempts
  | .handlerEnded id' returned =>
    if id' = id then
      if returned then { a with succeeded := true } else { a with failed := a.failed + 1 }
    else a
  | _ => a

/-- The attempts on an event by now, given those from before the log. -/
def attempts (before : ℕ → Attempts) (log : List (ℕ × Event)) (id : ℕ) : Attempts :=
  log.foldl (fun a entry => a.see id entry.2) (before id)

section Log

variable {x : LoggedWorld} {tid : ℕ} {es : List Event} {s : World}

theorem runView_next_self :
    runView tid (x.next tid es s).log = es.foldl RunView.see (runView tid x.log) := by
  simp only [runView, Logged.next, List.foldl_append, List.foldl_map, if_true]

theorem runView_next_ne {t : ℕ} (ht : t ≠ tid) :
    runView t (x.next tid es s).log = runView t x.log := by
  simp only [runView, Logged.next, List.foldl_append, List.foldl_map, if_neg (Ne.symm ht)]
  exact List.foldl_fixed _

theorem attempts_next (before : ℕ → Attempts) (id : ℕ) :
    attempts before (x.next tid es s).log id =
      es.foldl (Attempts.see id) (attempts before x.log id) := by
  simp only [attempts, Logged.next, List.foldl_append, List.foldl_map]

/-- A thread that the log does not name has not selected anything. -/
theorem runView_of_notMem {log : List (ℕ × Event)} (h : ∀ entry ∈ log, entry.1 ≠ tid) :
    runView tid log = {} := by
  unfold runView
  generalize ({} : RunView) = v
  induction log generalizing v with
  | nil => rfl
  | cons entry log ih =>
    rw [List.foldl_cons, if_neg (h entry List.mem_cons_self)]
    exact ih (fun e he => h e (List.mem_cons_of_mem _ he)) v

end Log

/-! ## The runs -/

/-- A run of the worker, which may stop with its process after some steps, or a writer of an event. -/
inductive OutboxOp
  | run (batchSize : ℕ) (crashAfter : Option ℕ)
  | write (eventType : OutboxEventType) (paymentId : Option ℕ)

/-- A service in a process that may stop after some steps. -/
def crashing (crashAfter : Option ℕ) (p : Service Unit) : Service Unit :=
  match crashAfter with
  | none => p
  | some n => p.cut .unavailable n

def OutboxOp.program : OutboxOp → Service Unit
  | run batchSize crashAfter => do
    Program.tryCatch (crashing crashAfter (processOutboxEvents batchSize)) fun _ => return ()
    Program.command (.note [.outboxRunEnded])
  | write eventType paymentId => writeOutboxEvent eventType paymentId

/-- Anything else that goes on: all of the world but the outbox. -/
def besidesOutbox (w' w : World) : World :=
  { w' with db := { w'.db with outbox := w.db.outbox } }

/-- The runs, next to each other. -/
abbrev outboxPool := servicePool OutboxOp.program besidesOutbox

/-- The condition on the steps: a run selects no row that another one in progress has selected and
not yet written back; the write after a handler that has returned does not fail; and a run does not
end between moving a row to `PROCESSING` and writing what has come of it. -/
structure OutboxStep (_op : OutboxOp) (tid : ℕ) (x : LoggedWorld) (reply : Reply)
    (events : List Event) : Prop where
  apart : ∀ ids, .outboxSelected ids ∈ events → ∀ id ∈ ids, ∀ t, t ≠ tid →
    id ∉ (runView t x.log).listed
  written : (runView tid x.log).returned = some true → reply = .ok
  finished : .outboxRunEnded ∈ events → (runView tid x.log).onHand = none

/-! ## What is to hold -/

/-- What has come of an event agrees with the attempts on it. -/
def NotLost (a : Attempts) (e : OutboxEvent) : Prop :=
  if a.succeeded then e.status = .processed
  else e.status = .pending ∨ e.status = .failed ∧ maxRetries ≤ a.failed

instance (a : Attempts) (e : OutboxEvent) : Decidable (NotLost a e) :=
  inferInstanceAs (Decidable (if a.succeeded then e.status = .processed
    else e.status = .pending ∨ e.status = .failed ∧ maxRetries ≤ a.failed))

/-- The same, and the row of a pending event counts its failures. -/
def Tracked (a : Attempts) (e : OutboxEvent) : Prop :=
  NotLost a e ∧ (e.status = .pending → e.retryCount = a.failed)

/-- What later runs of the worker make of the world, one after the other, each at its own time. -/
def laterRuns (batchSize : ℕ) (clock : ℕ → ℕ) (w : World) : ℕ → World
  | 0 => w
  | n + 1 =>
    ((processOutboxEvents batchSize).eval { laterRuns batchSize clock w n with now := clock n }).2

/-- Every event of a registered type is accounted for; and where the handler of `payment.paid` has
not succeeded on a payment still in `PAID`, and has failed less often than `MAX_RETRIES`, one of the runs
from the time on that it is due moves the payment to escrow, from where `booking.completed` may have
made it eligible. -/
structure NothingLost (before : ℕ → Attempts) (x : LoggedWorld) : Prop where
  accounted : ∀ id e, x.state.db.outbox.get? id = some e → e.registered = true →
    NotLost (attempts before x.log id) e
  recovers : ∀ id e paymentId payment, x.state.db.outbox.get? id = some e →
    e.eventType = .paymentPaid → e.paymentId = some paymentId →
    x.state.db.payments.get? paymentId = some payment → payment.status = .paid →
    (attempts before x.log id).succeeded = false → (attempts before x.log id).failed < maxRetries →
    ∀ batchSize clock, 0 < batchSize → (∀ n, e.nextRetryAt.all (· ≤ clock n) = true) →
      ∃ n p, (laterRuns batchSize clock x.state n).db.payments.get? paymentId = some p ∧ p.status.Held

/-- The outbox at the start: the events that are there are accounted for by the attempts from before,
and there have been none on any other. -/
structure OutboxStart (before : ℕ → Attempts) (w : World) : Prop where
  tracked : ∀ id e, w.db.outbox.get? id = some e → e.registered = true → Tracked (before id) e
  absent : ∀ id, w.db.outbox.get? id = none → before id = {}

/-! ## The protocol -/

section Protocol

variable (before : ℕ → Attempts)

/-- What holds at all times: an event is on the hand of a run or accounted for; runs have different
events on their lists, and what they have on hand is on their list; and what has not been written yet
has not been tried or selected. -/
structure OutboxInv (x : LoggedWorld) : Prop where
  tracked : ∀ id e, x.state.db.outbox.get? id = some e → e.registered = true →
    (∃ t, (runView t x.log).onHand = some id) ∨ Tracked (attempts before x.log id) e
  apart : ∀ t t', t ≠ t' → ∀ id ∈ (runView t x.log).listed, id ∉ (runView t' x.log).listed
  held : ∀ t id, (runView t x.log).onHand = some id → id ∈ (runView t x.log).listed
  absent : ∀ id, x.state.db.outbox.get? id = none →
    attempts before x.log id = {} ∧ ∀ t, id ∉ (runView t x.log).listed

/-- What a run relies on: the others leave alone what it has on its list. -/
structure OutboxRely (tid : ℕ) (x y : LoggedWorld) : Prop where
  view : runView tid y.log = runView tid x.log
  rows : ∀ id ∈ (runView tid x.log).listed,
    y.state.db.outbox.get? id = x.state.db.outbox.get? id
  attempts : ∀ id ∈ (runView tid x.log).listed,
    attempts before y.log id = attempts before x.log id

/-- What a run guarantees: it changes only rows that are on its list. -/
structure OutboxGuar (tid : ℕ) (x y : LoggedWorld) : Prop where
  view : ∀ t, t ≠ tid → runView t y.log = runView t x.log
  rows : ∀ id, id ∉ (runView tid x.log).listed → (x.state.db.outbox.get? id).isSome = true →
    y.state.db.outbox.get? id = x.state.db.outbox.get? id
  attempts : ∀ id, id ∉ (runView tid x.log).listed →
    attempts before y.log id = attempts before x.log id

variable {before} {x y : LoggedWorld} {tid : ℕ} {es : List Event} {s : World}

/-- An event that says nothing of runs and handlers. -/
def Quiet (e : Event) : Prop := (∀ v : RunView, v.see e = v) ∧ ∀ id (a : Attempts), a.see id e = a

theorem foldl_see_quiet {es : List Event} (h : ∀ e ∈ es, Quiet e) (v : RunView) :
    es.foldl RunView.see v = v := by
  induction es generalizing v with
  | nil => rfl
  | cons e es ih =>
    rw [List.foldl_cons, (h e List.mem_cons_self).1]
    exact ih (fun e' he' => h e' (List.mem_cons_of_mem _ he')) v

theorem foldl_attempts_quiet {es : List Event} (h : ∀ e ∈ es, Quiet e) (id : ℕ) (a : Attempts) :
    es.foldl (Attempts.see id) a = a := by
  induction es generalizing a with
  | nil => rfl
  | cons e es ih =>
    rw [List.foldl_cons, (h e List.mem_cons_self).2]
    exact ih (fun e' he' => h e' (List.mem_cons_of_mem _ he')) a

/-- The outbox, the views of the runs and the attempts are as they were. -/
structure SameOutbox (before : ℕ → Attempts) (x y : LoggedWorld) : Prop where
  outbox : y.state.db.outbox = x.state.db.outbox
  view : ∀ t, runView t y.log = runView t x.log
  attempts : ∀ id, attempts before y.log id = attempts before x.log id

theorem sameOutbox_next (houtbox : s.db.outbox = x.state.db.outbox) (hes : ∀ e ∈ es, Quiet e) :
    SameOutbox before x (x.next tid es s) where
  outbox := houtbox
  view t := by
    by_cases ht : t = tid
    · rw [ht, runView_next_self, foldl_see_quiet hes]
    · exact runView_next_ne ht
  attempts id := by rw [attempts_next, foldl_attempts_quiet hes]

theorem SameOutbox.inv (h : SameOutbox before x y) (hI : OutboxInv before x) :
    OutboxInv before y where
  tracked id e he hreg := by
    rw [h.outbox] at he
    simp only [h.view, h.attempts]
    exact hI.tracked id e he hreg
  apart t t' hne := by
    rw [h.view, h.view]
    exact hI.apart t t' hne
  held t id := by
    rw [h.view]
    exact hI.held t id
  absent id hid := by
    rw [h.outbox] at hid
    simp only [h.view, h.attempts]
    exact hI.absent id hid

theorem SameOutbox.guar (h : SameOutbox before x y) : OutboxGuar before tid x y where
  view t _ := h.view t
  rows id _ _ := by rw [h.outbox]
  attempts id _ := h.attempts id

theorem SameOutbox.rely (h : SameOutbox before x y) : OutboxRely before tid x y where
  view := h.view tid
  rows id _ := by rw [h.outbox]
  attempts id _ := h.attempts id

/-- What runs owe each other. -/
def outboxProtocol (before : ℕ → Attempts) : Protocol outboxPool OutboxStep (fun _ _ => True) where
  Inv := OutboxInv before
  Rely := OutboxRely before
  Guar := OutboxGuar before
  Post _ tid x := (runView tid x.log).onHand = none
  rely_refl tid x := ⟨rfl, fun _ _ => rfl, fun _ _ => rfl⟩
  rely_trans {tid x y z} h h' := by
    refine ⟨h'.view.trans h.view, fun id hid => ?_, fun id hid => ?_⟩
    · exact (h'.rows id (h.view ▸ hid)).trans (h.rows id hid)
    · exact (h'.attempts id (h.view ▸ hid)).trans (h.attempts id hid)
  guar_rely {tid tid' x y} hne hI h := by
    refine ⟨h.view tid hne, fun id hid => ?_, fun id hid => h.attempts id (hI.apart _ _ hne id hid)⟩
    refine h.rows id (hI.apart _ _ hne id hid) ?_
    by_contra hnone
    exact (hI.absent id (by simpa using hnone)).2 tid hid
  env_inv {d x} hI _ :=
    (SameOutbox.mk rfl (fun _ => rfl) fun _ => rfl :
      SameOutbox before x { x with state := besidesOutbox d x.state }).inv hI
  env_rely {d x} _ _ _ :=
    (SameOutbox.mk rfl (fun _ => rfl) fun _ => rfl :
      SameOutbox before x { x with state := besidesOutbox d x.state }).rely
  post_stable hx h _ := by
    rw [h.view]
    exact hx

end Protocol

/-! ## The steps of a run -/

section Safe

variable {before : ℕ → Attempts} {op : OutboxOp} {tid : ℕ} {x y : LoggedWorld} {es : List Event}
  {s : World}

/-- A step of a run keeps the protocol if it changes only what is on the list, selects nothing new
and leaves every event on the list on hand or accounted for. -/
theorem keeps_listed {v : RunView} (tid : ℕ) (es : List Event) (hI : OutboxInv before y)
    (hv : es.foldl RunView.see (runView tid y.log) = v)
    (hlisted : ∀ id ∈ v.listed, id ∈ (runView tid y.log).listed)
    (hheld : ∀ id, v.onHand = some id → id ∈ v.listed)
    (hrows : ∀ id, id ∉ (runView tid y.log).listed →
      s.db.outbox.get? id = y.state.db.outbox.get? id)
    (hcounts : ∀ id, id ∉ (runView tid y.log).listed →
      es.foldl (Attempts.see id) (attempts before y.log id) = attempts before y.log id)
    (hmem : ∀ id ∈ (runView tid y.log).listed, ∃ e, s.db.outbox.get? id = some e ∧
      (e.registered = true → v.onHand = some id ∨
        Tracked (es.foldl (Attempts.see id) (attempts before y.log id)) e)) :
    OutboxGuar before tid y (y.next tid es s) ∧ OutboxInv before (y.next tid es s) := by
  have hself : runView tid (y.next tid es s).log = v := runView_next_self.trans hv
  have hother : ∀ t, t ≠ tid → runView t (y.next tid es s).log = runView t y.log :=
    fun t ht => runView_next_ne ht
  -- no list gets longer
  have hsub : ∀ t, ∀ id ∈ (runView t (y.next tid es s).log).listed,
      id ∈ (runView t y.log).listed := by
    intro t id hid
    by_cases ht : t = tid
    · subst ht
      rw [hself] at hid
      exact hlisted id hid
    · rwa [hother t ht] at hid
  refine ⟨⟨hother, fun id hid _ => hrows id hid, fun id hid => ?_⟩, ?_, ?_, ?_, ?_⟩
  · rw [attempts_next, hcounts id hid]
  · -- an event on the list is on hand or accounted for by now, any other as before
    intro id e he hreg
    rw [attempts_next]
    by_cases hid : id ∈ (runView tid y.log).listed
    · obtain ⟨e', he', htracked⟩ := hmem id hid
      obtain rfl : e' = e := Option.some.inj (he'.symm.trans he)
      exact (htracked hreg).imp_left fun hv' => ⟨tid, hself ▸ hv'⟩
    · rw [hcounts id hid]
      refine (hI.tracked id e ((hrows id hid).symm.trans he) hreg).imp_left fun ⟨t, ht⟩ => ?_
      have hne : t ≠ tid := by
        rintro rfl
        exact hid (hI.held _ id ht)
      exact ⟨t, (hother t hne) ▸ ht⟩
  · exact fun t t' hne id hid hid' => hI.apart t t' hne id (hsub t id hid) (hsub t' id hid')
  · intro t id hid
    by_cases ht : t = tid
    · subst ht
      rw [hself] at hid ⊢
      exact hheld id hid
    · rw [hother t ht] at hid ⊢
      exact hI.held t id hid
  · intro id hid
    -- an event that is not there is on no list
    have hnot : id ∉ (runView tid y.log).listed := by
      intro hmem'
      obtain ⟨e, he, -⟩ := hmem id hmem'
      have hnone : s.db.outbox.get? id = none := hid
      rw [he] at hnone
      cases hnone
    have habsent := hI.absent id ((hrows id hnot).symm.trans hid)
    rw [attempts_next, hcounts id hnot]
    exact ⟨habsent.1, fun t hid' => habsent.2 t (hsub t id hid')⟩

/-! ### One row -/

/-- The run has nothing on hand, and `rest` is still to come as it was selected. -/
structure AtHead (tid : ℕ) (rest : List (ℕ × OutboxEvent)) (x : LoggedWorld) : Prop where
  view : runView tid x.log = { listed := rest.map Prod.fst }
  nodup : (rest.map Prod.fst).Nodup
  rows : ∀ r ∈ rest, x.state.db.outbox.get? r.1 = some r.2 ∧ r.2.status = .pending

/-- The run has moved `id` to `PROCESSING`, and `rest` is still to come. -/
structure OnHand (before : ℕ → Attempts) (tid id : ℕ) (row : OutboxEvent) (a : Attempts)
    (returned : Option Bool) (rest : List (ℕ × OutboxEvent)) (x : LoggedWorld) : Prop where
  view : runView tid x.log =
    ⟨id :: rest.map Prod.fst, if row.registered then some id else none, returned⟩
  nodup : (id :: rest.map Prod.fst).Nodup
  row : x.state.db.outbox.get? id = some row
  attempts : attempts before x.log id = a
  rows : ∀ r ∈ rest, x.state.db.outbox.get? r.1 = some r.2 ∧ r.2.status = .pending

theorem stable_atHead {rest : List (ℕ × OutboxEvent)} :
    (outboxProtocol before).Stable tid (AtHead tid rest) := by
  intro x y hx h _
  refine ⟨h.view.trans hx.view, hx.nodup, fun r hr => ?_⟩
  rw [h.rows r.1 (by rw [hx.view]; exact List.mem_map_of_mem hr)]
  exact hx.rows r hr

theorem stable_onHand {id : ℕ} {row : OutboxEvent} {a : Attempts} {returned : Option Bool}
    {rest : List (ℕ × OutboxEvent)} :
    (outboxProtocol before).Stable tid (OnHand before tid id row a returned rest) := by
  intro x y hx h _
  have hid : id ∈ (runView tid x.log).listed := by
    rw [hx.view]
    exact List.mem_cons_self
  refine ⟨h.view.trans hx.view, hx.nodup, (h.rows id hid).trans hx.row,
    (h.attempts id hid).trans hx.attempts, fun r hr => ?_⟩
  rw [h.rows r.1 (by rw [hx.view]; exact List.mem_cons_of_mem _ (List.mem_map_of_mem hr))]
  exact hx.rows r hr

/-- What is on a list is in the outbox. -/
theorem OutboxInv.exists_row (hI : OutboxInv before y) {id t : ℕ}
    (hid : id ∈ (runView t y.log).listed) : ∃ e, y.state.db.outbox.get? id = some e := by
  cases h : y.state.db.outbox.get? id with
  | none => exact absurd hid ((hI.absent id h).2 t)
  | some e => exact ⟨e, rfl⟩

/-- What is on the list of a run that has nothing on hand is accounted for. -/
theorem OutboxInv.tracked_of_onHand_ne (hI : OutboxInv before y) (tid : ℕ) {id : ℕ}
    {e : OutboxEvent} (hid : id ∈ (runView tid y.log).listed) (hne : (runView tid y.log).onHand ≠ some id)
    (he : y.state.db.outbox.get? id = some e) (hreg : e.registered = true) :
    Tracked (attempts before y.log id) e := by
  refine (hI.tracked id e he hreg).resolve_left ?_
  rintro ⟨t, ht⟩
  by_cases htid : t = tid
  · exact hne (htid ▸ ht)
  · exact hI.apart tid t (Ne.symm htid) id hid (hI.held t id ht)

section Row

variable {id : ℕ} {e row : OutboxEvent} {a : Attempts} {returned : Option Bool}
  {rest : List (ℕ × OutboxEvent)}

/-- The world once the row of one event has been written. -/
def World.withOutboxRow (w : World) (id : ℕ) (f : OutboxEvent → OutboxEvent) : World :=
  { w with db := { w.db with outbox := w.db.outbox.modify id f } }

/-- A write of the first row on the list keeps the protocol if it leaves the row on hand or accounted
for, and it leaves the others on the list as they were. -/
theorem keeps_row {v : RunView} {f : OutboxEvent → OutboxEvent} (tid : ℕ)
    (hI : OutboxInv before y)
    (hlist : (runView tid y.log).listed = id :: rest.map Prod.fst)
    (hhand : ∀ j, (runView tid y.log).onHand = some j → j = id)
    (hnodup : (id :: rest.map Prod.fst).Nodup) (hrow : y.state.db.outbox.get? id = some row)
    (hrest : ∀ r ∈ rest, y.state.db.outbox.get? r.1 = some r.2 ∧ r.2.status = .pending)
    (hv : (runView tid y.log).see (.outboxWritten id (f row)) = v)
    (hlisted : ∀ j ∈ v.listed, j ∈ id :: rest.map Prod.fst)
    (hheld : ∀ j, v.onHand = some j → j ∈ v.listed)
    (hid : (f row).registered = true →
      v.onHand = some id ∨ Tracked (attempts before y.log id) (f row)) :
    let z := y.next tid [.outboxWritten id (f row)] (y.state.withOutboxRow id f)
    (OutboxGuar before tid y z ∧ OutboxInv before z) ∧
      z.state.db.outbox.get? id = some (f row) ∧
      ∀ r ∈ rest, z.state.db.outbox.get? r.1 = some r.2 ∧ r.2.status = .pending := by
  have hother : ∀ j, j ≠ id → (y.state.withOutboxRow id f).db.outbox.get? j =
      y.state.db.outbox.get? j := fun j hj => Table.get?_modify_ne _ _ hj
  have hself : (y.state.withOutboxRow id f).db.outbox.get? id = some (f row) := by
    show (y.state.db.outbox.modify id f).get? id = _
    rw [Table.get?_modify_self, hrow]
    rfl
  have hne : ∀ r ∈ rest, r.1 ≠ id := fun r hr h =>
    (List.nodup_cons.mp hnodup).1 (h ▸ List.mem_map_of_mem hr)
  refine ⟨keeps_listed tid _ hI hv (by rwa [hlist]) hheld (fun j hj => ?_) (fun _ _ => rfl) fun j hj => ?_,
    hself, fun r hr => ⟨(hother _ (hne r hr)).trans (hrest r hr).1, (hrest r hr).2⟩⟩
  · rw [hlist] at hj
    exact hother j fun h => hj (h ▸ List.mem_cons_self)
  · by_cases hj' : j = id
    · obtain rfl := hj'
      exact ⟨f row, hself, hid⟩
    · have hmem := hj
      rw [hlist] at hmem
      obtain ⟨r, hr, rfl⟩ := List.mem_map.mp (List.mem_of_ne_of_mem hj' hmem)
      -- another row of the list: nobody has it on hand, so it was accounted for
      refine ⟨r.2, (hother _ hj').trans (hrest r hr).1, fun hreg => Or.inr ?_⟩
      exact hI.tracked_of_onHand_ne tid hj (fun h => hj' (hhand _ h)) (hrest r hr).1 hreg

/-- The first write: the row is on hand, and its attempts are as its pending row counted them. -/
theorem safe_take (hx : AtHead tid ((id, e) :: rest) x) :
    (outboxProtocol before).Safe op tid
      (fun r z => match r with
        | .ok _ => ∃ a, (e.registered = true → a.succeeded = false ∧ a.failed = e.retryCount) ∧
            OnHand before tid id { e with status := .processing } a none rest z
        | .error _ => True)
      (writeOutboxStatus id fun _ e => { e with status := .processing }) x := by
  refine Protocol.Safe.bind (Protocol.Safe.perform stable_atHead hx fun y hy hI => ?_)
  refine keeps_transact (fun b d hb _ => ?_) fun i err _ _ => ?_
  · obtain ⟨row, hrow, rfl, rfl⟩ := Service.atomic_update hb
    obtain ⟨hget, hpending⟩ := hy.rows _ List.mem_cons_self
    obtain rfl : e = row := Option.some.inj (hget.symm.trans hrow)
    have hlist : (runView tid y.log).listed = id :: rest.map Prod.fst := by
      rw [hy.view]
      rfl
    have hhand : (runView tid y.log).onHand = none := by rw [hy.view]
    obtain ⟨hkeeps, hself, hrest⟩ := keeps_row tid hI hlist
      (f := fun e => { e with status := .processing })
      (v := ⟨id :: rest.map Prod.fst, if e.registered then some id else none, none⟩)
      (fun j hj => by rw [hhand] at hj; cases hj) hy.nodup hget
      (fun r hr => hy.rows r (List.mem_cons_of_mem _ hr)) (by rw [hy.view]; rfl) (fun _ h => h)
      (by
        intro j hj
        dsimp only at hj
        split_ifs at hj with hreg
        rw [← Option.some.inj hj]
        exact List.mem_cons_self)
      (fun hreg => Or.inl (if_pos hreg))
    refine ⟨hkeeps.1, hkeeps.2, attempts before y.log id, fun hreg => ?_, ?_, hy.nodup, hself,
      attempts_next _ _, hrest⟩
    · -- the row was pending and on nobody's hand
      obtain ⟨hlost, hcount⟩ := hI.tracked_of_onHand_ne tid
        (by rw [hlist]; exact List.mem_cons_self) (by rw [hhand]; simp) hget hreg
      refine ⟨?_, (hcount hpending).symm⟩
      by_contra hsucceeded
      rw [NotLost, if_pos (by simpa using hsucceeded), hpending] at hlost
      cases hlost
    · show runView tid (y.next tid _ _).log = _
      rw [runView_next_self, hy.view]
      rfl
  · have hsame : SameOutbox before y y := ⟨rfl, fun _ => rfl, fun _ => rfl⟩
    exact ⟨hsame.guar, hI, trivial⟩

/-- The last write: the row is accounted for, and the run goes on to the rest. -/
theorem safe_release {f : Ctx → OutboxEvent → OutboxEvent}
    (hf : ∀ ctx, (f ctx row).status ≠ .processing ∧
      ((f ctx row).registered = true → row.registered = true ∧ Tracked a (f ctx row)))
    (hx : OnHand before tid id row a returned rest x) :
    (outboxProtocol before).Safe op tid
      (fun r z => match r with
        | .ok _ => AtHead tid rest z
        | .error _ => returned ≠ some true)
      (writeOutboxStatus id f) x := by
  refine Protocol.Safe.bind (Protocol.Safe.perform stable_onHand hx fun y hy hI => ?_)
  refine keeps_transact (fun b d hb _ => ?_) fun i err hcond hi => ?_
  · obtain ⟨row', hrow, rfl, rfl⟩ := Service.atomic_update hb
    obtain rfl : row = row' := Option.some.inj (hy.row.symm.trans hrow)
    obtain ⟨hstatus, htracked⟩ := hf ⟨y.state.now, y.state.db.freshId⟩
    have hsee : (runView tid y.log).see (.outboxWritten id (f ⟨y.state.now, y.state.db.freshId⟩ row)) =
        { listed := rest.map Prod.fst } := by
      rw [hy.view, RunView.see, if_neg hstatus, List.erase_cons_head]
    obtain ⟨hkeeps, hself, hrest⟩ := keeps_row tid hI (by rw [hy.view])
      (fun j hj => by
        rw [hy.view] at hj
        dsimp only at hj
        split_ifs at hj
        exact (Option.some.inj hj).symm)
      hy.nodup hy.row hy.rows hsee (fun j hj => List.mem_cons_of_mem _ hj) (fun j hj => by cases hj)
      (fun hreg => Or.inr (hy.attempts ▸ (htracked hreg).2))
    refine ⟨hkeeps.1, hkeeps.2, ?_, (List.nodup_cons.mp hy.nodup).2, hrest⟩
    show runView tid (y.next tid _ _).log = _
    rw [runView_next_self]
    exact hsee
  · have hsame : SameOutbox before y y := ⟨rfl, fun _ => rfl, fun _ => rfl⟩
    refine ⟨hsame.guar, hI, fun hreturned => ?_⟩
    -- after a success the write is not refused, and the row is there
    have hok := hcond.written (by rw [hy.view]; exact hreturned)
    have herr := hi hok
    rw [Service.atomic_update_of_some (T := outbox) hy.row] at herr
    cases herr

/-! ### The handler -/

/-- What a handler does: it leaves the outbox alone, and says nothing of runs. -/
def outboxFrame : Frame where
  db := Db.outbox
  stripe _ := ()
  events := Quiet

theorem leaves_handlerWrite (paymentId : ℕ) (read : PaymentStatus) (f : Ctx → Payment → Payment) :
    (writePayment paymentId read f).Leaves outboxFrame := by
  refine (Program.issues_perform _).mpr ⟨fun ctx => (Program.issues_perform _).mpr ?_, ?_⟩
  · exact fun _ _ => rfl
  · intro payment event hevent
    rw [List.mem_singleton.mp hevent]
    exact ⟨fun _ => rfl, fun _ _ => rfl⟩

theorem leaves_markStatus_outbox (target : PaymentStatus) (f : Ctx → Payment → Payment)
    (paymentId : ℕ) : (markStatus target f paymentId).Leaves outboxFrame := by
  refine (leaves_sqlOrThrow (leaves_findUniqueOrThrow _)).bind fun payment => ?_
  exact (leaves_assertTransition _ _).bind fun _ => leaves_handlerWrite _ _ _

theorem leaves_handler {handler : Service Unit} (hh : outboxHandler e = some handler) :
    handler.Leaves outboxFrame := by
  unfold outboxHandler at hh
  split at hh
  · obtain rfl := Option.some.inj hh
    split
    · exact (leaves_markStatus_outbox _ _ _).bind fun _ => trivial
    · trivial
  · obtain rfl := Option.some.inj hh
    split
    · exact (leaves_markStatus_outbox _ _ _).bind fun _ => trivial
    · trivial
  · cases hh

/-- The handler leaves the row on hand. -/
theorem safe_handler {handler : Service Unit} (hh : handler.Leaves outboxFrame)
    (hx : OnHand before tid id row a returned rest x) :
    (outboxProtocol before).Safe op tid (fun _ => OnHand before tid id row a returned rest)
      handler x := by
  refine Protocol.Safe.issues stable_onHand (hh.mono fun c hc y hy hI => ?_) hx
  refine keeps_leaves hc fun i b es s houtbox _ hes _ => ?_
  have hsame : SameOutbox before y (y.next tid es s) := sameOutbox_next houtbox hes
  exact ⟨hsame.guar, hsame.inv hI, stable_onHand y _ hy hsame.rely (hsame.inv hI)⟩

/-- Recording how the handler has ended. -/
theorem safe_handlerEnded (hreg : row.registered = true) (b : Bool)
    (hx : OnHand before tid id row a returned rest x) :
    (outboxProtocol before).Safe op tid
      (fun r z => r = .ok () ∧ OnHand before tid id row (a.see id (.handlerEnded id b)) (some b) rest z)
      (Program.command (.note [.handlerEnded id b])) x := by
  refine Protocol.Safe.command stable_onHand hx fun y hy hI i _ es s hexec _ => ?_
  obtain ⟨rfl, rfl⟩ : [Event.handlerEnded id b] = es ∧ y.state = s := by
    simpa [servicePool, Call.exec] using hexec
  have hhand : (runView tid y.log).onHand = some id := by
    rw [hy.view]
    exact if_pos hreg
  have hlist : (runView tid y.log).listed = id :: rest.map Prod.fst := by rw [hy.view]
  have hmem : id ∈ (runView tid y.log).listed := by
    rw [hlist]
    exact List.mem_cons_self
  have hcounts : ∀ j, j ≠ id → (attempts before y.log j).see j (.handlerEnded id b) =
      attempts before y.log j := fun j hj => if_neg (Ne.symm hj)
  -- only the attempts on this event are recorded
  obtain ⟨hG, hI'⟩ := keeps_listed tid [.handlerEnded id b] (s := y.state) hI
    (v := { runView tid y.log with returned := some b }) rfl (fun _ h => h)
    (fun j hj => hI.held tid j hj) (fun _ _ => rfl)
    (fun j hj => hcounts j fun h => hj (h ▸ hmem))
    (by
      intro j hj
      by_cases hj' : j = id
      · obtain rfl := hj'
        exact ⟨row, hy.row, fun _ => Or.inl hhand⟩
      · have hmem' := hj
        rw [hlist] at hmem'
        obtain ⟨r, hr, rfl⟩ := List.mem_map.mp (List.mem_of_ne_of_mem hj' hmem')
        refine ⟨r.2, (hy.rows r hr).1, fun hreg' => Or.inr ?_⟩
        rw [List.foldl_cons, List.foldl_nil, hcounts _ hj']
        refine hI.tracked_of_onHand_ne tid hj (fun h => hj' ?_) (hy.rows r hr).1 hreg'
        exact (Option.some.inj (hhand.symm.trans h)).symm)
  refine ⟨hG, hI', rfl, ?_, hy.nodup, hy.row, ?_, hy.rows⟩
  · rw [runView_next_self, hy.view]
    rfl
  · rw [attempts_next, hy.attempts]
    rfl

/-- A handler, with what is recorded of its end. -/
theorem safe_runHandler {handler : Service Unit} (hh : handler.Leaves outboxFrame)
    (hreg : row.registered = true) (hx : OnHand before tid id row a none rest x) :
    (outboxProtocol before).Safe op tid
      (fun r z => match r with
        | .ok _ => OnHand before tid id row { a with succeeded := true } (some true) rest z
        | .error _ => OnHand before tid id row { a with failed := a.failed + 1 } (some false) rest z)
      (runHandler id handler) x := by
  have hsee : ∀ b, a.see id (.handlerEnded id b) =
      if b then { a with succeeded := true } else { a with failed := a.failed + 1 } :=
    fun _ => if_pos rfl
  refine Protocol.Safe.bind (Protocol.Safe.tryCatch ((safe_handler hh hx).mono ?_))
  rintro (err | _) y hy
  · refine Protocol.Safe.bind ((safe_handlerEnded hreg false hy).mono ?_)
    rintro r z ⟨rfl, hz⟩
    rwa [hsee] at hz
  · refine (safe_handlerEnded hreg true hy).mono ?_
    rintro r z ⟨rfl, hz⟩
    rwa [hsee] at hz

/-- What a run owes while it goes through its list: nothing, once it has thrown. -/
abbrev Goes (tid : ℕ) (rest : List (ℕ × OutboxEvent)) : Except Err Unit → LoggedWorld → Prop
  | .ok _, z => AtHead tid rest z
  | .error _, _ => True

/-- **One row**: whatever its handler does, the run goes on to the rest or stops. -/
theorem safe_processOutboxEvent (id : ℕ) (e : OutboxEvent) (hx : AtHead tid ((id, e) :: rest) x) :
    (outboxProtocol before).Safe op tid (Goes tid rest) (processOutboxEvent id e) x := by
  refine Protocol.Safe.bind ((safe_take hx).mono ?_)
  rintro (err | _) y hy
  · trivial
  obtain ⟨a, ha, hy⟩ := hy
  cases hh : outboxHandler e with
  | none =>
    -- the worker has no handler: what becomes of the row is not at issue
    refine (safe_release (fun ctx => ⟨by simp, fun hreg => ?_⟩) hy).mono ?_
    · have hnone : ({ e with status := .failed } : OutboxEvent).registered = false :=
        congrArg Option.isSome hh
      rw [hnone] at hreg
      cases hreg
    · rintro (err | _) z hz
      · trivial
      · exact hz
  | some handler =>
    have hreg : ({ e with status := .processing } : OutboxEvent).registered = true :=
      congrArg Option.isSome hh
    obtain ⟨hsucceeded, hfailed⟩ := ha hreg
    refine Protocol.Safe.tryCatch (Protocol.Safe.bind
      ((safe_runHandler (leaves_handler hh) hreg hy).mono ?_))
    rintro (err | _) z hz
    · -- the handler has thrown once more than the pending row counted
      have hretry : e.retryCount + 1 = a.failed + 1 := by rw [hfailed]
      have hnot : ({ a with failed := a.failed + 1 } : Attempts).succeeded = false := hsucceeded
      dsimp only
      split_ifs with hretries
      · refine (safe_release (fun ctx => ⟨by simp, fun _ => ⟨hreg, ?_, fun h => by cases h⟩⟩) hz).mono
          ?_
        · rw [NotLost, hnot]
          exact Or.inr ⟨rfl, hretry ▸ hretries⟩
        · rintro (err' | _) z' hz'
          · trivial
          · exact hz'
      · refine (safe_release (fun ctx => ⟨by simp, fun _ => ⟨hreg, ?_, fun _ => hretry⟩⟩) hz).mono ?_
        · rw [NotLost, hnot]
          exact Or.inl rfl
        · rintro (err' | _) z' hz'
          · trivial
          · exact hz'
    · refine (safe_release (f := fun _ e => { e with status := .processed })
        (fun ctx => ⟨by simp, fun _ => ⟨hreg, ?_, fun h => by cases h⟩⟩) hz).mono ?_
      · simp [NotLost]
      rintro (err' | _) z' hz'
      · exact absurd rfl hz'
      · exact hz'

end Row

/-! ### The runs -/

theorem safe_outboxLoop {events : List (ℕ × OutboxEvent)} (hx : AtHead tid events x) :
    (outboxProtocol before).Safe op tid (fun _ _ => True)
      (Program.forEach events fun event => processOutboxEvent event.1 event.2) x := by
  induction events generalizing x with
  | nil => trivial
  | cons event events ih =>
    refine Protocol.Safe.bind ((safe_processOutboxEvent event.1 event.2 hx).mono ?_)
    rintro (err | _) y hy
    · trivial
    · exact ih hy

/-- The run has not selected anything yet. -/
def Unstarted (tid : ℕ) (x : LoggedWorld) : Prop := runView tid x.log = {}

theorem stable_unstarted : (outboxProtocol before).Stable tid (Unstarted tid) :=
  fun _ _ hx h _ => h.view.trans hx

/-- The selection: no other run has any of the rows on its list, and nobody has them on hand. -/
theorem safe_selectOutboxEvents (batchSize : ℕ) (hx : Unstarted tid x) :
    (outboxProtocol before).Safe op tid
      (fun r z => match r with
        | .ok events => AtHead tid events z
        | .error _ => True)
      (Program.perform (.transact (selectOutboxEvents batchSize)
        fun events => [.outboxSelected (events.map Prod.fst)])) x := by
  refine Protocol.Safe.perform stable_unstarted hx fun y hy hI => ?_
  refine keeps_transact (fun events d hb hcond => ?_) fun i err _ _ => ?_
  · obtain ⟨hevents, rfl⟩ : ((y.state.db.outbox.filter fun _ e =>
        e.status == .pending && e.nextRetryAt.all (· ≤ y.state.now)).take batchSize) = events ∧
        y.state.db = d := Prod.mk.injEq .. ▸ Except.ok.inj hb
    have hrow : ∀ r ∈ events,
        y.state.db.outbox.get? r.1 = some r.2 ∧ r.2.status = .pending := by
      intro r hr
      rw [← hevents] at hr
      obtain ⟨hget, hsel⟩ := Table.mem_filter_iff.mp (List.mem_of_mem_take hr)
      simp only [Bool.and_eq_true, beq_iff_eq] at hsel
      exact ⟨hget, hsel.1⟩
    have hnodup : (events.map Prod.fst).Nodup := by
      rw [← hevents]
      exact (Table.nodup_filter _ _).sublist ((List.take_sublist _ _).map _)
    intro z
    have hself : runView tid z.log = { listed := events.map Prod.fst } := by
      show runView tid (y.next tid _ _).log = _
      rw [runView_next_self, hy]
      rfl
    have hother : ∀ t, t ≠ tid → runView t z.log = runView t y.log := fun t ht => runView_next_ne ht
    have hcounts : ∀ id, attempts before z.log id = attempts before y.log id := fun id =>
      attempts_next before id
    -- the condition on the step: what is selected is on no other list
    have hapart : ∀ id ∈ events.map Prod.fst, ∀ t, t ≠ tid → id ∉ (runView t y.log).listed :=
      hcond.apart _ List.mem_cons_self
    -- nothing is written: only the list of this run is new
    refine ⟨⟨hother, fun _ _ _ => rfl, fun id _ => hcounts id⟩, ?_, hself, hnodup, hrow⟩
    refine ⟨fun id e he hreg => ?_, fun t t' hne id hid hid' => ?_, fun t id hid => ?_,
      fun id hid => ⟨(hcounts id).trans (hI.absent id hid).1, fun t hid' => ?_⟩⟩
    · rw [hcounts]
      refine (hI.tracked id e he hreg).imp_left fun ⟨t, ht⟩ => ⟨t, ?_⟩
      have hne : t ≠ tid := by
        rintro rfl
        rw [hy] at ht
        cases ht
      rwa [hother t hne]
    · by_cases ht : t = tid
      · subst ht
        rw [hself] at hid
        rw [hother t' (Ne.symm hne)] at hid'
        exact hapart id hid t' (Ne.symm hne) hid'
      · rw [hother t ht] at hid
        by_cases ht' : t' = tid
        · subst ht'
          rw [hself] at hid'
          exact hapart id hid' t ht hid
        · rw [hother t' ht'] at hid'
          exact hI.apart t t' hne id hid hid'
    · by_cases ht : t = tid
      · subst ht
        rw [hself] at hid
        cases hid
      · rw [hother t ht] at hid ⊢
        exact hI.held t id hid
    · by_cases ht : t = tid
      · subst ht
        rw [hself] at hid'
        obtain ⟨r, hr, rfl⟩ := List.mem_map.mp hid'
        have hnone : y.state.db.outbox.get? r.1 = none := hid
        rw [(hrow r hr).1] at hnone
        cases hnone
      · rw [hother t ht] at hid'
        exact (hI.absent id hid).2 t hid'
  · have hsame : SameOutbox before y y := ⟨rfl, fun _ => rfl, fun _ => rfl⟩
    exact ⟨hsame.guar, hI, trivial⟩

/-- A run of the worker, however short it is cut. -/
theorem safe_processOutboxEvents (batchSize : ℕ) (hx : Unstarted tid x) :
    (outboxProtocol before).Safe op tid (fun _ _ => True) (processOutboxEvents batchSize) x := by
  refine Protocol.Safe.bind ((safe_selectOutboxEvents batchSize hx).mono ?_)
  rintro (err | events) y hy
  · trivial
  · exact safe_outboxLoop hy

/-- The end of a run: it has nothing on hand, so that what is still on its list is accounted for. -/
theorem safe_outboxRunEnded :
    (outboxProtocol before).Safe op tid (fun _ => (outboxProtocol before).Post op tid)
      (Program.command (.note [.outboxRunEnded])) x := by
  refine Protocol.Safe.command (A := fun _ => True) (fun _ _ _ _ _ => trivial) trivial
    fun y _ hI i _ es s hexec hcond => ?_
  obtain ⟨rfl, rfl⟩ : [Event.outboxRunEnded] = es ∧ y.state = s := by
    simpa [servicePool, Call.exec] using hexec
  have hhand := hcond.finished List.mem_cons_self
  -- with nothing on hand all that is listed is accounted for
  have hmem : ∀ id ∈ (runView tid y.log).listed, ∃ e, y.state.db.outbox.get? id = some e ∧
      (e.registered = true → (runView tid y.log).onHand = some id ∨
        Tracked (attempts before y.log id) e) := by
    intro id hid
    obtain ⟨e, he⟩ := hI.exists_row hid
    refine ⟨e, he, fun hreg => Or.inr ?_⟩
    exact hI.tracked_of_onHand_ne tid hid (by rw [hhand]; simp) he hreg
  obtain ⟨hG, hI'⟩ := keeps_listed tid [.outboxRunEnded] (s := y.state) hI
    (v := { runView tid y.log with listed := [] }) rfl (fun id hid => absurd hid List.not_mem_nil)
    (fun id hid => by
      rw [hhand] at hid
      cases hid)
    (fun _ _ => rfl) (fun _ _ => rfl) hmem
  refine ⟨hG, hI', ?_⟩
  show (runView tid (y.next tid _ _).log).onHand = none
  rw [runView_next_self]
  exact hhand

/-- A writer of an event adds a pending row that has not been tried. -/
theorem safe_writeOutboxEvent (eventType : OutboxEventType) (paymentId : Option ℕ)
    (hx : Unstarted tid x) :
    (outboxProtocol before).Safe op tid (fun _ => (outboxProtocol before).Post op tid)
      (writeOutboxEvent eventType paymentId) x := by
  refine Protocol.Safe.perform stable_unstarted hx fun y hy hI => ?_
  refine keeps_transact (fun b d hb _ => ?_) fun i err _ _ => ?_
  · obtain ⟨-, rfl⟩ : () = b ∧ { y.state.db with
        outbox := y.state.db.outbox.insert y.state.db.freshId { eventType, paymentId } } = d :=
      Prod.mk.injEq .. ▸ Except.ok.inj hb
    intro z
    have hfresh : y.state.db.outbox.get? y.state.db.freshId = none :=
      Table.get?_of_nextKey_le (Db.le_freshId (by simp [Db.idBounds]))
    have hget : ∀ id, z.state.db.outbox.get? id =
        if id = y.state.db.freshId then some { eventType, paymentId }
        else y.state.db.outbox.get? id := Table.get?_insert hfresh _
    have hview : ∀ t, runView t z.log = runView t y.log := by
      intro t
      by_cases ht : t = tid
      · subst ht
        exact runView_next_self
      · exact runView_next_ne ht
    have hcounts : ∀ id, attempts before z.log id = attempts before y.log id := fun id =>
      attempts_next before id
    refine ⟨⟨fun t _ => hview t, fun id _ hid => ?_, fun id _ => hcounts id⟩,
      ⟨fun id e he hreg => ?_, fun t t' hne => ?_, fun t id => ?_, fun id hid => ?_⟩, ?_⟩
    · rw [hget, if_neg]
      rintro rfl
      rw [hfresh] at hid
      cases hid
    · simp only [hview, hcounts]
      rw [hget] at he
      split_ifs at he with hid
      · -- the new row: nobody has tried it
        obtain rfl := Option.some.inj he
        rw [hid, (hI.absent _ hfresh).1]
        exact Or.inr ⟨Or.inl rfl, fun _ => rfl⟩
      · exact hI.tracked id e he hreg
    · rw [hview, hview]
      exact hI.apart t t' hne
    · rw [hview]
      exact hI.held t id
    · rw [hget] at hid
      split_ifs at hid
      simp only [hview, hcounts]
      exact hI.absent id hid
    · show (runView tid z.log).onHand = none
      rw [hview, hy]
  · have hsame : SameOutbox before y y := ⟨rfl, fun _ => rfl, fun _ => rfl⟩
    refine ⟨hsame.guar, hI, ?_⟩
    show (runView tid y.log).onHand = none
    rw [hy]

theorem safeOperations_outbox : (outboxProtocol before).SafeOperations := by
  intro op tid x _ hlog
  have hx : Unstarted tid x := runView_of_notMem hlog
  cases op with
  | write eventType paymentId => exact safe_writeOutboxEvent eventType paymentId hx
  | run batchSize crashAfter =>
    refine Protocol.Safe.bind (Protocol.Safe.mono (Q := fun r _ => r = .ok ()) ?_ ?_)
    · refine Protocol.Safe.tryCatch (Protocol.Safe.mono (Q := fun _ _ => True) ?_ ?_)
      · cases crashAfter with
        | none => exact safe_processOutboxEvents batchSize hx
        | some n => exact (safe_processOutboxEvents batchSize hx).cut
      · rintro (err | _) y -
        · exact rfl
        · exact rfl
    · rintro r y rfl
      exact safe_outboxRunEnded

end Safe

/-! ## A later run -/

section Recovery

variable {w₀ w : World} {paymentId bookingId : ℕ}

/-- In `PAID`, or already moved on by the worker. -/
def PaidOrHeld (s : PaymentStatus) : Prop := s = .paid ∨ s.Held

/-- The handler of `payment.paid` leaves no payment in `PAID`. -/
theorem held_after_markHeldInEscrow (h : StillAmong PaidOrHeld w₀ paymentId bookingId w) :
    StillAmong PaymentStatus.Held w₀ paymentId bookingId
      ((markHeldInEscrow paymentId).eval w).2 := by
  obtain ⟨p, hp, hbooking, hstatus⟩ := h.payment
  show StillAmong _ _ _ _ ((markStatus .heldInEscrow (fun _ p => p) paymentId).eval w).2
  rw [markStatus_eval hp]
  split_ifs with hmem
  · refine ⟨h.bookings, h.disputes, h.now, h.outbox, ?_⟩
    rw [withPayment_payments, Table.get?_modify_self, hp]
    exact ⟨_, rfl, hbooking, Or.inl rfl⟩
  · refine ⟨h.bookings, h.disputes, h.now, h.outbox, p, hp, hbooking, hstatus.resolve_left ?_⟩
    intro hpaid
    rw [hpaid] at hmem
    exact hmem (by decide)

/-- Processing an event of the payment leaves it held. -/
theorem processOutboxEvent_holds {id : ℕ} {e : OutboxEvent}
    (h : StillAmong PaidOrHeld w₀ paymentId bookingId w)
    (hid : (w₀.db.outbox.get? id).isSome = true) (htype : e.eventType = .paymentPaid)
    (hpayment : e.paymentId = some paymentId) :
    ∃ w', (processOutboxEvent id e).eval w = (.ok (), w') ∧
      StillAmong PaymentStatus.Held w₀ paymentId bookingId w' := by
  have hhandler : outboxHandler e =
      some (Program.bind (markHeldInEscrow paymentId) fun _ => .ret ()) := by
    unfold outboxHandler
    rw [htype, hpayment]
    rfl
  refine processOutboxEvent_leads h hid (fun hnone => ?_) fun handler w hh hw => ?_
  · rw [hhandler] at hnone
    cases hnone
  · obtain rfl := Option.some.inj (hhandler.symm.trans hh)
    rw [Service.eval_bind_ret_snd]
    exact held_after_markHeldInEscrow hw

/-- A loop that comes across an event of the payment. -/
theorem outboxLoop_holds {events : List (ℕ × OutboxEvent)} {id : ℕ} {e : OutboxEvent}
    (hids : ∀ e ∈ events, (w₀.db.outbox.get? e.1).isSome = true)
    (h : StillAmong PaidOrHeld w₀ paymentId bookingId w) (hmem : (id, e) ∈ events)
    (htype : e.eventType = .paymentPaid) (hpayment : e.paymentId = some paymentId) :
    ∃ w', Service.eval (Program.forEach events fun e => processOutboxEvent e.1 e.2) w =
      (.ok (), w') ∧ StillAmong PaymentStatus.Held w₀ paymentId bookingId w' := by
  induction events generalizing w with
  | nil => cases hmem
  | cons event events ih =>
    have hrest : ∀ e ∈ events, (w₀.db.outbox.get? e.1).isSome = true := fun e' he' =>
      hids e' (List.mem_cons_of_mem _ he')
    rcases List.mem_cons.mp hmem with rfl | hmem
    · obtain ⟨w₁, heval, hw₁⟩ := processOutboxEvent_holds h (hids _ List.mem_cons_self) htype hpayment
      obtain ⟨w₂, heval₂, hw₂⟩ := outboxLoop_eval (fun _ hs => hs) hrest hw₁
      exact ⟨w₂, (Service.eval_bind_ok heval).trans heval₂, hw₂⟩
    · obtain ⟨w₁, heval, hw₁⟩ := processOutboxEvent_eval (fun _ hs => Or.inr hs) h
        (hids event List.mem_cons_self) event.2
      obtain ⟨w₂, heval₂, hw₂⟩ := ih hrest hw₁ hmem
      exact ⟨w₂, (Service.eval_bind_ok heval).trans heval₂, hw₂⟩

/-! ### Runs that do not come to the event yet -/

/-- How many more times the worker can take up an event. -/
def OutboxEvent.attemptsLeft (e : OutboxEvent) : ℕ :=
  if e.status = .pending then maxRetries - e.retryCount + 1 else 0

/-- How many more times it can take up any. -/
def attemptsLeft (outbox : Table OutboxEvent) : ℕ :=
  (outbox.rows.map fun row => row.2.attemptsLeft).sum

theorem attemptsLeft_modify {t : Table OutboxEvent} {id : ℕ} {e : OutboxEvent}
    {f : OutboxEvent → OutboxEvent} (he : t.get? id = some e)
    (hless : (f e).attemptsLeft < e.attemptsLeft) : attemptsLeft (t.modify id f) < attemptsLeft t := by
  have hrow : ∀ row ∈ t.rows, row.1 = id → row.2 = e := by
    intro row hrow hid
    have hget := Table.mem_rows_iff.mp hrow
    rw [hid, he] at hget
    exact (Option.some.inj hget).symm
  unfold attemptsLeft Table.modify
  rw [List.map_map]
  refine List.sum_lt_sum _ _ (fun row hmem => ?_) ⟨(id, e), Table.mem_rows_iff.mpr he, ?_⟩
  · dsimp only [Function.comp_apply]
    split_ifs with hid
    · rw [hrow row hmem hid]
      exact hless.le
    · exact le_rfl
  · dsimp only [Function.comp_apply]
    rw [if_pos rfl]
    exact hless

theorem markStatus_outbox (target : PaymentStatus) (f : Ctx → Payment → Payment) (id : ℕ) (w : World) :
    ((markStatus target f id).eval w).2.db.outbox = w.db.outbox := by
  cases hid : w.db.payments.get? id with
  | none =>
    have heval : (markStatus target f id).eval w = (.error .notFound, w) :=
      Service.eval_bind_error (findUniqueOrThrow_payment_eval_none hid)
    rw [heval]
  | some row =>
    rw [markStatus_eval hid]
    split_ifs
    · rfl
    · rfl

/-- No handler touches the outbox. -/
theorem handler_outbox {event : OutboxEvent} {handler : Service Unit}
    (hh : outboxHandler event = some handler) (w : World) :
    (handler.eval w).2.db.outbox = w.db.outbox := by
  unfold outboxHandler at hh
  split at hh
  · obtain rfl := Option.some.inj hh
    split
    · show (Service.eval (Program.bind _ fun _ => .ret ()) w).2.db.outbox = _
      rw [Service.eval_bind_ret_snd]
      exact markStatus_outbox _ _ _ _
    · rfl
  · obtain rfl := Option.some.inj hh
    split
    · show (Service.eval (Program.bind _ fun _ => .ret ()) w).2.db.outbox = _
      rw [Service.eval_bind_ret_snd]
      exact markStatus_outbox _ _ _ _
    · rfl
  · cases hh

/-- What the worker writes of an event: its own row, which is pending again only after one more failure
that was not the last. -/
theorem outbox_processOutboxEvent {id : ℕ} (hid : (w.db.outbox.get? id).isSome = true)
    (event : OutboxEvent) :
    ∃ f, ((processOutboxEvent id event).eval w).2.db.outbox = w.db.outbox.modify id f ∧
      ∀ row, (f row).status = .pending →
        (f row).retryCount = event.retryCount + 1 ∧ event.retryCount + 1 < maxRetries := by
  unfold processOutboxEvent
  simp only [Program.bind_eq]
  rw [Service.eval_bind_ok (writeOutboxStatus_eval hid _)]
  set w₁ : World := { w with db := { w.db with
    outbox := w.db.outbox.modify id fun e => { e with status := .processing } } } with hw₁
  -- the row is there to be written again
  have hagain : ∀ w₂ : World, w₂.db.outbox = w₁.db.outbox → (w₂.db.outbox.get? id).isSome = true := by
    intro w₂ hw₂
    rw [hw₂, hw₁, Table.get?_modify_self, Option.isSome_map]
    exact hid
  -- whatever writes it last
  have hwritten : ∀ (w₂ : World) (g : Ctx → OutboxEvent → OutboxEvent), w₂.db.outbox = w₁.db.outbox →
      ((writeOutboxStatus id g).eval w₂).2.db.outbox = w.db.outbox.modify id
        (g ⟨w₂.now, w₂.db.freshId⟩ ∘ fun e => { e with status := .processing }) := by
    intro w₂ g hw₂
    rw [writeOutboxStatus_eval (hagain w₂ hw₂)]
    show w₂.db.outbox.modify id _ = _
    rw [hw₂, hw₁, Table.modify_modify]
  cases hh : outboxHandler event with
  | none => exact ⟨_, hwritten w₁ _ rfl, fun row h => nomatch h⟩
  | some handler =>
    dsimp only
    have hleft := handler_outbox hh w₁
    cases hr : handler.eval w₁ with
    | mk r w₂ =>
      have hrun : (runHandler id handler).eval w₁ = (r, w₂) := (runHandler_eval _ _ _).trans hr
      rw [hr] at hleft
      cases r with
      | ok a =>
        have hwrite := writeOutboxStatus_eval (hagain w₂ hleft)
          (fun _ e => { e with status := .processed })
        have hlast := hwritten w₂ (fun _ e => { e with status := .processed }) hleft
        refine ⟨_, Eq.trans ?_ hlast, fun row h => nomatch h⟩
        refine congrArg (fun out : Except Err Unit × World => out.2.db.outbox) ?_
        exact (Program.eval_tryCatch_ok ((Service.eval_bind_ok hrun).trans hwrite)).trans hwrite.symm
      | error e =>
        have hthrow : Service.eval ((runHandler id handler).bind fun _ => writeOutboxStatus id
            fun _ e => { e with status := .processed }) w₁ = (.error e, w₂) :=
          Service.eval_bind_error hrun
        unfold Service.eval
        rw [Program.eval_tryCatch_error hthrow]
        split_ifs with hretries
        · exact ⟨_, hwritten w₂ _ hleft, fun row h => nomatch h⟩
        · exact ⟨_, hwritten w₂ _ hleft, fun row _ => ⟨rfl, not_le.mp hretries⟩⟩

/-- Taking up a pending event uses one of its attempts. -/
theorem attemptsLeft_processOutboxEvent {id : ℕ} {event : OutboxEvent}
    (he : w.db.outbox.get? id = some event) (hpending : event.status = .pending) :
    attemptsLeft ((processOutboxEvent id event).eval w).2.db.outbox < attemptsLeft w.db.outbox ∧
      ∀ other, other ≠ id →
        ((processOutboxEvent id event).eval w).2.db.outbox.get? other = w.db.outbox.get? other := by
  obtain ⟨f, hwritten, hf⟩ := outbox_processOutboxEvent (by rw [he]; rfl) event
  rw [hwritten]
  refine ⟨attemptsLeft_modify he ?_, fun other hother => Table.get?_modify_ne _ _ hother⟩
  unfold OutboxEvent.attemptsLeft
  rw [if_pos hpending]
  split_ifs with hagain
  · obtain ⟨hcount, hlt⟩ := hf event hagain
    omega
  · omega

/-- A loop over pending events that are as they were selected. -/
theorem attemptsLeft_outboxLoop {events : List (ℕ × OutboxEvent)}
    (hnodup : (events.map Prod.fst).Nodup)
    (hevents : ∀ event ∈ events, w.db.outbox.get? event.1 = some event.2 ∧ event.2.status = .pending)
    (h : StillAmong PaidOrHeld w₀ paymentId bookingId w)
    (hids : ∀ event ∈ events, (w₀.db.outbox.get? event.1).isSome = true) :
    attemptsLeft (Service.eval (Program.forEach events fun e => processOutboxEvent e.1 e.2) w).2.db.outbox
        + events.length ≤ attemptsLeft w.db.outbox ∧
      ∀ other ∉ events.map Prod.fst,
        (Service.eval (Program.forEach events fun e => processOutboxEvent e.1 e.2) w).2.db.outbox.get?
          other = w.db.outbox.get? other := by
  induction events generalizing w with
  | nil => exact ⟨le_rfl, fun _ _ => rfl⟩
  | cons event events ih =>
    obtain ⟨hnew, hnodup⟩ := List.nodup_cons.mp hnodup
    obtain ⟨hevent, hrest⟩ := List.forall_mem_cons.mp hevents
    obtain ⟨hid, hids⟩ := List.forall_mem_cons.mp hids
    obtain ⟨hless, hothers⟩ := attemptsLeft_processOutboxEvent hevent.1 hevent.2
    obtain ⟨w₁, heval, hw₁⟩ := processOutboxEvent_eval (fun _ hs => Or.inr hs) h hid event.2
    rw [heval] at hless hothers
    dsimp only at hless hothers
    -- an event is taken up once, so the others are as they were selected
    have hkept : ∀ e ∈ events, w₁.db.outbox.get? e.1 = some e.2 ∧ e.2.status = .pending := by
      intro e he
      have hne : e.1 ≠ event.1 := by
        rintro heq
        exact hnew (heq ▸ List.mem_map_of_mem he)
      exact ⟨(hothers e.1 hne).trans (hrest e he).1, (hrest e he).2⟩
    obtain ⟨hsum, hsame⟩ := ih hnodup hkept hw₁ hids
    have hloop : Service.eval (Program.forEach (event :: events) fun e => processOutboxEvent e.1 e.2) w =
        Service.eval (Program.forEach events fun e => processOutboxEvent e.1 e.2) w₁ :=
      Service.eval_bind_ok heval
    rw [hloop]
    constructor
    · rw [List.length_cons]
      omega
    · intro other hother
      rw [List.map_cons, List.mem_cons, not_or] at hother
      exact (hsame other hother.2).trans (hothers other hother.1)

/-- **One more run**, at a time at which the event of a payment is due: the payment is held afterwards, or
the event waits as before and other events have used up attempts. -/
theorem processOutboxEvents_progress {id : ℕ} {e : OutboxEvent} {payment : Payment} {batchSize : ℕ}
    (hbatch : 0 < batchSize) (he : w.db.outbox.get? id = some e) (hpending : e.status = .pending)
    (hdue : e.nextRetryAt.all (· ≤ w.now) = true) (htype : e.eventType = .paymentPaid)
    (hnamed : e.paymentId = some paymentId) (hp : w.db.payments.get? paymentId = some payment)
    (hstatus : PaidOrHeld payment.status) :
    ∃ w' p, (processOutboxEvents batchSize).eval w = (.ok (), w') ∧
      w'.db.payments.get? paymentId = some p ∧
      (p.status.Held ∨ PaidOrHeld p.status ∧ w'.db.outbox.get? id = some e ∧
        attemptsLeft w'.db.outbox < attemptsLeft w.db.outbox) := by
  have h : StillAmong PaidOrHeld w paymentId payment.bookingId w :=
    ⟨rfl, rfl, rfl, fun _ => rfl, payment, hp, rfl, hstatus⟩
  set due := w.db.outbox.filter fun _ e =>
    e.status == .pending && e.nextRetryAt.all (· ≤ w.now) with hselect
  have hselected : (id, e) ∈ due := by
    refine Table.mem_filter_iff.mpr ⟨he, ?_⟩
    rw [hpending, hdue]
    rfl
  have hids := h.selected batchSize
  rw [← hselect] at hids
  by_cases hmem : (id, e) ∈ due.take batchSize
  · obtain ⟨w', heval, hw'⟩ := outboxLoop_holds hids h hmem htype hnamed
    obtain ⟨p, hp', -, hheld⟩ := hw'.payment
    exact ⟨w', p, heval, hp', .inl hheld⟩
  · -- the batch is full of other events
    have hfull : (due.take batchSize).length = batchSize := by
      rw [List.length_take]
      refine min_eq_left (le_of_not_ge fun hle => hmem ?_)
      rw [List.take_of_length_le hle]
      exact hselected
    have hnodup : (due.map Prod.fst).Nodup := Table.nodup_filter _ _
    have hevents : ∀ event ∈ due.take batchSize,
        w.db.outbox.get? event.1 = some event.2 ∧ event.2.status = .pending := by
      intro event hevent
      obtain ⟨hget, hcond⟩ := Table.mem_filter_iff.mp (List.mem_of_mem_take hevent)
      exact ⟨hget, beq_iff_eq.mp (Bool.and_eq_true_iff.mp hcond).1⟩
    have hother : id ∉ (due.take batchSize).map Prod.fst := by
      intro hin
      obtain ⟨event, hevent, rfl⟩ := List.mem_map.mp hin
      have hsame : event.2 = e := Option.some.inj ((hevents event hevent).1.symm.trans he)
      exact hmem (hsame ▸ hevent)
    obtain ⟨hsum, hkept⟩ := attemptsLeft_outboxLoop
      (hnodup.sublist ((List.take_sublist _ _).map _)) hevents h hids
    obtain ⟨w', heval, hw'⟩ := outboxLoop_eval (fun _ hs => Or.inr hs) hids h
    rw [heval] at hsum hkept
    obtain ⟨p, hp', -, hheld⟩ := hw'.payment
    refine ⟨w', p, heval, hp', .inr ⟨hheld, (hkept id hother).trans he, ?_⟩⟩
    dsimp only at hsum
    omega

/-- **A later run** moves a payment that has been left in `PAID` to escrow, where its event is pending
and due. -/
theorem laterRuns_hold {id : ℕ} {e : OutboxEvent} {payment : Payment} {batchSize : ℕ} {clock : ℕ → ℕ}
    (hbatch : 0 < batchSize) (he : w.db.outbox.get? id = some e) (hpending : e.status = .pending)
    (hdue : ∀ n, e.nextRetryAt.all (· ≤ clock n) = true) (htype : e.eventType = .paymentPaid)
    (hnamed : e.paymentId = some paymentId) (hp : w.db.payments.get? paymentId = some payment)
    (hpaid : payment.status = .paid) :
    ∃ n p, (laterRuns batchSize clock w n).db.payments.get? paymentId = some p ∧ p.status.Held := by
  -- as long as the payment is not held its event waits, and every run uses up an attempt of another
  have hwaits : ∀ n, (∃ m p, (laterRuns batchSize clock w m).db.payments.get? paymentId = some p ∧
        p.status.Held) ∨
      ∃ p, (laterRuns batchSize clock w n).db.payments.get? paymentId = some p ∧ PaidOrHeld p.status ∧
        (laterRuns batchSize clock w n).db.outbox.get? id = some e ∧
        attemptsLeft (laterRuns batchSize clock w n).db.outbox + n ≤ attemptsLeft w.db.outbox := by
    intro n
    induction n with
    | zero => exact .inr ⟨payment, hp, .inl hpaid, he, le_rfl⟩
    | succ n ih =>
      rcases ih with hheld | ⟨p, hp', hstatus, he', hsum⟩
      · exact .inl hheld
      · obtain ⟨w', p', heval, hget, hnext⟩ := @processOutboxEvents_progress
          { laterRuns batchSize clock w n with now := clock n } paymentId id e p batchSize hbatch he'
          hpending (hdue n) htype hnamed hp' hstatus
        have hrun : laterRuns batchSize clock w (n + 1) = w' := congrArg Prod.snd heval
        rcases hnext with hheld | ⟨hstatus', hwait, hless⟩
        · exact .inl ⟨n + 1, p', by rw [hrun]; exact hget, hheld⟩
        · refine .inr ⟨p', by rw [hrun]; exact hget, hstatus', by rw [hrun]; exact hwait, ?_⟩
          rw [hrun]
          dsimp only at hless
          omega
  rcases hwaits (attemptsLeft w.db.outbox + 1) with hheld | ⟨p, -, -, -, hsum⟩
  · exact hheld
  · omega

end Recovery

/-! ## Whenever no run is in progress -/

section Idle

variable {before : ℕ → Attempts}

/-- The outbox before any run has been started. -/
def startOutbox (w : World) : Pool Call Err Event World OutboxOp := { now := { state := w } }

/-- When no run is in progress nothing is on hand, so that everything is accounted for. -/
theorem OutboxInv.nothingLost {x : LoggedWorld} (hI : OutboxInv before x)
    (hidle : ∀ t, (runView t x.log).onHand = none) : NothingLost before x := by
  have htracked : ∀ id e, x.state.db.outbox.get? id = some e → e.registered = true →
      Tracked (attempts before x.log id) e := by
    intro id e he hreg
    refine (hI.tracked id e he hreg).resolve_left ?_
    rintro ⟨t, ht⟩
    rw [hidle t] at ht
    cases ht
  refine ⟨fun id e he hreg => (htracked id e he hreg).1, ?_⟩
  intro id e paymentId payment he htype hnamed hp hpaid hsucceeded hfailed batchSize clock hbatch hdue
  have hreg : e.registered = true := by
    unfold OutboxEvent.registered outboxHandler
    rw [htype]
    rfl
  have hlost := (htracked id e he hreg).1
  rw [NotLost, hsucceeded, if_neg Bool.false_ne_true] at hlost
  have hpending := hlost.resolve_right fun h => absurd h.2 (not_le.mpr hfailed)
  exact laterRuns_hold hbatch he hpending hdue htype hnamed hp hpaid

/-- **The payment outbox loses no event**: in every history of overlapping runs, cut short anywhere,
in which no run selects a row that another one in progress still has on its list, no write after a
handler that has returned fails, and no run ends between moving a row to `PROCESSING` and writing
what has come of it, every event is accounted for whenever no run is in progress. -/
theorem outbox_loses_no_event (before : ℕ → Attempts) (w : World) (hstart : OutboxStart before w)
    (moves : List (Move OutboxOp Reply World))
    (hmoves : History.Each (Pool.step outboxPool)
      (Pool.Meets outboxPool OutboxStep fun _ _ => True) (startOutbox w) moves) :
    History.Always (Pool.step outboxPool) (fun p => p.Idle → NothingLost before p.now)
      (startOutbox w) moves := by
  have hinv : OutboxInv before (startOutbox w).now := by
    refine ⟨fun id e he hreg => Or.inr (hstart.tracked id e he hreg), fun t t' _ id hid => ?_,
      fun t id hid => ?_, fun id hid => ⟨hstart.absent id hid, fun t hmem => ?_⟩⟩
    · cases hid
    · cases hid
    · cases hmem
  have hholds := Protocol.holds_of_inv (P := outboxProtocol before) (p := startOutbox w) hinv rfl rfl
  refine (Protocol.sound safeOperations_outbox hholds hmoves).imp fun p hp hidle => ?_
  refine OutboxInv.nothingLost hp.inv fun t => ?_
  cases ht : p.threads[t]? with
  | some thread =>
    obtain ⟨op, rest⟩ := thread
    exact hp.post ht (hidle _ (List.mem_of_getElem? ht))
  | none =>
    -- no such run: the log does not name it
    rw [runView_of_notMem]
    intro entry hentry heq
    have hlt := hp.logLt entry hentry
    rw [heq] at hlt
    exact absurd hlt (not_lt.mpr (List.getElem?_eq_none_iff.mp ht))

/-- A payment that has been paid. -/
private def paidPayment : Payment where
  toPaymentSplit := samplePayment.toPaymentSplit
  bookingId := 7
  rideId := 1
  riderId := 2
  status := .paid

/-- The payment, and its event. -/
private def paidWorld : World where
  db := {
    payments := ⟨[(3, paidPayment)], by simp⟩
    outbox := ⟨[(5, { eventType := .paymentPaid, paymentId := some 3 })], by simp⟩ }

private theorem outboxStart_paidWorld : OutboxStart (fun _ => {}) paidWorld where
  tracked id e he _ := by
    have hrow : (if id = 5 then some { eventType := .paymentPaid, paymentId := some 3 } else none) =
        some e := (Table.get?_singleton 5 _ _ id).symm.trans he
    split_ifs at hrow
    obtain rfl := Option.some.inj hrow
    exact ⟨Or.inl rfl, fun _ => rfl⟩
  absent _ _ := rfl

/-- One run that meets no failure. -/
private def oneRun : List (Move OutboxOp Reply World) :=
  [.start (.run 10 none), .step 0 .ok, .step 0 .ok, .step 0 .ok, .step 0 .ok, .step 0 .ok,
    .step 0 .ok, .step 0 .ok]

/-- A run that meets no failure ends with its event processed. -/
theorem one_run_loses_nothing :
    History.Always (Pool.step outboxPool) (fun p => p.Idle → NothingLost (fun _ => {}) p.now)
      (startOutbox paidWorld) oneRun := by
  refine outbox_loses_no_event _ paidWorld outboxStart_paidWorld oneRun
    ⟨trivial, ?_, ?_, ?_, ?_, ?_, ?_, ?_, trivial⟩
  · -- the selection, while nobody else has a list
    rintro op rest ⟨⟩ b es s ⟨⟩
    exact ⟨fun _ _ _ _ _ _ h => (nomatch h), fun _ => rfl, fun h => (nomatch h)⟩
  · rintro op rest ⟨⟩ b es s ⟨⟩
    exact ⟨fun _ h => (nomatch h), fun _ => rfl, fun h => (nomatch h)⟩
  · rintro op rest ⟨⟩ b es s ⟨⟩
    exact ⟨fun _ h => (nomatch h), fun _ => rfl, fun h => (nomatch h)⟩
  · rintro op rest ⟨⟩ b es s ⟨⟩
    exact ⟨fun _ h => (nomatch h), fun _ => rfl, fun h => (nomatch h)⟩
  · rintro op rest ⟨⟩ b es s ⟨⟩
    exact ⟨fun _ h => (nomatch h), fun _ => rfl, fun h => (nomatch h)⟩
  · rintro op rest ⟨⟩ b es s ⟨⟩
    exact ⟨fun _ h => (nomatch h), fun _ => rfl, fun h => (nomatch h)⟩
  · -- the end, with nothing on hand
    rintro op rest ⟨⟩ b es s ⟨⟩
    exact ⟨fun _ h => (nomatch h), fun _ => rfl, fun _ => rfl⟩

/-- The process stops once it has moved the row to `PROCESSING`. -/
private def crashOnHand : List (Move OutboxOp Reply World) :=
  [.start (.run 10 (some 2)), .step 0 .ok, .step 0 .ok, .step 0 .ok]

/-- Two runs select the row before either has moved it to `PROCESSING`. -/
private def overlappingRuns : List (Move OutboxOp Reply World) :=
  [.start (.run 10 none), .start (.run 10 none), .step 0 .ok, .step 1 .ok,
    .step 0 .ok, .step 0 .ok, .step 0 .ok, .step 0 .ok, .step 0 .ok, .step 0 .ok,
    .step 1 .ok, .step 1 .ok, .step 1 .ok, .step 1 .ok, .step 1 .ok]

/-- The handler of the row returns, and the write of `PROCESSED` is refused. -/
private def refusedOutcome : List (Move OutboxOp Reply World) :=
  [.start (.run 10 none), .step 0 .ok, .step 0 .ok, .step 0 .ok, .step 0 .ok, .step 0 .ok,
    .step 0 .refused, .step 0 .ok, .step 0 .ok]

/-- A row is left in `PROCESSING` by a crash, and becomes pending again although its handler has
returned: where two runs have selected it, and where the write of `PROCESSED` is refused. -/
theorem outbox_events_lost :
    ¬ History.Always (Pool.step outboxPool) (fun p => p.Idle → NothingLost (fun _ => {}) p.now)
        (startOutbox paidWorld) crashOnHand ∧
      ¬ History.Always (Pool.step outboxPool) (fun p => p.Idle → NothingLost (fun _ => {}) p.now)
        (startOutbox paidWorld) overlappingRuns ∧
      ¬ History.Always (Pool.step outboxPool) (fun p => p.Idle → NothingLost (fun _ => {}) p.now)
        (startOutbox paidWorld) refusedOutcome := by
  refine ⟨fun h => ?_, fun h => ?_, fun h => ?_⟩
  · have hlost := (h.last (List.forall_mem_cons.mpr ⟨trivial, fun _ ht => (nomatch ht)⟩)).accounted
      5 _ rfl rfl
    exact absurd hlost (by decide)
  · have hlost := (h.last (List.forall_mem_cons.mpr ⟨trivial, List.forall_mem_cons.mpr
      ⟨trivial, fun _ ht => (nomatch ht)⟩⟩)).accounted 5 _ rfl rfl
    exact absurd hlost (by decide)
  · have hlost := (h.last (List.forall_mem_cons.mpr ⟨trivial, fun _ ht => (nomatch ht)⟩)).accounted
      5 _ rfl rfl
    exact absurd hlost (by decide)

end Idle

end Deliivo
