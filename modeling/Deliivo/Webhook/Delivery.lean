import Deliivo.Booking.Frame
import Deliivo.Domain.Straight
import Deliivo.Store.History
import Deliivo.Webhook.Handler

/-!
# Deliveries of Stripe events

Stripe delivers an event until it is answered with a 2xx. This module follows a sequence of
deliveries, each of which may fail at any of its steps, and asks whether an answer of 200 means that
the event has been processed.

It need not: an attempt that throws while processing leaves the event's row behind, and the next
delivery finds it. **An event is acknowledged without having been processed exactly when it is
looked up again after such an attempt** (`no_event_lost_iff`).

## Main definitions

* `WebhookMove`, `WebhookLog.step`: deliveries, with anything else going on in between
* `WebhookLog.NoEventLost`: every acknowledged event has been processed
* `WebhookLog.LooksUpNoAbandoned`: the condition on a delivery

## Main results

* `leaves_processStripeEvent`: processing never touches the received events
* `run_admitWebhookEvent`: the four ways in which the lookup and the row can end
* `no_event_lost_iff`
-/

namespace Deliivo

/-! ## Processing leaves the received events alone -/

section Processing

theorem leaves_failPendingBooking (bookingId : ℕ) :
    (failPendingBooking bookingId).Leaves Db.webhookEvents := by
  refine ((Program.issues_command _).mpr (leaves_findBookingWithRide _)).bind fun found => ?_
  cases found with
  | none => trivial
  | some found =>
    dsimp only
    split_ifs with hpending
    · refine ((Program.issues_perform _).mpr fun _ _ => rfl).bind fun _ => ?_
      refine (leaves_releaseBookingSeats ?_ ?_ ?_ _ _).bind fun _ => trivial
      · exact fun _ _ => rfl
      · exact fun _ _ _ => rfl
      · exact fun _ _ => rfl
    · trivial

theorem leaves_applyPaymentIntentFailed (intent : Intent) :
    (applyPaymentIntentFailed intent).Leaves (.ofDb Db.webhookEvents) := by
  unfold applyPaymentIntentFailed
  split
  · trivial
  · refine (leaves_sql (leaves_findFirst _)).bind fun selected => ?_
    split_ifs with hselected
    · trivial
    · refine Program.Issues.bind ?_ fun failed => ?_
      · exact (Program.issues_perform _).mpr
          ⟨fun _ => leaves_failPendingBooking _, fun _ _ _ => trivial⟩
      · cases failed with
        | none => trivial
        | some booking => exact leaves_notify

theorem leaves_markIntentRefunded (paymentIntent : ℕ) (amount : ℤ) :
    (markIntentRefunded paymentIntent amount).Leaves (.ofDb Db.webhookEvents) := by
  refine (leaves_sql fun _ _ => rfl).bind fun found => ?_
  cases found with
  | none => trivial
  | some found =>
    refine (leaves_markBookingPaymentRefunded (.of_apart ?_) (fun _ _ _ => trivial) ?_ _ _ _).bind
      fun _ => trivial
    all_goals exact fun _ _ => rfl

theorem leaves_applyChargeRefunded (charge : ChargeObject) :
    (applyChargeRefunded charge).Leaves (.ofDb Db.webhookEvents) := by
  unfold applyChargeRefunded
  split
  · trivial
  · refine (leaves_transaction fun ctx => ?_).bind fun _ => ?_
    · exact (Program.issues_command _).mpr fun _ _ => rfl
    · split_ifs with hrefunded
      · exact leaves_markIntentRefunded _ _
      · trivial

theorem leaves_applyRefundUpdated (refund : RefundObject) :
    (applyRefundUpdated refund).Leaves (.ofDb Db.webhookEvents) := by
  unfold applyRefundUpdated
  split
  · trivial
  · refine (leaves_transaction fun ctx => ?_).bind fun _ => ?_
    · exact (Program.issues_command _).mpr fun _ _ => rfl
    · split_ifs with hsucceeded
      · exact leaves_markIntentRefunded _ _
      · trivial

/-- Processing never touches the received events. -/
theorem leaves_processStripeEvent (settings : Settings) (event : StripeEvent) :
    (processStripeEvent settings event).Leaves (.ofDb Db.webhookEvents) := by
  unfold processStripeEvent
  split
  · refine (leaves_applyStripePaymentSucceededToBooking (.of_apart ?_) ?_ ?_ ?_ (fun _ _ _ => trivial)
      ?_ (fun _ _ => rfl) ?_ ?_ ?_ ?_ (.of_apart ?_) (fun _ => trivial) _ _ _).bind fun _ => trivial
    all_goals exact fun _ _ => rfl
  · exact leaves_applyPaymentIntentFailed _
  · exact leaves_applyChargeRefunded _
  · exact leaves_applyRefundUpdated _
  · exact leaves_applyRefundUpdated _
  · trivial

end Processing

/-! ## The lookup and the row -/

/-- Whether an event's row is there. -/
def World.received (w : World) (eventId : ℕ) : Bool :=
  w.db.webhookEvents.any fun e => e.stripeEventId == eventId

/-- The world with the row of an event. -/
def World.withReceived (w : World) (event : StripeEvent) : World :=
  { w with db := { w.db with webhookEvents := w.db.webhookEvents ++
      [{ stripeEventId := event.id
         eventType := event.body.type
         paymentIntentId := event.body.objectId }] } }

theorem received_withReceived (w : World) (event : StripeEvent) (id : ℕ) :
    (w.withReceived event).received id = (w.received id || event.id == id) := by
  simp [World.received, World.withReceived]

theorem findWebhookEvent_isSome (w : World) (id : ℕ) :
    ((findWebhookEvent id).answer w.db).isSome = w.received id := by
  rw [Bool.eq_iff_iff, findWebhookEvent, List.find?_isSome, World.received, List.any_eq_true]

/-- The four ways in which the lookup and the row can end. -/
theorem run_admitWebhookEvent (event : StripeEvent) (o : ℕ → Reply) (w : World) :
    Program.run world o (admitWebhookEvent event) 0 w =
      if o 0 ≠ .ok then (.error .unavailable, 1, w)
      else if w.received event.id then (.ok false, 1, w)
      else if o 1 ≠ .ok then (.error .unavailable, 2, w)
      else (.ok true, 2, w.withReceived event) := by
  unfold admitWebhookEvent
  by_cases h0 : o 0 = .ok
  · have hlookup : Program.run world o (sql (findWebhookEvent event.id)) 0 w =
        (.ok ((findWebhookEvent event.id).answer w.db), 1, w) :=
      (Service.straight_sql _ w).run_single_ok h0
    rw [if_neg (not_not.mpr h0), Program.bind_eq, Program.run_bind, hlookup, Program.resume_ok,
      findWebhookEvent_isSome]
    cases hr : w.received event.id with
    | true => rfl
    | false =>
      rw [if_neg (by decide), if_neg (by decide)]
      by_cases h1 : o 1 = .ok
      · rw [if_neg (not_not.mpr h1), (Service.straight_sql _ w).run_single_ok h1]
        simp only [createWebhookEvent, World.received] at hr ⊢
        rw [hr]
        rfl
      · rw [if_pos h1, (Service.straight_sql _ w).run_single_fault h1]
  · rw [if_pos h0, Program.bind_eq, Program.run_bind,
      (Service.straight_sql _ w).run_single_fault h0, Program.resume_error]

/-! ## Sequences of deliveries -/

/-- What happens next: an event is delivered, its steps meeting `replies`; or anything else changes
the world, apart from the received events. -/
inductive WebhookMove
  | deliver (request : WebhookRequest) (replies : ℕ → Reply)
  | elsewhere (w : World)

/-- The world, and the ids of the events whose processing has been run to completion, of those that
an attempt has stored and not completed, and of those that were answered with 200. -/
structure WebhookLog where
  state : World
  processed : List ℕ
  abandoned : List ℕ := []
  acknowledged : List ℕ := []

/-- Before the first delivery: the events received so far count as processed. -/
def WebhookLog.start (w : World) : WebhookLog where
  state := w
  processed := w.db.webhookEvents.map WebhookEvent.stripeEventId

section Deliveries

variable (settings : Settings) (constructStripeEvent : String → String → Option StripeEvent)

/-- Whether an attempt stores the row of its event. -/
def stores (event : StripeEvent) (o : ℕ → Reply) (w : World) : Bool :=
  match (Program.run world o (admitWebhookEvent event) 0 w).1 with
  | .ok isNew => isNew
  | .error _ => false

/-- Whether an attempt runs the processing of its event to completion. -/
def completes (event : StripeEvent) (o : ℕ → Reply) (w : World) : Bool :=
  match Program.run world o (admitWebhookEvent event) 0 w with
  | (.ok true, n, w') => (Program.run world o (processStripeEvent settings event) n w').1.isOk
  | _ => false

/-- Whether a call has answered 200. -/
def acknowledges (outcome : Except Err WebhookResponse) : Bool :=
  match outcome with
  | .ok response => response.status == 200
  | .error _ => false

/-- The log after one move. -/
def WebhookLog.step (s : WebhookLog) : WebhookMove → WebhookLog
  -- everything else the service does writes no webhook event
  | .elsewhere w =>
    { s with state := { w with db := { w.db with webhookEvents := s.state.db.webhookEvents } } }
  | .deliver request o =>
    let (outcome, _, w) :=
      Program.run world o (handleStripeWebhook settings constructStripeEvent request) 0 s.state
    match readWebhookRequest constructStripeEvent request with
    | .inl _ => { s with state := w }
    | .inr event =>
      { state := w
        processed := (if completes settings event o s.state then [event.id] else []) ++ s.processed
        abandoned :=
          (if stores event o s.state && !completes settings event o s.state then [event.id]
            else []) ++ s.abandoned
        acknowledged := (if acknowledges outcome then [event.id] else []) ++ s.acknowledged }

/-- Every event that was answered with 200 has been processed. -/
def WebhookLog.NoEventLost (s : WebhookLog) : Prop := ∀ id ∈ s.acknowledged, id ∈ s.processed

/-- The move does not look up an event whose row was left behind by an attempt that threw. -/
def WebhookLog.LooksUpNoAbandoned (s : WebhookLog) : WebhookMove → Prop
  | .elsewhere _ => True
  | .deliver request o => ∀ event, readWebhookRequest constructStripeEvent request = .inr event →
      event.id ∈ s.abandoned → o 0 ≠ .ok

/-- The rows are those of the processed and of the abandoned events, and no event is both. -/
structure WebhookLog.Consistent (s : WebhookLog) : Prop where
  received : ∀ id, s.state.received id = true ↔ id ∈ s.processed ∨ id ∈ s.abandoned
  disjoint : ∀ id ∈ s.abandoned, id ∉ s.processed

end Deliveries

/-! ## What one delivery does -/

section Step

variable {settings : Settings} {constructStripeEvent : String → String → Option StripeEvent}
  {request : WebhookRequest} {event : StripeEvent} {o : ℕ → Reply} {s : WebhookLog}

/-- A request that is answered before the database is asked. -/
theorem step_rejected {response : WebhookResponse}
    (hread : readWebhookRequest constructStripeEvent request = .inl response) :
    s.step settings constructStripeEvent (.deliver request o) = s := by
  simp only [WebhookLog.step, handleStripeWebhook, hread]
  rfl

variable (hread : readWebhookRequest constructStripeEvent request = .inr event)

include hread

/-- The lookup or the row fails: the call throws and nothing has changed. -/
theorem step_refused {n : ℕ}
    (hlookup : Program.run world o (admitWebhookEvent event) 0 s.state =
      (.error .unavailable, n, s.state)) :
    s.step settings constructStripeEvent (.deliver request o) = s := by
  have hrun : Program.run world o (handleStripeWebhook settings constructStripeEvent request) 0
      s.state = (.error .unavailable, n, s.state) := by
    rw [handleStripeWebhook, hread]
    exact (Program.run_bind ..).trans (by rw [hlookup, Program.resume_error])
  simp [WebhookLog.step, hrun, hread, stores, completes, acknowledges, hlookup]

/-- The row is there: the call answers 200 and does nothing. -/
theorem step_duplicate {n : ℕ}
    (hlookup : Program.run world o (admitWebhookEvent event) 0 s.state =
      (.ok false, n, s.state)) :
    s.step settings constructStripeEvent (.deliver request o) =
      { s with acknowledged := event.id :: s.acknowledged } := by
  have hrun : Program.run world o (handleStripeWebhook settings constructStripeEvent request) 0
      s.state = (.ok (.received true), n, s.state) := by
    rw [handleStripeWebhook, hread]
    exact (Program.run_bind ..).trans (by rw [hlookup]; rfl)
  simp [WebhookLog.step, hrun, hread, stores, completes, acknowledges, hlookup,
    WebhookResponse.status]

/-- The row is new: it stays, and the event is processed and acknowledged, or neither. -/
theorem step_new {n : ℕ}
    (hlookup : Program.run world o (admitWebhookEvent event) 0 s.state =
      (.ok true, n, s.state.withReceived event)) :
    ∃ w, (∀ id, w.received id = (s.state.withReceived event).received id) ∧
      (s.step settings constructStripeEvent (.deliver request o) =
          { s with
            state := w
            processed := event.id :: s.processed
            acknowledged := event.id :: s.acknowledged } ∨
        s.step settings constructStripeEvent (.deliver request o) =
          { s with state := w, abandoned := event.id :: s.abandoned }) := by
  -- processing writes no webhook event, so what was received is what admission stored
  have hkeeps : (Program.run world o (processStripeEvent settings event) n
      (s.state.withReceived event)).2.2.db.webhookEvents =
        (s.state.withReceived event).db.webhookEvents :=
    Program.wp_run ((leaves_processStripeEvent settings event).preserves
      (fun events => events = (s.state.withReceived event).db.webhookEvents) _ rfl) o n
  rcases hprocess : Program.run world o (processStripeEvent settings event) n
      (s.state.withReceived event) with ⟨outcome, m, w⟩
  rw [hprocess] at hkeeps
  change w.db.webhookEvents = _ at hkeeps
  refine ⟨w, fun id => by rw [World.received, World.received, hkeeps], ?_⟩
  have hrun : Program.run world o (handleStripeWebhook settings constructStripeEvent request) 0
      s.state = Program.resume world o (fun _ => .ret (.received false)) (outcome, m, w) := by
    rw [handleStripeWebhook, hread, ← hprocess, ← Program.run_bind]
    exact (Program.run_bind ..).trans (by rw [hlookup]; rfl)
  -- acknowledged when processing returned, abandoned when it threw
  cases outcome with
  | ok u =>
    refine Or.inl ?_
    simp [WebhookLog.step, hrun, hread, stores, completes, acknowledges, hlookup, hprocess,
      Except.isOk, Except.toBool, WebhookResponse.status]
  | error e =>
    refine Or.inr ?_
    simp [WebhookLog.step, hrun, hread, stores, completes, acknowledges, hlookup, hprocess,
      Except.isOk, Except.toBool]

end Step

/-! ## Whole sequences -/

section Sequences

variable (settings : Settings) (constructStripeEvent : String → String → Option StripeEvent)

theorem consistent_start (w : World) : (WebhookLog.start w).Consistent where
  received id := by
    simp only [WebhookLog.start, World.received, List.any_eq_true, beq_iff_eq, List.mem_map,
      List.not_mem_nil, or_false]
  disjoint id hid := absurd hid List.not_mem_nil

/-- The rows after a new event's row has been stored and the event counted on one of the two
sides. -/
private theorem received_new {s : WebhookLog} {event : StripeEvent} {w : World}
    (hI : s.Consistent)
    (hkeeps : ∀ id, w.received id = (s.state.withReceived event).received id) (id : ℕ) :
    w.received id = true ↔ (id ∈ s.processed ∨ id ∈ s.abandoned) ∨ id = event.id := by
  rw [hkeeps, received_withReceived, Bool.or_eq_true, hI.received, beq_iff_eq, eq_comm (a := id)]

theorem consistent_step (s : WebhookLog) (move : WebhookMove) (hI : s.Consistent) :
    (s.step settings constructStripeEvent move).Consistent := by
  cases move with
  | elsewhere w => exact ⟨fun id => hI.received id, hI.disjoint⟩
  | deliver request o =>
    cases hread : readWebhookRequest constructStripeEvent request with
    | inl response => rwa [step_rejected hread]
    | inr event =>
      have hlookup := run_admitWebhookEvent event o s.state
      split_ifs at hlookup with h0 hr h1
      · rwa [step_refused hread hlookup]
      · rw [step_duplicate hread hlookup]
        exact ⟨hI.received, hI.disjoint⟩
      · rwa [step_refused hread hlookup]
      · -- a new event is on neither side so far
        have hnew : event.id ∉ s.processed ∧ event.id ∉ s.abandoned := by
          rw [← not_or, ← hI.received]
          exact hr
        obtain ⟨w, hkeeps, hstep | hstep⟩ := step_new hread hlookup
        · rw [hstep]
          refine ⟨fun id => ?_, fun id hid => ?_⟩
          · rw [received_new hI hkeeps, List.mem_cons]
            tauto
          · rw [List.mem_cons, not_or]
            exact ⟨fun h => hnew.2 (h ▸ hid), hI.disjoint id hid⟩
        · rw [hstep]
          refine ⟨fun id => ?_, fun id hid => ?_⟩
          · rw [received_new hI hkeeps, List.mem_cons]
            tauto
          · rcases List.mem_cons.mp hid with rfl | hid
            · exact hnew.1
            · exact hI.disjoint id hid

/-- One delivery keeps the property exactly when it does not look up an abandoned event. -/
theorem noEventLost_step (s : WebhookLog) (move : WebhookMove) (hI : s.Consistent)
    (hP : s.NoEventLost) :
    (s.step settings constructStripeEvent move).NoEventLost ↔
      s.LooksUpNoAbandoned constructStripeEvent move := by
  cases move with
  | elsewhere w => exact iff_of_true hP trivial
  | deliver request o =>
    cases hread : readWebhookRequest constructStripeEvent request with
    | inl response =>
      rw [step_rejected hread]
      refine iff_of_true hP fun event h => ?_
      rw [hread] at h
      cases h
    | inr event =>
      have hcond : s.LooksUpNoAbandoned constructStripeEvent (.deliver request o) ↔
          (event.id ∈ s.abandoned → o 0 ≠ .ok) := by
        constructor
        · intro h
          exact h event hread
        · intro h event' hread'
          rw [hread] at hread'
          cases hread'
          exact h
      rw [hcond]
      have hlookup := run_admitWebhookEvent event o s.state
      split_ifs at hlookup with h0 hr h1
      · rw [step_refused hread hlookup]
        exact iff_of_true hP fun _ => h0
      · -- the row is there: what counts is which attempt left it
        rw [step_duplicate hread hlookup]
        have hiff : event.id ∈ s.processed ↔ event.id ∉ s.abandoned := by
          constructor
          · intro hp ha
            exact hI.disjoint _ ha hp
          · intro ha
            exact ((hI.received _).mp hr).resolve_right ha
        constructor
        · intro h ha
          exact absurd ha (hiff.mp (h _ List.mem_cons_self))
        · intro h id hid
          rcases List.mem_cons.mp hid with rfl | hid
          · exact hiff.mpr fun ha => h0 (h ha)
          · exact hP id hid
      · rw [step_refused hread hlookup]
        refine iff_of_true hP fun ha => absurd ?_ hr
        exact (hI.received _).mpr (Or.inr ha)
      · -- a new event cannot have been abandoned
        have ha : event.id ∉ s.abandoned := fun ha => hr ((hI.received _).mpr (Or.inr ha))
        refine iff_of_true ?_ fun h => absurd h ha
        obtain ⟨w, -, hstep | hstep⟩ := step_new hread hlookup
        · rw [hstep]
          intro id hid
          rcases List.mem_cons.mp hid with rfl | hid
          · exact List.mem_cons_self
          · exact List.mem_cons_of_mem _ (hP id hid)
        · rw [hstep]
          exact hP

/-- **No event is lost exactly when none is looked up again after an attempt that threw**: over
every sequence of deliveries, whatever fails in them and whatever else goes on, an answer of 200
means that the event has been processed if and only if no delivery looks up an event whose row was
left behind by an attempt that did not complete. -/
theorem no_event_lost_iff (w : World) (moves : List WebhookMove) :
    History.Always (WebhookLog.step settings constructStripeEvent) WebhookLog.NoEventLost
        (.start w) moves ↔
      History.Each (WebhookLog.step settings constructStripeEvent)
        (WebhookLog.LooksUpNoAbandoned constructStripeEvent) (.start w) moves :=
  History.always_iff_each (consistent_step settings constructStripeEvent)
    (noEventLost_step settings constructStripeEvent) (consistent_start w)
    (fun _ h => absurd h List.not_mem_nil) moves

end Sequences

/-! ## A lost event -/

section Lost

/-- A booking that waits for its payment. -/
private def unpaidWorld : World where
  db := {
    rides := .single 1 {
      driverId := 1
      totalSeats := 3
      availableSeats := 3
      status := .published
      departureAt := 1000000 }
    bookings := .single 7 { rideId := 1, passengerId := 2, seatsBooked := 1, totalPrice := 1020 } }

/-- The payment of that booking is declined. -/
private def declinedEvent : StripeEvent where
  id := 1
  body := .paymentIntentPaymentFailed 5 { bookingId := some 7, amount := 1020 }

private def declinedDelivery (replies : ℕ → Reply) : WebhookMove :=
  .deliver { signature := some "t=1,v1=00", body := .raw "payload" } replies

/-- The first delivery stores the row and fails in its first step of processing; the second is
answered with 200, and the booking still waits for its payment. -/
theorem declined_payment_is_lost :
    let construct : String → String → Option StripeEvent := fun _ _ => some declinedEvent
    let moves := [declinedDelivery fun n => if n < 2 then .ok else .refused,
      declinedDelivery fun _ => .ok]
    let final := History.after (WebhookLog.step {} construct) (.start unpaidWorld) moves
    ¬ History.Always (WebhookLog.step {} construct) WebhookLog.NoEventLost (.start unpaidWorld)
        moves ∧
      final.acknowledged = [1] ∧ final.processed = [] ∧
      (final.state.db.bookings.get? 7).map (·.status) = some .paymentPending := by
  refine ⟨?_, rfl, rfl, rfl⟩
  intro h
  exact absurd (h.2.2 1 List.mem_cons_self) List.not_mem_nil

end Lost

end Deliivo
