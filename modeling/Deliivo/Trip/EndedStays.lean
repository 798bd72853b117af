import Deliivo.Booking.Outcome
import Deliivo.Domain.Undisturbed
import Deliivo.Ride.EndedStays
import Deliivo.Trip.Operations

/-!
# An ended booking stays ended

The operations on the road check the status of a booking that they have read, unless they are forced,
and write the booking by its id. A forced call takes a booking that has ended for one that is under
way, and so does one that reads the booking before it is cancelled.

**Ended bookings stay ended exactly if no ride operation writes a booking that has ended by then**, but
with the status that it has (`ended_bookings_stay_iff`).

## Main definitions

* `EndedBookingsStay`, `NeverCompleted`: the two halves of the property
* `RoadOp`, `roadPool`: the operations and the calls that end bookings, next to each other
* `FindsBookingLive`: the condition on their steps
* `RoadOp.forced`, `StatusUnwritten`: what a call meets the condition without

## Main results

* `RoadCall`: what a step of an operation can do to the statuses, and `opsConfined_road`
* `unforced_call_finds_live`: a call that is not forced meets the condition by its own check
* `ended_bookings_stay_iff`
-/

namespace Deliivo

open Program (Logged Pool Move)

/-! ## The property -/

/-- The statuses of the bookings. -/
def bookingStatuses (d : Db) : ℕ → Option BookingStatus := d.bookings.viewed Booking.status

/-- An ended booking is left as it is. -/
def EndedBookingsStay (d d' : Db) : Prop :=
  RowsKeep (fun before after => before.ended = true → after = before)
    (bookingStatuses d) (bookingStatuses d')

/-- A booking that ended otherwise has not been completed since. -/
def NeverCompleted (d d' : Db) : Prop :=
  RowsKeep (fun before after => before.ended = true → before ≠ .completed → after ≠ .completed)
    (bookingStatuses d) (bookingStatuses d')

/-! ## The calls -/

inductive RoadOp
  | driverArrived (driverId bookingId : ℕ) (input : RideEventInput)
  | verifyPickupAndBoard (driverId bookingId : ℕ) (otpHash : Option String) (input : RideEventInput)
  | verifyPickupOtp (driverId bookingId : ℕ) (otpHash : Option String) (forced : Bool)
  | verifyDropOtp (driverId bookingId : ℕ) (otpHash : Option String) (forced : Bool)
  | markNoShow (settings : RideSettings) (driverId bookingId : ℕ) (input : RideEventInput)
  | confirmDropoff (driverId bookingId : ℕ) (input : RideEventInput)
  | riderConfirmDropoff (passengerId bookingId : ℕ) (forced : Bool)
  | reportMissedPickup (passengerId bookingId : ℕ) (input : RideEventInput)
  | syncOfflineActions (settings : RideSettings) (actorId : ℕ) (actions : List OfflineAction)
  | cancelBooking (passengerId bookingId : ℕ)
  | cancelAfterAccept (settings : Settings) (driverId bookingId : ℕ)
  | handleExtendedDeadline (settings : Settings) (bookingId : ℕ)

def RoadOp.program : RoadOp → Service Unit
  | .driverArrived driverId bookingId input => Deliivo.driverArrived driverId bookingId input
  | .verifyPickupAndBoard driverId bookingId otpHash input =>
    Deliivo.verifyPickupAndBoard driverId bookingId otpHash input
  | .verifyPickupOtp driverId bookingId otpHash forced =>
    Deliivo.verifyPickupOtp driverId bookingId otpHash forced
  | .verifyDropOtp driverId bookingId otpHash forced =>
    Deliivo.verifyDropOtp driverId bookingId otpHash forced
  | .markNoShow settings driverId bookingId input =>
    Deliivo.markNoShow settings driverId bookingId input
  | .confirmDropoff driverId bookingId input => Deliivo.confirmDropoff driverId bookingId input
  | .riderConfirmDropoff passengerId bookingId forced =>
    Deliivo.riderConfirmDropoff passengerId bookingId forced
  | .reportMissedPickup passengerId bookingId input =>
    Deliivo.reportMissedPickup passengerId bookingId input
  | .syncOfflineActions settings actorId actions =>
    Deliivo.syncOfflineActions settings actorId actions
  | .cancelBooking passengerId bookingId => Deliivo.cancelBooking passengerId bookingId
  | .cancelAfterAccept settings driverId bookingId =>
    Deliivo.cancelAfterAccept settings driverId bookingId
  | .handleExtendedDeadline settings bookingId => Deliivo.handleExtendedDeadline settings bookingId

/-- Whether the call is an operation on the road; the others end bookings. -/
def RoadOp.isRideOperation : RoadOp → Bool
  | .cancelBooking .. | .cancelAfterAccept .. | .handleExtendedDeadline .. => false
  | _ => true

/-- The calls, next to each other. -/
abbrev roadPool := servicePool RoadOp.program besidesBookings

/-- A status that an operation has written by the id of the booking. -/
def Written (events : List Event) (id : ℕ) (status : BookingStatus) : Prop :=
  .bookingMoved id status ∈ events ∨ status = .completed ∧ .tripCompleted id ∈ events

/-- What a step is to meet: an operation that writes a booking finds that it has not ended, or that
it has the status already. -/
def FindsBookingLive (d : Db) (events : List Event) : Prop :=
  ∀ id status before, Written events id status → bookingStatuses d id = some before →
    before.ended = true → status = before

/-- The condition on the steps of the calls. -/
def RoadStep (_op : RoadOp) (_tid : ℕ) (x : LoggedWorld) (_reply : Reply) (events : List Event) :
    Prop := FindsBookingLive x.state.db events

/-! ## Single steps -/

section Steps

/-- The events that write no booking by its id. -/
def WritesNoBooking (e : Event) : Prop :=
  (∀ id status, e ≠ .bookingMoved id status) ∧ ∀ id, e ≠ .tripCompleted id

/-- A step of an operation leaves alone a booking that has ended, and reports nothing of any, or
writes the one status that it reports. -/
def RoadCall {β : Type} (c : Call β) : Prop :=
  ∀ i w, RowsWritten (fun before after => before.ended = true → after = before)
    (Written (c.exec i w).2.1) (bookingStatuses w.db) (bookingStatuses (c.exec i w).2.2.db)

/-- A step of any of the calls: those that end bookings may cancel any. -/
def RoadCommand (op : RoadOp) {β : Type} (c : Call β) : Prop :=
  if op.isRideOperation then RoadCall c else EndingCall (fun _ => true) WritesNoBooking c

variable {d d' : Db} {events : List Event}

theorem bookingStatuses_eq (d : Db) :
    bookingStatuses d = fun id => (bookingRecords d id).map BookingRecord.status := by
  funext id
  rw [bookingStatuses, bookingRecords, Table.viewed, Table.viewed, Option.map_map]
  rfl

theorem not_written (h : ∀ e ∈ events, WritesNoBooking e) (id : ℕ) (status : BookingStatus) :
    ¬ Written events id status := by
  rintro (hmoved | ⟨-, hcompleted⟩)
  · exact (h _ hmoved).1 id status rfl
  · exact (h _ hcompleted).2 id rfl

/-- A step that reports nothing and leaves the ended bookings alone. -/
theorem roadCall_of_keeps {β : Type} {c : Call β}
    (h : ∀ i w, EndedBookingsStay w.db (c.exec i w).2.2.db ∧
      ∀ e ∈ (c.exec i w).2.1, WritesNoBooking e) : RoadCall c :=
  fun i w => (h i w).1.written (not_written (h i w).2)

theorem endedBookingsStay_refl (d : Db) : EndedBookingsStay d d := .refl (fun _ _ => rfl) _

theorem roadCall_of_leaves {β : Type} {c : Call β} (h : c.Leaves (recordsFrame WritesNoBooking)) :
    RoadCall c := by
  refine roadCall_of_keeps fun i w => ?_
  obtain ⟨hdb, -, hevents⟩ := h.exec i w
  refine ⟨?_, hevents⟩
  have hsame : bookingStatuses (c.exec i w).2.2.db = bookingStatuses w.db := by
    rw [bookingStatuses_eq, bookingStatuses_eq]
    rw [show bookingRecords (c.exec i w).2.2.db = bookingRecords w.db from hdb]
  rw [EndedBookingsStay, hsame]
  exact endedBookingsStay_refl w.db

theorem road_of_leaves {α : Type} {p : Service α} (h : p.Leaves (recordsFrame WritesNoBooking)) :
    p.Issues fun {_} c => RoadCall c :=
  h.mono fun _ hc => roadCall_of_leaves hc

/-- A booking that is written by its id, and reported. -/
theorem roadCall_writeBooking {bookingId : ℕ} {target : BookingStatus} {f : Ctx → Booking → Booking}
    (hf : ∀ ctx b, (f ctx b).status = target)
    (hevents : ∀ id status, Written events id status ↔ id = bookingId ∧ status = target) :
    RoadCall (.transact (fun ctx => Program.perform (update bookings bookingId (f ctx)))
      fun _ => events) := by
  intro i w
  obtain ⟨b, d, hbody, hexec⟩ | ⟨e, hexec⟩ := exec_transact (fun ctx =>
    Program.perform (update bookings bookingId (f ctx))) (fun _ => events) i w
  · rw [hexec]
    obtain ⟨-, -, -, rfl⟩ := Service.atomic_update hbody
    exact Table.rowsWritten_modify (fun _ _ => rfl) (hf _) hevents
  · rw [hexec]
    exact (endedBookingsStay_refl w.db).written (not_written fun e he => absurd he List.not_mem_nil)

theorem road_moveBooking (bookingId : ℕ) (status : BookingStatus) (f : Booking → Booking) :
    (moveBooking bookingId status f).Issues fun {_} c => RoadCall c := by
  refine ((Program.issues_perform _).mpr ?_).bind fun _ => trivial
  refine roadCall_writeBooking (fun _ _ => rfl) fun id status' => ?_
  simp [Written]

theorem road_completeBooking (bookingId : ℕ) (f : Ctx → Booking → Booking) :
    (completeBooking bookingId f).Issues fun {_} c => RoadCall c := by
  refine ((Program.issues_perform _).mpr ?_).bind fun _ => trivial
  refine roadCall_writeBooking (fun _ _ => rfl) fun id status' => ?_
  simp [Written, and_comm]

/-! ## What the operations share -/

theorem road_assertForceAllowedOnRide (forced : Bool) (rideStatus : RideStatus) :
    (assertForceAllowedOnRide forced rideStatus).Issues fun {_} c => RoadCall c :=
  road_of_leaves (leaves_assertForceAllowedOnRide _ _)

theorem road_assertOrForce (forced violated : Bool) (code : String) :
    (assertOrForce forced violated code).Issues fun {_} c => RoadCall c :=
  road_of_leaves (leaves_assertOrForce _ _ _)

theorem road_clock : (Program.command .clock : Service ℕ).Issues fun {_} c => RoadCall c :=
  road_of_leaves leaves_clock

theorem records_recordEvent (event : RideEvent) :
    (recordEvent event).Leaves (recordsFrame WritesNoBooking) := by
  refine (leaves_sql fun _ _ => rfl).bind fun existing => ?_
  split_ifs
  · trivial
  · exact leaves_sqlOrThrow fun _ _ => rfl

theorem records_handleForcedAction (forced : Bool) :
    (handleForcedAction forced).Leaves (recordsFrame WritesNoBooking) := by
  unfold handleForcedAction
  split_ifs
  · exact leaves_bestEffort leaves_notify
  · trivial

theorem records_recordOperation (rideId bookingId actorId : ℕ) (eventType : String)
    (input : RideEventInput) : (recordOperation rideId bookingId actorId eventType input).Leaves
      (recordsFrame WritesNoBooking) :=
  (records_recordEvent _).bind fun _ => (records_handleForcedAction _).bind fun _ => leaves_notify

theorem road_recordOperation (rideId bookingId actorId : ℕ) (eventType : String)
    (input : RideEventInput) :
    (recordOperation rideId bookingId actorId eventType input).Issues fun {_} c => RoadCall c :=
  road_of_leaves (records_recordOperation _ _ _ _ _)

theorem records_assertOtpValid (bookingId : ℕ) (isValid forced : Bool) :
    (assertOtpValid bookingId isValid forced).Leaves (recordsFrame WritesNoBooking) := by
  unfold assertOtpValid
  split_ifs
  · refine (leaves_sqlOrThrow ?_).bind fun _ => trivial
    apply records_updateBooking
    exact fun _ => rfl
  · trivial

theorem road_assertOtpValid (bookingId : ℕ) (isValid forced : Bool) :
    (assertOtpValid bookingId isValid forced).Issues fun {_} c => RoadCall c :=
  road_of_leaves (records_assertOtpValid _ _ _)

/-! ## The operations -/

theorem road_driverArrived (driverId bookingId : ℕ) (input : RideEventInput) :
    (driverArrived driverId bookingId input).Issues fun {_} c => RoadCall c := by
  refine (road_of_leaves (leaves_requireDriverBooking _ _)).bind fun found => ?_
  dsimp only
  split_ifs with hstatus
  · trivial
  refine (road_assertForceAllowedOnRide _ _).bind fun _ => ?_
  refine (road_assertOrForce _ _ _).bind fun _ => ?_
  refine road_clock.bind fun now => ?_
  exact (road_moveBooking _ _ _).bind fun _ => road_recordOperation _ _ _ _ _

theorem road_verifyPickupAndBoard (driverId bookingId : ℕ) (otpHash : Option String)
    (input : RideEventInput) :
    (verifyPickupAndBoard driverId bookingId otpHash input).Issues fun {_} c => RoadCall c := by
  refine (road_of_leaves (leaves_requireDriverBooking _ _)).bind fun found => ?_
  refine (road_assertForceAllowedOnRide _ _).bind fun _ => ?_
  refine (road_assertOrForce _ _ _).bind fun _ => ?_
  refine (road_assertOrForce _ _ _).bind fun _ => ?_
  refine road_clock.bind fun now => ?_
  refine (road_assertOrForce _ _ _).bind fun _ => ?_
  refine (road_assertOrForce _ _ _).bind fun _ => ?_
  refine (road_assertOtpValid _ _ _).bind fun _ => ?_
  exact (road_moveBooking _ _ _).bind fun _ => road_recordOperation _ _ _ _ _

theorem road_verifyPickupOtp (driverId bookingId : ℕ) (otpHash : Option String) (forced : Bool) :
    (verifyPickupOtp driverId bookingId otpHash forced).Issues fun {_} c => RoadCall c := by
  refine (road_of_leaves (leaves_requireDriverBooking _ _)).bind fun found => ?_
  refine (road_assertForceAllowedOnRide _ _).bind fun _ => ?_
  refine (road_assertOrForce _ _ _).bind fun _ => ?_
  refine (road_assertOrForce _ _ _).bind fun _ => ?_
  refine road_clock.bind fun now => ?_
  refine (road_assertOrForce _ _ _).bind fun _ => ?_
  refine (road_assertOrForce _ _ _).bind fun _ => ?_
  refine (road_assertOtpValid _ _ _).bind fun _ => ?_
  refine road_clock.bind fun verifiedAt => ?_
  refine (road_moveBooking _ _ _).bind fun _ => road_of_leaves (leaves_notify.bind fun _ => ?_)
  unfold auditForcedOtp
  split_ifs
  · refine ((Program.issues_command _).mpr trivial).bind fun actionId => ?_
    exact (records_recordEvent _).bind fun _ => records_handleForcedAction _
  · trivial

theorem road_verifyDropOtp (driverId bookingId : ℕ) (otpHash : Option String) (forced : Bool) :
    (verifyDropOtp driverId bookingId otpHash forced).Issues fun {_} c => RoadCall c := by
  refine (road_of_leaves (leaves_sql (leaves_findBookingWithRide _))).bind fun found => ?_
  cases found with
  | none => trivial
  | some found =>
    dsimp only
    by_cases hdriver : found.2.driverId ≠ driverId
    · rw [if_pos hdriver]
      trivial
    rw [if_neg hdriver]
    refine (road_assertForceAllowedOnRide _ _).bind fun _ => ?_
    refine (road_assertOrForce _ _ _).bind fun _ => ?_
    refine (road_assertOrForce _ _ _).bind fun _ => ?_
    refine road_clock.bind fun now => ?_
    refine (road_assertOrForce _ _ _).bind fun _ => ?_
    refine (road_assertOrForce _ _ _).bind fun _ => ?_
    -- a wrong code is counted on the booking, a right one completes it
    split_ifs with hvalid
    · refine (road_of_leaves (leaves_sqlOrThrow ?_)).bind fun _ => trivial
      apply records_updateBooking
      exact fun _ => rfl
    · exact (road_completeBooking _ _).bind fun _ => road_of_leaves leaves_notify

theorem road_markNoShow (settings : RideSettings) (driverId bookingId : ℕ) (input : RideEventInput) :
    (markNoShow settings driverId bookingId input).Issues fun {_} c => RoadCall c := by
  refine (road_of_leaves (leaves_requireDriverBooking _ _)).bind fun found => ?_
  refine (road_assertForceAllowedOnRide _ _).bind fun _ => ?_
  refine (road_assertOrForce _ _ _).bind fun _ => ?_
  refine road_clock.bind fun now => ?_
  refine (road_assertOrForce _ _ _).bind fun _ => ?_
  exact (road_moveBooking _ _ _).bind fun _ => road_recordOperation _ _ _ _ _

theorem road_confirmDropoff (driverId bookingId : ℕ) (input : RideEventInput) :
    (confirmDropoff driverId bookingId input).Issues fun {_} c => RoadCall c := by
  refine (road_of_leaves (leaves_requireDriverBooking _ _)).bind fun found => ?_
  refine (road_assertForceAllowedOnRide _ _).bind fun _ => ?_
  refine (road_assertOrForce _ _ _).bind fun _ => ?_
  refine road_clock.bind fun now => ?_
  exact (road_moveBooking _ _ _).bind fun _ => road_recordOperation _ _ _ _ _

theorem road_riderConfirmDropoff (passengerId bookingId : ℕ) (forced : Bool) :
    (riderConfirmDropoff passengerId bookingId forced).Issues fun {_} c => RoadCall c := by
  refine (road_of_leaves (leaves_sql (leaves_findBookingWithRide _))).bind fun found => ?_
  cases found with
  | none => trivial
  | some found =>
    dsimp only
    split_ifs with hpassenger
    · trivial
    refine (road_assertForceAllowedOnRide _ _).bind fun _ => ?_
    refine (road_assertOrForce _ _ _).bind fun _ => ?_
    refine road_clock.bind fun now => ?_
    exact (road_completeBooking _ _).bind fun _ => road_of_leaves leaves_notify

theorem road_reportMissedPickup (passengerId bookingId : ℕ) (input : RideEventInput) :
    (reportMissedPickup passengerId bookingId input).Issues fun {_} c => RoadCall c := by
  refine Program.Issues.bind ?_ fun found => ?_
  · refine (road_of_leaves (leaves_sql (leaves_findBookingWithRide _))).bind fun found => ?_
    cases found with
    | none => trivial
    | some found =>
      dsimp only
      split_ifs <;> trivial
  · dsimp only
    split_ifs with hstatus
    · trivial
    · exact (road_moveBooking _ _ _).bind fun _ => road_of_leaves (records_recordEvent _)

/-! ## Queued actions -/

/-- Starting a ride moves its confirmed bookings, none of which has ended. -/
theorem road_awaitPickup (rideId : ℕ) :
    (sql (awaitPickup rideId)).Issues fun {_} c => RoadCall c := by
  refine (Program.issues_perform _).mpr (roadCall_of_keeps fun i w => ?_)
  obtain ⟨b, d, hbody, hexec⟩ | ⟨e, hexec⟩ := exec_transact (fun _ =>
    Program.command (awaitPickup rideId)) (fun _ => []) i w
  · rw [hexec]
    obtain ⟨-, rfl⟩ := Prod.mk.injEq .. ▸ Except.ok.inj hbody
    refine ⟨?_, fun e he => absurd he List.not_mem_nil⟩
    refine Table.rowsKeep_modifyWhere (fun _ _ => rfl) fun id r hr hholds hended => ?_
    rw [Table.holds, show (bookings.get w.db).get? id = some r from hr] at hholds
    obtain ⟨-, hconfirmed⟩ := Bool.and_eq_true _ _ ▸ hholds
    rw [beq_iff_eq.mp hconfirmed] at hended
    cases hended
  · rw [hexec]
    exact ⟨endedBookingsStay_refl w.db, fun e he => absurd he List.not_mem_nil⟩

theorem records_moveRide (rideId : ℕ) (status : RideStatus) (f : Ride → Ride) :
    (moveRide rideId status f).Leaves (recordsFrame WritesNoBooking) := by
  refine ((Program.issues_perform _).mpr ⟨fun _ => ?_, fun _ e he => ?_⟩).bind fun _ => trivial
  · exact (Program.issues_perform _).mpr fun _ _ => rfl
  · rw [List.mem_singleton.mp he]
    exact ⟨fun _ _ => nofun, fun _ => nofun⟩

theorem road_startRide (settings : RideSettings) (driverId rideId : ℕ) (input : RideEventInput) :
    (startRide settings driverId rideId input).Issues fun {_} c => RoadCall c := by
  refine (road_of_leaves (leaves_sql fun _ _ => rfl)).bind fun found => ?_
  cases found with
  | none => trivial
  | some found =>
    obtain ⟨ride, riding⟩ := found
    dsimp only
    split_ifs with hdriver
    · trivial
    refine (road_of_leaves ?_).bind fun _ => ?_
    · unfold assertStartable assertRideTransition
      split_ifs <;> trivial
    refine (road_of_leaves ?_).bind fun _ => ?_
    · unfold assertStartWindow
      split_ifs
      · trivial
      · refine leaves_clock.bind fun now => ?_
        split_ifs <;> trivial
    refine road_clock.bind fun now => ?_
    refine (road_of_leaves (records_moveRide _ _ _)).bind fun _ => ?_
    refine (road_awaitPickup _).bind fun _ => ?_
    refine (road_of_leaves (records_recordEvent _)).bind fun _ => ?_
    exact road_of_leaves (Program.Issues.forEach fun _ => leaves_notify)

theorem road_finishRide (driverId rideId : ℕ) (input : RideEventInput) :
    (finishRide driverId rideId input).Issues fun {_} c => RoadCall c := by
  refine (road_of_leaves (leaves_sql fun _ _ => rfl)).bind fun found => ?_
  cases found with
  | none => trivial
  | some found =>
    obtain ⟨ride, riding⟩ := found
    dsimp only
    split_ifs with hdriver hstatus
    · trivial
    · trivial
    refine (road_assertForceAllowedOnRide _ _).bind fun _ => ?_
    refine (road_assertOrForce _ _ _).bind fun _ => ?_
    refine (road_of_leaves (records_moveRide _ _ _)).bind fun _ => ?_
    refine (road_of_leaves (records_recordEvent _)).bind fun _ => ?_
    refine (road_of_leaves ?_).bind fun _ => road_of_leaves leaves_notify
    exact Program.Issues.forEach fun _ => records_handleForcedAction _

theorem records_requireOfflineActor (actorId : ℕ) (action : OfflineAction) :
    (requireOfflineActor actorId action).Leaves (recordsFrame WritesNoBooking) := by
  refine (leaves_sql (leaves_findUnique _)).bind fun ride => ?_
  refine Program.Issues.bind ?_ fun booking => ?_
  · unfold findOfflineBooking
    split
    · trivial
    · exact leaves_sql (leaves_findUnique _)
  · cases ride with
    | none => trivial
    | some ride =>
      dsimp only
      split_ifs
      · trivial
      · split <;> trivial

theorem road_replayAction (settings : RideSettings) (actorId : ℕ) (actorType : ActorType)
    (action : OfflineAction) :
    (replayAction settings actorId actorType action).Issues fun {_} c => RoadCall c := by
  unfold replayAction
  dsimp only
  split
  · exact (road_startRide _ _ _ _).bind fun _ => trivial
  · exact (road_finishRide _ _ _).bind fun _ => trivial
  · exact (road_driverArrived _ _ _).bind fun _ => trivial
  · exact (road_verifyPickupAndBoard _ _ _ _).bind fun _ => trivial
  · exact (road_confirmDropoff _ _ _).bind fun _ => trivial
  · trivial

theorem road_syncOfflineActions (settings : RideSettings) (actorId : ℕ)
    (actions : List OfflineAction) :
    (syncOfflineActions settings actorId actions).Issues fun {_} c => RoadCall c := by
  refine Program.Issues.forEach fun action => ?_
  refine (road_of_leaves (leaves_sql fun _ _ => rfl)).bind fun existing => ?_
  split_ifs with hexisting
  · trivial
  refine Program.Issues.tryCatch ?_ fun _ => trivial
  have hrecord : (recordOfflineAction actorId action).Leaves (recordsFrame WritesNoBooking) :=
    leaves_sqlOrThrow fun _ _ => rfl
  refine (road_of_leaves (records_requireOfflineActor _ _)).bind fun actorType => ?_
  split_ifs with hmanual
  · exact road_of_leaves hrecord
  refine Program.Issues.bind ?_ fun autoRepaired => ?_
  · exact (road_replayAction _ _ _ _).tryCatch fun _ => trivial
  · refine (road_of_leaves ?_).bind fun _ => road_of_leaves (leaves_createIssue (fun _ _ => rfl) _)
    unfold recordUnlessRepaired
    split_ifs
    · trivial
    · exact hrecord

/-! ## Every call -/

theorem EndingCall.mono {guard guard' : BookingStatus → Bool} {E : Event → Prop} {β : Type}
    {c : Call β} (hguard : ∀ status, guard status = true → guard' status = true)
    (h : EndingCall guard E c) : EndingCall guard' E c :=
  fun i w =>
    ⟨(h i w).1.mono fun _ _ _ hends => hends.imp id fun h => ⟨hguard _ h.1, h.2⟩, (h i w).2⟩

theorem writesNoBooking_paymentWritten (paymentId : ℕ) (read written : PaymentStatus) :
    WritesNoBooking (.paymentWritten paymentId read written) :=
  ⟨fun _ _ => nofun, fun _ => nofun⟩

theorem writesNoBooking_ended (bookingId : ℕ) (saw : Bool) :
    WritesNoBooking (.bookingEnded bookingId saw) :=
  ⟨fun _ _ => nofun, fun _ => nofun⟩

/-- Every step of the calls is a step of an operation, or one that ends a booking. -/
theorem opsConfined_road : Pool.OpsConfined roadPool fun op {_} c => RoadCommand op c := by
  intro op
  have hany : ∀ {guard : BookingStatus → Bool} {α : Type} {p : Service α},
      p.Issues (fun {_} c => EndingCall guard WritesNoBooking c) →
      p.Issues fun {_} c => EndingCall (fun _ => true) WritesNoBooking c :=
    fun h => h.mono fun _ hc => hc.mono fun _ _ => rfl
  -- the calls that end bookings write under their own guards
  cases op with
  | driverArrived driverId bookingId input =>
    exact (road_driverArrived driverId bookingId input).emits
  | verifyPickupAndBoard driverId bookingId otpHash input =>
    exact (road_verifyPickupAndBoard driverId bookingId otpHash input).emits
  | verifyPickupOtp driverId bookingId otpHash forced =>
    exact (road_verifyPickupOtp driverId bookingId otpHash forced).emits
  | verifyDropOtp driverId bookingId otpHash forced =>
    exact (road_verifyDropOtp driverId bookingId otpHash forced).emits
  | markNoShow settings driverId bookingId input =>
    exact (road_markNoShow settings driverId bookingId input).emits
  | confirmDropoff driverId bookingId input =>
    exact (road_confirmDropoff driverId bookingId input).emits
  | riderConfirmDropoff passengerId bookingId forced =>
    exact (road_riderConfirmDropoff passengerId bookingId forced).emits
  | reportMissedPickup passengerId bookingId input =>
    exact (road_reportMissedPickup passengerId bookingId input).emits
  | syncOfflineActions settings actorId actions =>
    exact (road_syncOfflineActions settings actorId actions).emits
  | cancelBooking passengerId bookingId =>
    exact (hany (ending_cancelBooking passengerId writesNoBooking_paymentWritten
      (writesNoBooking_ended bookingId))).emits
  | cancelAfterAccept settings driverId bookingId =>
    exact (hany (ending_cancelAfterAccept settings driverId writesNoBooking_paymentWritten
      (writesNoBooking_ended bookingId))).emits
  | handleExtendedDeadline settings bookingId =>
    exact (ending_handleExtendedDeadline settings (writesNoBooking_ended bookingId)).emits

end Steps

/-! ## A call that is not forced, by itself -/

/-- Whether the call is forced; actions that were queued are replayed by force. -/
def RoadOp.forced : RoadOp → Bool
  | .driverArrived _ _ input | .verifyPickupAndBoard _ _ _ input | .markNoShow _ _ _ input
  | .confirmDropoff _ _ input => input.forced
  | .verifyPickupOtp _ _ _ forced | .verifyDropOtp _ _ _ forced
  | .riderConfirmDropoff _ _ forced => forced
  | .syncOfflineActions .. => true
  | _ => false

/-- The status of a booking is not written. -/
def StatusUnwritten (id : ℕ) (x y : LoggedWorld) : Prop :=
  bookingStatuses y.state.db id = bookingStatuses x.state.db id

/-- The condition on a step, as far as it is about one booking. -/
def FindsLive (id : ℕ) (x : LoggedWorld) (events : List Event) : Prop :=
  ∀ status before, Written events id status → bookingStatuses x.state.db id = some before →
    before.ended = true → status = before

theorem findsBookingLive_iff {x : LoggedWorld} {events : List Event} :
    FindsBookingLive x.state.db events ↔ ∀ id, FindsLive id x events := Iff.rfl

section Alone

variable {id bookingId tid : ℕ} {x : LoggedWorld} {α β : Type} {A : LoggedWorld → Prop}

/-- Each step of what is left of a call meets the condition about a booking whose status is not
written between its steps. -/
abbrev FindsLiveAlone (id tid : ℕ) (Q : Except Err α → LoggedWorld → Prop) :
    Service α → LoggedWorld → Prop :=
  Program.Undisturbed roadPool (StatusUnwritten id) (FindsLive id) tid Q

/-- If the call is about this booking, it has not ended. -/
def LiveIf (id bookingId : ℕ) (x : LoggedWorld) : Prop :=
  bookingId = id → ∀ status, bookingStatuses x.state.db id = some status → status.ended = false

/-- A part that writes no booking. -/
theorem alone_besides {p : Service α} (h : p.Leaves (recordsFrame WritesNoBooking))
    (hA : ∀ y z, A y → StatusUnwritten id y z → A z) (hx : A x) :
    FindsLiveAlone id tid (fun _ => A) p x := by
  refine undisturbed_leaves h (fun y es hevents status _ hwritten => ?_)
    (fun y es s _ hdb hy => hA y _ hy ?_) hA hx
  · exact absurd hwritten (not_written hevents id status)
  · show bookingStatuses s.db id = bookingStatuses y.state.db id
    rw [bookingStatuses_eq, bookingStatuses_eq]
    rw [show bookingRecords s.db = bookingRecords y.state.db from hdb]

/-- The rest of a call. -/
theorem alone_rest {p : Service α} (h : p.Leaves (recordsFrame WritesNoBooking)) :
    FindsLiveAlone id tid (fun _ _ => True) p x :=
  alone_besides (A := fun _ => True) h (fun _ _ _ _ => trivial) trivial

/-- A part between the read and the write. -/
theorem alone_between {p : Service β} {f : β → Service α}
    (h : p.Leaves (recordsFrame WritesNoBooking)) (hx : LiveIf id bookingId x)
    (hf : ∀ b y, LiveIf id bookingId y → FindsLiveAlone id tid (fun _ _ => True) (f b) y) :
    FindsLiveAlone id tid (fun _ _ => True) (p.bind f) x := by
  refine .sequence (alone_besides h ?_ hx) (fun _ _ _ => trivial) hf
  intro y z hy hz hid status hstatus
  exact hy hid status (hz ▸ hstatus)

/-- A check of a call that is not forced. -/
theorem alone_assertOrForce {violated : Bool} {code : String} {f : Unit → Service α}
    (h : violated = false → FindsLiveAlone id tid (fun _ _ => True) (f ()) x) :
    FindsLiveAlone id tid (fun _ _ => True) ((assertOrForce false violated code).bind f) x := by
  cases violated with
  | true => trivial
  | false => exact h rfl

/-- **The write** of a booking that is live, and the rest of the call. -/
theorem alone_write {f : Ctx → Booking → Booking} {events : List Event}
    {rest : Booking → Service α} (hx : LiveIf id bookingId x)
    (hevents : ∀ id status, Written events id status → id = bookingId)
    (hrest : ∀ b, (rest b).Leaves (recordsFrame WritesNoBooking)) :
    FindsLiveAlone id tid (fun _ _ => True) ((Program.perform (.transact
      (fun ctx => Program.perform (update bookings bookingId (f ctx))) fun _ => events)).bind rest)
      x := by
  refine .sequence (A := fun _ => True) (.perform fun y hy i r es s hexec => ⟨?_, trivial⟩)
    (fun _ _ _ => trivial) fun b y _ => alone_rest (hrest b)
  obtain ⟨rfl, rfl, rfl⟩ := exec_eq hexec
  intro status found hwritten hfound hended
  have hreported : Written events id status := by
    obtain ⟨b, d, -, heq⟩ | ⟨e, heq⟩ := exec_transact (fun ctx =>
      Program.perform (update bookings bookingId (f ctx))) (fun _ => events) i y.state
    · rwa [heq] at hwritten
    · rw [heq] at hwritten
      exact absurd hwritten (not_written (fun e he => absurd he List.not_mem_nil) id status)
  have hlive := hx (hevents id status hreported).symm found (hy.symm.trans hfound)
  rw [hlive] at hended
  cases hended

theorem alone_moveBooking {status : BookingStatus} {f : Booking → Booking} {rest : Service α}
    (hx : LiveIf id bookingId x) (hrest : rest.Leaves (recordsFrame WritesNoBooking)) :
    FindsLiveAlone id tid (fun _ _ => True)
      ((moveBooking bookingId status f).bind fun _ => rest) x := by
  unfold moveBooking
  rw [Program.bind_eq, Program.bind_assoc]
  refine alone_write hx (fun id status' hwritten => ?_) fun _ => hrest
  simp only [Written, List.mem_singleton, reduceCtorEq, and_false, or_false] at hwritten
  exact (Event.bookingMoved.injEq .. ▸ hwritten).1

theorem alone_completeBooking {f : Ctx → Booking → Booking} {rest : Service α}
    (hx : LiveIf id bookingId x) (hrest : rest.Leaves (recordsFrame WritesNoBooking)) :
    FindsLiveAlone id tid (fun _ _ => True) ((completeBooking bookingId f).bind fun _ => rest) x := by
  unfold completeBooking
  rw [Program.bind_eq, Program.bind_assoc]
  refine alone_write hx (fun id status' hwritten => ?_) fun _ => hrest
  simp only [Written, List.mem_singleton, reduceCtorEq, false_or] at hwritten
  exact Event.tripCompleted.injEq .. ▸ hwritten.2

/-- The booking that a call has read is there as it has read it. -/
def HasReadBooking (bookingId : ℕ) (booking : Booking) (x : LoggedWorld) : Prop :=
  bookingStatuses x.state.db bookingId = some booking.status

/-- The read of the booking that a call is about. -/
theorem alone_findBooking :
    FindsLiveAlone id tid (fun r y => ∀ booking ride, r = .ok (some (booking, ride)) →
      HasReadBooking bookingId booking y) (sql (findBookingWithRide bookingId)) x := by
  refine undisturbed_sql (fun _ => rfl) (fun y status _ hwritten => ?_)
    (fun y _ booking ride hfound => ?_) (fun e y booking ride hfound => by cases hfound)
  · exact absurd hwritten (not_written (fun e he => absurd he List.not_mem_nil) id status)
  · exact Table.viewed_of_get? (findBookingWithRide_eq_some.mp (Except.ok.inj hfound)).1

theorem alone_requireDriverBooking {driverId : ℕ} :
    FindsLiveAlone id tid (fun r y => ∀ booking ride, r = .ok (booking, ride) →
      HasReadBooking bookingId booking y) (requireDriverBooking driverId bookingId) x := by
  refine .bind (alone_findBooking.mono ?_)
  rintro (e | found) y hy
  · exact fun _ _ h => by cases h
  cases found with
  | none => exact fun _ _ h => by cases h
  | some found =>
    obtain ⟨booking, ride⟩ := found
    dsimp only
    split_ifs with hdriver
    · exact fun _ _ h => by cases h
    · rintro booking' ride' hread
      obtain ⟨rfl, rfl⟩ := Prod.mk.injEq .. ▸ Except.ok.inj hread
      exact hy booking ride rfl

theorem HasReadBooking.liveIf {booking : Booking} (h : HasReadBooking bookingId booking x)
    (hlive : booking.status.ended = false) : LiveIf id bookingId x := by
  rintro rfl status hstatus
  rw [Option.some.inj (hstatus.symm.trans h)]
  exact hlive

/-! ### The operations -/

variable {driverId passengerId actionId : ℕ} {otpHash : Option String} {settings : RideSettings}

/-- A status that has been checked to be one that has not ended. -/
theorem BookingStatus.not_ended_of_check {status a : BookingStatus} (ha : a.ended = false)
    (h : (status != a) = false) : status.ended = false := by
  rwa [bne_eq_false_iff_eq.mp h]

theorem BookingStatus.not_ended_of_checks {status a b : BookingStatus} (ha : a.ended = false)
    (hb : b.ended = false) (h : (status != a && status != b) = false) : status.ended = false := by
  rw [Bool.and_eq_false_iff, bne_eq_false_iff_eq, bne_eq_false_iff_eq] at h
  rcases h with rfl | rfl
  · exact ha
  · exact hb

theorem alone_driverArrived :
    FindsLiveAlone id tid (fun _ _ => True) (driverArrived driverId bookingId { actionId }) x := by
  refine .bind (alone_requireDriverBooking.mono ?_)
  rintro (e | ⟨booking, ride⟩) y hread
  · trivial
  dsimp only
  split_ifs with hride
  · trivial
  refine alone_assertOrForce fun hstatus => ?_
  have hlive : LiveIf id bookingId y := (hread booking ride rfl).liveIf
    (BookingStatus.not_ended_of_check rfl hstatus)
  refine alone_between leaves_clock hlive fun now z hz => ?_
  exact alone_moveBooking hz (records_recordOperation _ _ _ _ _)

theorem alone_verifyPickupAndBoard :
    FindsLiveAlone id tid (fun _ _ => True)
      (verifyPickupAndBoard driverId bookingId otpHash { actionId }) x := by
  refine .bind (alone_requireDriverBooking.mono ?_)
  rintro (e | ⟨booking, ride⟩) y hread
  · trivial
  refine alone_assertOrForce fun hstatus => alone_assertOrForce fun _ => ?_
  have hlive : LiveIf id bookingId y := (hread booking ride rfl).liveIf
    (BookingStatus.not_ended_of_checks rfl rfl hstatus)
  refine alone_between leaves_clock hlive fun now z hz => ?_
  refine alone_assertOrForce fun _ => alone_assertOrForce fun _ => ?_
  refine alone_between (records_assertOtpValid _ _ _) hz fun _ z hz => ?_
  exact alone_moveBooking hz (records_recordOperation _ _ _ _ _)

theorem alone_markNoShow :
    FindsLiveAlone id tid (fun _ _ => True) (markNoShow settings driverId bookingId { actionId })
      x := by
  refine .bind (alone_requireDriverBooking.mono ?_)
  rintro (e | ⟨booking, ride⟩) y hread
  · trivial
  refine alone_assertOrForce fun hstatus => ?_
  have hlive : LiveIf id bookingId y := (hread booking ride rfl).liveIf
    (BookingStatus.not_ended_of_checks rfl rfl hstatus)
  refine alone_between leaves_clock hlive fun now z hz => alone_assertOrForce fun _ => ?_
  exact alone_moveBooking hz (records_recordOperation _ _ _ _ _)

theorem alone_confirmDropoff :
    FindsLiveAlone id tid (fun _ _ => True) (confirmDropoff driverId bookingId { actionId }) x := by
  refine .bind (alone_requireDriverBooking.mono ?_)
  rintro (e | ⟨booking, ride⟩) y hread
  · trivial
  refine alone_assertOrForce fun hstatus => ?_
  have hlive : LiveIf id bookingId y := (hread booking ride rfl).liveIf
    (BookingStatus.not_ended_of_checks rfl rfl hstatus)
  refine alone_between leaves_clock hlive fun now z hz => ?_
  exact alone_moveBooking hz (records_recordOperation _ _ _ _ _)

theorem alone_verifyPickupOtp :
    FindsLiveAlone id tid (fun _ _ => True) (verifyPickupOtp driverId bookingId otpHash false) x := by
  refine .bind (alone_requireDriverBooking.mono ?_)
  rintro (e | ⟨booking, ride⟩) y hread
  · trivial
  refine alone_assertOrForce fun hstatus => alone_assertOrForce fun _ => ?_
  have hlive : LiveIf id bookingId y := (hread booking ride rfl).liveIf
    (BookingStatus.not_ended_of_check rfl hstatus)
  refine alone_between leaves_clock hlive fun now z hz => ?_
  refine alone_assertOrForce fun _ => alone_assertOrForce fun _ => ?_
  refine alone_between (records_assertOtpValid _ _ _) hz fun _ z hz => ?_
  refine alone_between leaves_clock hz fun verifiedAt z hz => alone_moveBooking hz ?_
  exact leaves_notify.bind fun _ => trivial

theorem alone_verifyDropOtp :
    FindsLiveAlone id tid (fun _ _ => True) (verifyDropOtp driverId bookingId otpHash false) x := by
  refine .bind (alone_findBooking.mono ?_)
  rintro (e | found) y hread
  · trivial
  cases found with
  | none => trivial
  | some found =>
    obtain ⟨booking, ride⟩ := found
    dsimp only
    by_cases hdriver : ride.driverId ≠ driverId
    · rw [if_pos hdriver]
      trivial
    rw [if_neg hdriver]
    -- the check of the status: the booking that has been read had not ended
    refine alone_assertOrForce fun hstatus => alone_assertOrForce fun _ => ?_
    have hlive : LiveIf id bookingId y := (hread booking ride rfl).liveIf
      (BookingStatus.not_ended_of_check rfl hstatus)
    refine alone_between leaves_clock hlive fun now z hz => ?_
    refine alone_assertOrForce fun _ => alone_assertOrForce fun _ => ?_
    -- a wrong code writes no status
    split_ifs with hvalid
    · refine alone_rest ((leaves_sqlOrThrow ?_).bind fun _ => trivial)
      apply records_updateBooking
      exact fun _ => rfl
    · exact alone_completeBooking hz leaves_notify

theorem alone_riderConfirmDropoff :
    FindsLiveAlone id tid (fun _ _ => True) (riderConfirmDropoff passengerId bookingId false) x := by
  refine .bind (alone_findBooking.mono ?_)
  rintro (e | found) y hread
  · trivial
  cases found with
  | none => trivial
  | some found =>
    obtain ⟨booking, ride⟩ := found
    dsimp only
    split_ifs with hpassenger
    · trivial
    -- the check of the status
    refine alone_assertOrForce fun hstatus => ?_
    have hlive : LiveIf id bookingId y := (hread booking ride rfl).liveIf
      (BookingStatus.not_ended_of_check rfl hstatus)
    refine alone_between leaves_clock hlive fun now z hz => ?_
    exact alone_completeBooking hz leaves_notify

theorem alone_reportMissedPickup {input : RideEventInput} :
    FindsLiveAlone id tid (fun _ _ => True) (reportMissedPickup passengerId bookingId input) x := by
  refine .bind (.bind (alone_findBooking.mono ?_))
  rintro (e | found) y hread
  · trivial
  cases found with
  | none => trivial
  | some found =>
    obtain ⟨booking, ride⟩ := found
    dsimp only
    split_ifs with hpassenger
    · trivial
    -- this call makes its check whether or not it is forced
    dsimp only [Program.pure_eq, Program.Undisturbed]
    split_ifs with hstatus
    · trivial
    · have hlive : LiveIf id bookingId y := (hread booking ride rfl).liveIf (by
        rcases not_and_or.mp hstatus with h | h <;> rw [not_not.mp h] <;> rfl)
      exact alone_moveBooking hlive (records_recordEvent _)

/-- A call that ends bookings writes none by its id. -/
theorem alone_ending {guard : BookingStatus → Bool} {p : Service α}
    (h : p.Issues fun {_} c => EndingCall guard WritesNoBooking c) :
    FindsLiveAlone id tid (fun _ _ => True) p x := by
  refine Program.Undisturbed.issues (A := fun _ => True) (fun _ _ _ _ => trivial)
    (h.mono fun c hc y _ i b es s hexec => ⟨fun status _ hwritten => ?_, trivial⟩) trivial
  obtain ⟨rfl, rfl, rfl⟩ := exec_eq hexec
  exact absurd hwritten (not_written (hc i y.state).2 id status)

/-- **A call that is not forced meets the condition by its own check** of the status that it has read,
about any booking whose status is not written between its steps. -/
theorem unforced_finds_live (op : RoadOp) (hforced : op.forced = false) :
    FindsLiveAlone id tid (fun _ _ => True) op.program x := by
  cases op with
  | driverArrived driverId bookingId input =>
    obtain ⟨actionId, forced⟩ := input
    obtain rfl : forced = false := hforced
    exact alone_driverArrived
  | verifyPickupAndBoard driverId bookingId otpHash input =>
    obtain ⟨actionId, forced⟩ := input
    obtain rfl : forced = false := hforced
    exact alone_verifyPickupAndBoard
  | verifyPickupOtp driverId bookingId otpHash forced =>
    obtain rfl : forced = false := hforced
    exact alone_verifyPickupOtp
  | verifyDropOtp driverId bookingId otpHash forced =>
    obtain rfl : forced = false := hforced
    exact alone_verifyDropOtp
  | markNoShow settings driverId bookingId input =>
    obtain ⟨actionId, forced⟩ := input
    obtain rfl : forced = false := hforced
    exact alone_markNoShow
  | confirmDropoff driverId bookingId input =>
    obtain ⟨actionId, forced⟩ := input
    obtain rfl : forced = false := hforced
    exact alone_confirmDropoff
  | riderConfirmDropoff passengerId bookingId forced =>
    obtain rfl : forced = false := hforced
    exact alone_riderConfirmDropoff
  | reportMissedPickup passengerId bookingId input => exact alone_reportMissedPickup
  -- queued actions are replayed by force
  | syncOfflineActions settings actorId actions => cases hforced
  | cancelBooking passengerId bookingId =>
    exact alone_ending (ending_cancelBooking passengerId writesNoBooking_paymentWritten
      (writesNoBooking_ended bookingId))
  | cancelAfterAccept settings driverId bookingId =>
    exact alone_ending (ending_cancelAfterAccept settings driverId writesNoBooking_paymentWritten
      (writesNoBooking_ended bookingId))
  | handleExtendedDeadline settings bookingId =>
    exact alone_ending (ending_handleExtendedDeadline settings (writesNoBooking_ended bookingId))

end Alone

/-- So does the call in a history in which no other move writes the status of the booking. -/
theorem unforced_call_finds_live {p : Pool Call Err Event World RoadOp} {id tid : ℕ} {op : RoadOp}
    (hforced : op.forced = false) (hthread : p.threads[tid]? = some (op, op.program))
    {moves : List (Move RoadOp Reply World)}
    (hothers : History.Each (Pool.step roadPool) (fun p move => (∀ i, move ≠ .step tid i) →
      StatusUnwritten id p.now (p.step roadPool move).now) p moves) :
    History.Each (Pool.step roadPool)
      (Pool.Meets roadPool (fun _ t x _ es => t = tid → FindsLive id x es) fun _ _ => True) p moves := by
  have halone : FindsLiveAlone id tid (fun _ _ => True) op.program p.now :=
    unforced_finds_live op hforced
  exact Program.Undisturbed.meets (R := StatusUnwritten id) (fun _ => rfl)
    (fun _ _ _ h h' => h'.trans h) hthread halone hothers

/-! ## Whole runs -/

section Runs

/-- A booking that ended otherwise is still ended otherwise. -/
def BookingStatus.StaysUncompleted (before after : BookingStatus) : Prop :=
  before.ended = true → before ≠ .completed → after.ended = true ∧ after ≠ .completed

theorem BookingStatus.StaysUncompleted.trans {before after later : BookingStatus}
    (h : before.StaysUncompleted after) (h' : after.StaysUncompleted later) :
    before.StaysUncompleted later := by
  intro hended hother
  obtain ⟨hended', hother'⟩ := h hended hother
  exact h' hended' hother'

/-- A call that ends bookings reports no write, and completes nothing. -/
theorem EndingCall.staysUncompleted {guard : BookingStatus → Bool} {E : Event → Prop} {β : Type}
    {c : Call β} (h : EndingCall guard E c) (i : Reply) (w : World) :
    RowsKeep BookingStatus.StaysUncompleted (bookingStatuses w.db)
      (bookingStatuses (c.exec i w).2.2.db) := by
  rw [bookingStatuses_eq, bookingStatuses_eq]
  refine RowsKeep.map ((h i w).1.keep ?_)
  rintro id before after (rfl | ⟨-, hcancelled, -⟩)
  · exact fun hended hother => ⟨hended, hother⟩
  · rw [hcancelled]
    exact fun _ _ => ⟨rfl, nofun⟩

/-- The pool before any call has been started. -/
def roadStart (w : World) : Pool Call Err Event World RoadOp := { now := { state := w } }

/-- **Ended bookings stay ended**: no step of a ride operation changes one, and none is completed
between any two points of a run, exactly if no operation that writes a booking finds that it has
ended, but in the status that it writes. -/
theorem ended_bookings_stay_iff (w : World) (moves : List (Move RoadOp Reply World)) :
    (History.Each (Pool.step roadPool)
        (Pool.Relates roadPool fun op x y =>
          op.isRideOperation = true → EndedBookingsStay x.state.db y.state.db) (roadStart w) moves ∧
      ∀ earlier between rest, moves = earlier ++ between ++ rest →
        NeverCompleted
          (History.after (Pool.step roadPool) (roadStart w) earlier).now.state.db
          (History.after (Pool.step roadPool) (roadStart w) (earlier ++ between)).now.state.db) ↔
      History.Each (Pool.step roadPool) (Pool.Meets roadPool RoadStep fun _ _ => True) (roadStart w)
        moves := by
  have hconfined : Pool.Confined roadPool (fun op {_} c => RoadCommand op c) (roadStart w) :=
    fun t ht => absurd ht List.not_mem_nil
  have hsteps : History.Each (Pool.step roadPool)
      (Pool.Relates roadPool fun op x y =>
        op.isRideOperation = true → EndedBookingsStay x.state.db y.state.db) (roadStart w) moves ↔
      History.Each (Pool.step roadPool) (Pool.Meets roadPool RoadStep fun _ _ => True) (roadStart w)
        moves := by
    refine Pool.relates_iff_each_of_confined opsConfined_road
      (fun op x _ => endedBookingsStay_refl x.state.db) ?_ hconfined moves
    intro op tid β c i x b es s hcall hexec
    obtain ⟨rfl, rfl, rfl⟩ := exec_eq hexec
    unfold RoadCommand at hcall
    split_ifs at hcall with hride
    · constructor
      · intro hstay id status before hwritten hbefore
        exact (hcall i x.state).announced (hstay hride) hwritten hbefore
      · intro hlive _
        exact (hcall i x.state).keeps hlive
    · refine iff_of_true (fun h => absurd h hride) fun id status before hwritten => ?_
      exact absurd hwritten (not_written (hcall i x.state).2 id status)
  refine ⟨fun h => hsteps.mp h.1, fun h => ⟨hsteps.mpr h, fun earlier between rest hmoves => ?_⟩⟩
  -- every step keeps the finer relation, which is transitive
  refine (History.Each.between (R := fun p q : Pool Call Err Event World RoadOp =>
    RowsKeep BookingStatus.StaysUncompleted (bookingStatuses p.now.state.db)
      (bookingStatuses q.now.state.db))
    (fun p => .refl (fun _ hended hother => ⟨hended, hother⟩) _)
    (fun p q r h h' => h.trans (fun _ _ _ => .trans) h') ?_ earlier between rest hmoves).mono
    fun _ _ h hended hother => (h hended hother).2
  refine Pool.each_of_confined (R := fun x y => RowsKeep BookingStatus.StaysUncompleted
    (bookingStatuses x.state.db) (bookingStatuses y.state.db)) opsConfined_road
    (fun x => .refl (fun _ hended hother => ⟨hended, hother⟩) _) ?_ ?_ hconfined h
  · intro op tid β c i x b es s hcall hexec hlive
    obtain ⟨rfl, rfl, rfl⟩ := exec_eq hexec
    unfold RoadCommand at hcall
    split_ifs at hcall with hride
    · refine ((hcall i x.state).keeps hlive).mono fun before after hsame hended hother => ?_
      rw [hsame hended]
      exact ⟨hended, hother⟩
    · exact hcall.staysUncompleted i x.state
  · intro w' x _
    exact .refl (fun _ hended hother => ⟨hended, hother⟩) _

end Runs

/-! ## A run -/

section Run

/-- A ride of driver 9 that is under way, with a booking that its rider has cancelled and that has
been refunded. -/
private def refundedWorld : World where
  db := {
    rides := ⟨[(1, {
      driverId := 9
      totalSeats := 3
      availableSeats := 3
      status := .inProgress
      departureAt := 100 })], by simp⟩
    bookings := ⟨[(7, {
      rideId := 1
      passengerId := 2
      seatsBooked := 1
      totalPrice := 1020
      status := .cancelled
      cancelledByRole := some .passenger
      stripePaymentIntentId := some 3
      paymentCapturedAt := some 50
      refundedAt := some 60 })], by simp⟩ }
  now := 500

/-- The driver forces the drop-off. -/
private def forcedDropoff : List (Move RoadOp Reply World) :=
  [.start (.verifyDropOtp 9 7 none true), .step 0 .ok, .step 0 .ok, .step 0 .ok]

/-- **A booking that was cancelled and refunded is completed** by a forced drop-off. -/
theorem refunded_booking_completed :
    ¬ ∀ earlier between rest, forcedDropoff = earlier ++ between ++ rest →
      NeverCompleted
        (History.after (Pool.step roadPool) (roadStart refundedWorld) earlier).now.state.db
        (History.after (Pool.step roadPool) (roadStart refundedWorld)
          (earlier ++ between)).now.state.db := by
  intro h
  have hcompleted : bookingStatuses (History.after (Pool.step roadPool) (roadStart refundedWorld)
      forcedDropoff).now.state.db 7 = some .completed := rfl
  obtain ⟨after, hafter, hother⟩ := h [] forcedDropoff [] rfl 7 .cancelled rfl
  obtain rfl := Option.some.inj (hcompleted.symm.trans hafter)
  exact hother rfl nofun rfl

end Run

end Deliivo
