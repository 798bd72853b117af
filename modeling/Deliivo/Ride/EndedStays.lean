import Deliivo.Booking.Frame
import Deliivo.Domain.Preserves
import Deliivo.Domain.Undisturbed
import Deliivo.Payment.Frame
import Deliivo.Ride.Cancel
import Deliivo.Ride.Frame
import Deliivo.Store.RowView
import Deliivo.Store.UniqueIndex

/-!
# An ended ride stays ended

The sweeps close and promote a ride where it is still unstarted. The driver's calls and the dispute
that support opens read the ride first and write it by its id: what another call has made of the ride
in between is lost, and a cancelled ride is under way again.

**Ended rides stay ended between any two points of a run exactly if no call that writes a ride by its
id finds it ended by then**, but for a completed ride that becomes disputed and a status that is
written again (`ended_rides_stay_iff`).

## Main definitions

* `RideStatus.Stays`: the property of two statuses that a ride has had
* `RideOp`, `ridePool`: the calls, next to each other
* `FindsRideLive`: the condition on their steps
* `RideUnwritten`, `RideAlone`: a call while nobody else writes the status of a ride

## Main results

* `RideCall`: what a step of the calls can do to the statuses, and `opsConfined_ride`
* `call_finds_ride_live`: a call meets the condition by its own check of the status
* `ended_rides_stay_iff`
-/

namespace Deliivo

open Program (Logged Pool Move)

/-! ## The property -/

/-- What the status of a ride may be later. -/
def RideStatus.Stays (before after : RideStatus) : Prop :=
  match before with
  | .cancelled | .expired => after = before
  | .completed => after ≠ .inProgress ∧ after ≠ .readyToStart ∧ after ≠ .cancelled
  | .disputed =>
    after ≠ .inProgress ∧ after ≠ .readyToStart ∧ after ≠ .cancelled ∧ after ≠ .completed
  | _ => True

instance (before after : RideStatus) : Decidable (before.Stays after) := by
  cases before <;> unfold RideStatus.Stays <;> infer_instance

/-- What the calls may make of a ride: nothing of one that has ended, but a dispute of a completed
one. -/
def RideStatus.MayBecome (before after : RideStatus) : Prop :=
  match before with
  | .cancelled | .expired | .disputed => after = before
  | .completed => after = .completed ∨ after = .disputed
  | _ => True

/-- The statuses of the rides. -/
def rideStatuses (d : Db) : ℕ → Option RideStatus := d.rides.viewed Ride.status

/-- No ride has left its end for anything that it may not become. -/
def EndedRidesStay (d d' : Db) : Prop :=
  RowsKeep RideStatus.Stays (rideStatuses d) (rideStatuses d')

/-! ## The calls -/

inductive RideOp
  | startRide (settings : RideSettings) (driverId rideId : ℕ) (input : RideEventInput)
  | startPublishedRide (settings : RideSettings) (driverId rideId : ℕ)
  | completeRide (driverId rideId : ℕ)
  | finishRide (driverId rideId : ℕ) (input : RideEventInput)
  | cancelRide (settings : Settings) (driverId rideId : ℕ)
  | closeOverdueUnstartedRide (rideId : ℕ) (ride : Ride) (rideBookings : List (ℕ × Booking))
  | runRideOverdueCheck (departures : Departures)
  | reconcileDriverRideListStatuses (departures : Departures) (driverId : ℕ)
  | adminOpenBookingDispute (bookingId adminId : ℕ)

def RideOp.program : RideOp → Service Unit
  | .startRide settings driverId rideId input => Deliivo.startRide settings driverId rideId input
  | .startPublishedRide settings driverId rideId =>
    Deliivo.startPublishedRide settings driverId rideId
  | .completeRide driverId rideId => Deliivo.completeRide driverId rideId
  | .finishRide driverId rideId input => Deliivo.finishRide driverId rideId input
  | .cancelRide settings driverId rideId => Deliivo.cancelRide settings driverId rideId
  | .closeOverdueUnstartedRide rideId ride rideBookings =>
    Deliivo.closeOverdueUnstartedRide rideId ride rideBookings
  | .runRideOverdueCheck departures => Deliivo.runRideOverdueCheck departures
  | .reconcileDriverRideListStatuses departures driverId =>
    Deliivo.reconcileDriverRideListStatuses departures driverId
  | .adminOpenBookingDispute bookingId adminId => Deliivo.adminOpenBookingDispute bookingId adminId

/-- Anything else that goes on: all of the world but the rides. -/
def besidesRides (w' w : World) : World :=
  { w' with db := { w'.db with rides := w.db.rides } }

/-- The calls, next to each other. -/
abbrev ridePool := servicePool RideOp.program besidesRides

/-- What a step is to meet: a call that writes a ride by its id finds it as it may be written. -/
def FindsRideLive (d : Db) (events : List Event) : Prop :=
  ∀ id status before, .rideMoved id status ∈ events → rideStatuses d id = some before →
    before.MayBecome status

/-- The condition on the steps of the calls. -/
def RideStep (_op : RideOp) (_tid : ℕ) (x : LoggedWorld) (_reply : Reply) (events : List Event) :
    Prop := FindsRideLive x.state.db events

/-! ## Statuses -/

section Statuses

variable {before after later : RideStatus}

theorem RideStatus.MayBecome.refl (status : RideStatus) : status.MayBecome status := by
  cases status <;> simp [MayBecome]

theorem RideStatus.MayBecome.trans (h : before.MayBecome after) (h' : after.MayBecome later) :
    before.MayBecome later := by
  cases before with
  | cancelled | expired | disputed =>
    obtain rfl : after = _ := h
    exact h'
  | completed =>
    rcases h with rfl | rfl
    · exact h'
    · exact Or.inr h'
  | _ => trivial

theorem RideStatus.MayBecome.stays (h : before.MayBecome after) : before.Stays after := by
  cases before with
  | cancelled | expired => exact h
  | disputed =>
    obtain rfl : after = _ := h
    simp [Stays]
  | completed => rcases h with rfl | rfl <;> simp [Stays]
  | _ => trivial

/-- A ride that has not ended may become anything. -/
theorem RideStatus.MayBecome.of_unstarted (h : before.unstarted = true) : before.MayBecome after := by
  cases before <;> trivial

/-- The statuses that rides are written with by their id. -/
def RideStatus.written : RideStatus → Bool
  | .inProgress | .completed | .cancelled | .disputed => true
  | _ => false

/-- Of these, an ended ride may become what it may later be. -/
theorem RideStatus.Stays.mayBecome (h : before.Stays after) (hafter : after.written = true) :
    before.MayBecome after := by
  cases before with
  | cancelled | expired => exact h
  | completed => cases after <;> simp_all [Stays, MayBecome, written]
  | disputed => cases after <;> simp_all [Stays, MayBecome, written]
  | _ => trivial

end Statuses

/-! ## Single steps -/

section Steps

/-- What a step can do to the statuses: it makes of a ride what the ride may become, and reports
nothing of it, or writes the one status that it reports. -/
def RideOutcome (d : Db) (events : List Event) (d' : Db) : Prop :=
  RowsWritten RideStatus.MayBecome (fun id status => .rideMoved id status ∈ events)
    (rideStatuses d) (rideStatuses d') ∧
  ∀ id status, .rideMoved id status ∈ events → status.written = true

/-- A step of a call has such an outcome. -/
def RideCall {β : Type} (c : Call β) : Prop :=
  ∀ i w, RideOutcome w.db (c.exec i w).2.1 (c.exec i w).2.2.db

/-- A step of a sweep makes of a ride what the ride may become, and reports nothing of it. -/
def SweepCall {β : Type} (c : Call β) : Prop :=
  ∀ i w, RowsKeep RideStatus.MayBecome (rideStatuses w.db) (rideStatuses (c.exec i w).2.2.db) ∧
    ∀ id status, .rideMoved id status ∉ (c.exec i w).2.1

variable {d d' : Db} {events : List Event}

theorem RideOutcome.keeps (h : RideOutcome d events d') (hlive : FindsRideLive d events) :
    RowsKeep RideStatus.MayBecome (rideStatuses d) (rideStatuses d') := h.1.keeps hlive

/-- Such a step leaves ended rides ended exactly if it finds live the ride that it writes. -/
theorem RideOutcome.findsLive_iff (h : RideOutcome d events d') :
    EndedRidesStay d d' ↔ FindsRideLive d events := by
  constructor
  · intro hstays id status before hmoved hbefore
    exact (h.1.announced hstays hmoved hbefore).mayBecome (h.2 id status hmoved)
  · intro hlive
    exact (h.keeps hlive).mono fun _ _ hmay => hmay.stays

/-- A step that moves no ride by its id. -/
theorem RideOutcome.of_keeps
    (h : RowsKeep RideStatus.MayBecome (rideStatuses d) (rideStatuses d'))
    (hnone : ∀ id status, .rideMoved id status ∉ events) : RideOutcome d events d' :=
  ⟨h.written hnone, fun id status hmoved => absurd hmoved (hnone id status)⟩

theorem RideOutcome.same (hsame : rideStatuses d' = rideStatuses d)
    (hnone : ∀ id status, .rideMoved id status ∉ events) : RideOutcome d events d' := by
  refine .of_keeps ?_ hnone
  rw [hsame]
  exact .refl RideStatus.MayBecome.refl _

/-- What a step may do that leaves the statuses alone. -/
def rideFrame : Frame where
  db := rideStatuses
  stripe _ := ()
  events e := ∀ id status, e ≠ .rideMoved id status

theorem SweepCall.rideCall {β : Type} {c : Call β} (h : SweepCall c) : RideCall c :=
  fun i w => .of_keeps (h i w).1 (h i w).2

theorem sweepCall_of_leaves {β : Type} {c : Call β} (h : c.Leaves rideFrame) : SweepCall c := by
  intro i w
  obtain ⟨hdb, -, hevents⟩ := h.exec i w
  refine ⟨?_, fun id status he => hevents _ he id status rfl⟩
  rw [show rideStatuses (c.exec i w).2.2.db = rideStatuses w.db from hdb]
  exact .refl RideStatus.MayBecome.refl _

theorem sweep_of_leaves {α : Type} {p : Service α} (h : p.Leaves rideFrame) :
    p.Issues fun {_} c => SweepCall c :=
  h.mono fun _ hc => sweepCall_of_leaves hc

theorem ride_of_sweep {α : Type} {p : Service α} (h : p.Issues fun {_} c => SweepCall c) :
    p.Issues fun {_} c => RideCall c :=
  h.mono fun _ hc => hc.rideCall

theorem ride_of_leaves {α : Type} {p : Service α} (h : p.Leaves rideFrame) :
    p.Issues fun {_} c => RideCall c :=
  ride_of_sweep (sweep_of_leaves h)

theorem outcome_nil (d : Db) : RideOutcome d [] d := .same rfl fun _ _ h => by cases h

theorem rideCall_transact {β : Type} {body : Ctx → Tx β} {report : β → List Event}
    (h : ∀ (w : World) b d, (body ⟨w.now, w.db.freshId⟩).atomic w.db = .ok (b, d) →
      RideOutcome w.db (report b) d) :
    RideCall (.transact body report) := by
  intro i w
  obtain ⟨b, d, hbody, hexec⟩ | ⟨e, hexec⟩ := exec_transact body report i w
  · rw [hexec]
    exact h w b d hbody
  · rw [hexec]
    exact outcome_nil _

theorem rideCall_transactWithStripe {β : Type} {body : Ctx → StripeTx β} {report : β → List Event}
    (h : ∀ (w : World) b d s,
      (body ⟨w.now, w.db.freshId⟩).atomic w.db w.stripe = (.ok (b, d), s) →
      RideOutcome w.db (report b) d) :
    RideCall (.transactWithStripe body report) := by
  intro i w
  obtain ⟨b, d, s, hbody, hexec⟩ | ⟨e, s, hexec⟩ := exec_transactWithStripe body report i w
  · rw [hexec]
    exact h w b d s hbody
  · rw [hexec]
    exact outcome_nil _

/-! ## Writes of rides -/

/-- A transaction that writes one ride by its id and moves no ride after it. -/
theorem RideOutcome.of_update {rideId : ℕ} {f : Ride → Ride} {target : RideStatus} {r : Ride}
    {d₁ : Db} (hride : Tx.atomic (Program.perform (update rides rideId f)) d = .ok (r, d₁))
    (hrest : rideStatuses d' = rideStatuses d₁) (hf : ∀ r, (f r).status = target)
    (hwritten : target.written = true)
    (hevents : ∀ id status, .rideMoved id status ∈ events ↔ id = rideId ∧ status = target) :
    RideOutcome d events d' := by
  obtain ⟨-, -, -, rfl⟩ := Service.atomic_update hride
  constructor
  · rw [hrest]
    exact Table.rowsWritten_modify RideStatus.MayBecome.refl hf hevents
  · intro id status hmoved
    rw [((hevents id status).mp hmoved).2]
    exact hwritten

/-- Rides that are written where they are unstarted still. -/
theorem rideStatuses_updateMany {P : ℕ → Ride → Bool} {f : Ride → Ride}
    (hP : ∀ id r, P id r = true → r.status.unstarted = true) (d : Db) :
    RowsKeep RideStatus.MayBecome (rideStatuses d)
      (rideStatuses ((updateMany rides P f).write d d)) := by
  refine Table.rowsKeep_modifyWhere RideStatus.MayBecome.refl fun id r hr hholds => ?_
  rw [Table.holds, show (rides.get d).get? id = some r from hr] at hholds
  exact .of_unstarted (hP id r hholds)

theorem seatCountApart_rideStatuses : SeatCountApart rideStatuses := by
  intro d id seats
  exact @Table.viewed_modify_of_same _ _ _ Ride.status
    (fun r => { r with availableSeats := seats }) (fun _ => rfl) id

/-! ## Calls that write a ride by its id -/

theorem ride_moveRide {rideId : ℕ} {target : RideStatus} {f : Ride → Ride}
    (hwritten : target.written = true) :
    (moveRide rideId target f).Issues fun {_} c => RideCall c := by
  refine ((Program.issues_perform _).mpr (rideCall_transact fun w b d hbody => ?_)).bind
    fun _ => trivial
  refine .of_update hbody rfl (fun _ => rfl) hwritten fun id status => ?_
  simp

theorem leaves_assertRideTransition (current target : RideStatus) :
    (assertRideTransition current target).Leaves rideFrame := by
  unfold assertRideTransition
  split_ifs <;> trivial

theorem leaves_assertStartWindow (settings : RideSettings) (departureAt : ℕ) :
    (assertStartWindow settings departureAt).Leaves rideFrame := by
  unfold assertStartWindow
  split_ifs
  · trivial
  · refine leaves_clock.bind fun now => ?_
    split_ifs <;> trivial

theorem ride_startRide (settings : RideSettings) (driverId rideId : ℕ) (input : RideEventInput) :
    (startRide settings driverId rideId input).Issues fun {_} c => RideCall c := by
  refine (ride_of_leaves (leaves_sql fun _ _ => rfl)).bind fun found => ?_
  cases found with
  | none => trivial
  | some found =>
    obtain ⟨ride, riding⟩ := found
    dsimp only
    split_ifs with hdriver
    · trivial
    refine (ride_of_leaves ?_).bind fun _ => ?_
    · unfold assertStartable
      split_ifs
      · trivial
      · exact leaves_assertRideTransition _ _
    refine (ride_of_leaves (leaves_assertStartWindow _ _)).bind fun _ => ?_
    refine (ride_of_leaves leaves_clock).bind fun now => ?_
    refine (ride_moveRide rfl).bind fun _ => ?_
    refine (ride_of_leaves (leaves_sql fun _ _ => rfl)).bind fun _ => ?_
    refine (ride_of_leaves (leaves_recordEvent (fun _ _ => rfl) _)).bind fun _ => ?_
    exact ride_of_leaves (Program.Issues.forEach fun _ => leaves_notify)

theorem ride_startPublishedRide (settings : RideSettings) (driverId rideId : ℕ) :
    (startPublishedRide settings driverId rideId).Issues fun {_} c => RideCall c := by
  refine (ride_of_leaves (leaves_sql (leaves_findFirst _))).bind fun found => ?_
  cases found with
  | none => trivial
  | some found =>
    refine (ride_of_leaves (leaves_assertStartWindow _ _)).bind fun _ => ?_
    refine ((Program.issues_perform _).mpr (rideCall_transact fun w b d hbody => ?_)).bind
      fun _ => trivial
    obtain ⟨ride, d₁, hride, hmany⟩ := Tx.atomic_bind.mp hbody
    obtain ⟨rfl, rfl⟩ := Prod.mk.injEq .. ▸ Except.ok.inj hmany
    refine .of_update hride rfl (fun _ => rfl) rfl fun id status => ?_
    simp

theorem ride_completeRide (driverId rideId : ℕ) :
    (completeRide driverId rideId).Issues fun {_} c => RideCall c := by
  refine (ride_of_leaves (leaves_sql (leaves_findFirst _))).bind fun found => ?_
  cases found with
  | none => trivial
  | some found =>
    refine ((Program.issues_perform _).mpr (rideCall_transact fun w b d hbody => ?_)).bind
      fun _ => ride_of_leaves leaves_notify
    obtain ⟨ride, d₁, hride, hmany⟩ := Tx.atomic_bind.mp hbody
    obtain ⟨rfl, rfl⟩ := Prod.mk.injEq .. ▸ Except.ok.inj hmany
    refine .of_update hride rfl (fun _ => rfl) rfl fun id status => ?_
    simp

/-- Once the ride has been finished, the action is recorded. -/
theorem leaves_afterRideFinished (event : RideEvent) (nonTerminal : List (ℕ × Booking))
    (forced : Bool) :
    Service.Leaves rideFrame (Program.bind (recordEvent event) fun _ =>
      Program.bind (Program.forEach nonTerminal fun _ => handleForcedAction forced) fun _ =>
        notify) := by
  refine (leaves_recordEvent (fun _ _ => rfl) _).bind fun _ => ?_
  refine Program.Issues.bind ?_ fun _ => leaves_notify
  exact Program.Issues.forEach fun _ => leaves_handleForcedAction _

theorem ride_finishRide (driverId rideId : ℕ) (input : RideEventInput) :
    (finishRide driverId rideId input).Issues fun {_} c => RideCall c := by
  refine (ride_of_leaves (leaves_sql fun _ _ => rfl)).bind fun found => ?_
  cases found with
  | none => trivial
  | some found =>
    obtain ⟨ride, riding⟩ := found
    dsimp only
    split_ifs with hdriver hstatus
    · trivial
    · trivial
    refine (ride_of_leaves (leaves_assertForceAllowedOnRide _ _)).bind fun _ => ?_
    refine (ride_of_leaves (leaves_assertOrForce _ _ _)).bind fun _ => ?_
    refine (ride_moveRide rfl).bind fun _ => ride_of_leaves ?_
    exact leaves_afterRideFinished _ _ _

/-- The first write of a transaction that calls Stripe. -/
theorem txSqlOrThrow_ok {β : Type} {s : Stmt (Except Err β)} {b : β} {st st' : Stripe}
    (h : (txSqlOrThrow s).atomic d st = (.ok (b, d'), st')) :
    Tx.atomic (Program.perform s) d = .ok (b, d') := by
  have hlift := Tx.atomic_lift (Program.perform s) d st
  have hsame : Tx.lift (Program.perform s) = txSqlOrThrow s := by
    refine congrArg (Program.step _) (funext fun r => ?_)
    cases r <;> rfl
  rw [hsame, h] at hlift
  exact (congrArg Prod.fst hlift).symm

theorem leaves_refundListedBooking (ctx : Ctx) (listed : ℕ × Booking) :
    (refundListedBooking ctx listed).Issues (TxCall.Leaves rideFrame) := by
  unfold refundListedBooking
  split
  · refine ((Program.issues_perform _).mpr fun _ _ _ _ => rfl).bind fun _ => ?_
    exact ((Program.issues_perform _).mpr fun _ _ => rfl).bind fun _ => trivial
  · trivial

/-- Once the ride has been cancelled, bookings and payments are written. -/
theorem leaves_afterRideCancelled (settings : Settings) (driverId : ℕ)
    (activeBookings : List (ℕ × Booking)) :
    Service.Leaves rideFrame (Program.bind
      (Program.forEach activeBookings (markListedRefund settings driverId)) fun _ =>
        Program.forEach activeBookings fun _ => notify) := by
  refine Program.Issues.bind (Program.Issues.forEach fun booking => ?_) fun _ =>
    Program.Issues.forEach fun _ => leaves_notify
  unfold markListedRefund
  split_ifs
  · refine ((Program.issues_command _).mpr fun e he id status heq => ?_).bind fun _ =>
      leaves_bestEffort ?_
    · rw [List.mem_singleton.mp he] at heq
      cases heq
    · refine (leaves_markBookingPaymentRefunded (fun _ _ _ _ => rfl) ?_ (fun _ _ => rfl)
        _ _ _).bind fun _ => trivial
      intro paymentId written reported id status heq
      cases heq
  · trivial

theorem ride_cancelRide (settings : Settings) (driverId rideId : ℕ) :
    (cancelRide settings driverId rideId).Issues fun {_} c => RideCall c := by
  refine (ride_of_leaves (leaves_sql (leaves_findFirst _))).bind fun found => ?_
  cases found with
  | none => trivial
  | some found =>
    refine (ride_of_leaves (leaves_sql (leaves_findMany _))).bind fun activeBookings => ?_
    refine ((Program.issues_perform _).mpr (rideCall_transactWithStripe fun w b d s hbody => ?_)).bind
      fun _ => ?_
    · obtain ⟨ride, d₁, s₁, hride, hrest⟩ := StripeTx.atomic_bind.mp hbody
      refine .of_update (txSqlOrThrow_ok hride) ?_ (fun _ => rfl) rfl fun id status => ?_
      · -- bookings alone are written after the ride
        refine (StripeTx.Leaves.atomic (F := rideFrame) ?_ hrest).1 _ _ rfl
        refine ((Program.issues_command _).mpr fun _ _ => rfl).bind fun cancelled => ?_
        refine Program.Issues.bind (Program.Issues.forEach fun booking => ?_) fun _ => ?_
        · exact ((Program.issues_perform _).mpr fun _ _ => rfl).bind fun _ => trivial
        · split_ifs
          · trivial
          · exact (Program.Issues.forEach fun booking => leaves_refundListedBooking _ _).bind
              fun _ => trivial
      · simp [reportRideCancelled]
    · exact ride_of_leaves (leaves_afterRideCancelled _ _ _)

/-! ## Calls that write a ride where it is unstarted still -/

theorem sweepCall_transact {β : Type} {body : Ctx → Tx β} {report : β → List Event}
    (h : ∀ (w : World) b d, (body ⟨w.now, w.db.freshId⟩).atomic w.db = .ok (b, d) →
      RowsKeep RideStatus.MayBecome (rideStatuses w.db) (rideStatuses d))
    (hnone : ∀ b id status, .rideMoved id status ∉ report b) :
    SweepCall (.transact body report) := by
  intro i w
  obtain ⟨b, d, hbody, hexec⟩ | ⟨e, hexec⟩ := exec_transact body report i w
  · rw [hexec]
    exact ⟨h w b d hbody, hnone b⟩
  · rw [hexec]
    exact ⟨.refl RideStatus.MayBecome.refl _, fun _ _ h => by cases h⟩

/-- A transaction that moves rides that are unstarted still, and reports none by its id. -/
theorem sweep_of_guarded {P : ℕ → Ride → Bool} {f : Ride → Ride}
    (hP : ∀ id r, P id r = true → r.status.unstarted = true) :
    (sql (updateMany rides P f)).Issues fun {_} c => SweepCall c := by
  refine (Program.issues_perform _).mpr (sweepCall_transact (fun w b d hbody => ?_) ?_)
  · obtain ⟨-, rfl⟩ := Prod.mk.injEq .. ▸ Except.ok.inj hbody
    exact rideStatuses_updateMany hP _
  · exact fun _ _ _ h => by cases h

theorem RideStatus.unstarted_of_promotable {status : RideStatus} (h : status.promotable = true) :
    status.unstarted = true := by
  cases status <;> trivial

theorem sweep_promoteRide (rideId : ℕ) (P : Ride → Bool) :
    (sql (promoteRide rideId P)).Issues fun {_} c => SweepCall c := by
  refine sweep_of_guarded fun id r h => ?_
  simp only [Bool.and_eq_true] at h
  exact RideStatus.unstarted_of_promotable h.1.1.2

/-- The bookings of an overdue ride are cancelled, which moves no ride. -/
theorem leaves_cancelOverdueBookings (ride : Ride) (activeBookings : List (ℕ × Booking)) (now : ℕ) :
    (cancelOverdueBookings ride activeBookings now).Leaves rideStatuses := by
  refine ((Program.issues_command _).mpr fun _ _ => rfl).bind fun _ => ?_
  refine Program.Issues.forEach fun booking => ?_
  refine ((Program.issues_perform _).mpr fun _ _ => rfl).bind fun _ => ?_
  refine (leaves_releaseBookingSeats (fun _ _ => rfl) seatCountApart_rideStatuses
    (fun _ _ => rfl) _ _).bind fun _ => trivial

theorem sweepCall_closeOverdueRideTx (rideId : ℕ) (ride : Ride) (activeBookings : List (ℕ × Booking))
    (now : ℕ) : SweepCall (.transact (fun _ => closeOverdueRideTx rideId ride activeBookings now)
      (reportRideClosed rideId activeBookings)) := by
  refine sweepCall_transact (fun w closed d hbody => ?_) fun closed id status h => ?_
  · obtain ⟨rows, d₁, hrows, hrest⟩ := Tx.atomic_bind.mp hbody
    obtain ⟨-, rfl⟩ := Prod.mk.injEq .. ▸ Except.ok.inj hrows
    rw [show rideStatuses d = _ from Tx.Leaves.atomic ?_ hrest]
    · refine rideStatuses_updateMany (fun id r h => ?_) _
      simp only [Ride.unstarted, Bool.and_eq_true, Bool.or_eq_true, beq_iff_eq] at h
      rcases h.2.1 with (hs | hs) | hs <;> rw [hs] <;> rfl
    · -- bookings, edges and seats are written after the ride
      split_ifs
      · trivial
      · trivial
      · exact (leaves_cancelOverdueBookings _ _ _).bind fun _ => trivial
  · unfold reportRideClosed at h
    split_ifs at h <;> simp at h

theorem sweep_closeOverdueUnstartedRide (rideId : ℕ) (ride : Ride)
    (rideBookings : List (ℕ × Booking)) :
    (closeOverdueUnstartedRide rideId ride rideBookings).Issues fun {_} c => SweepCall c := by
  refine (sweep_of_leaves leaves_clock).bind fun now => ?_
  refine ((Program.issues_perform _).mpr (sweepCall_closeOverdueRideTx _ _ _ _)).bind fun closed => ?_
  exact sweep_of_leaves (leaves_closed (fun _ _ => rfl) _ _ _)

theorem sweep_checkOverdueRide (departureAt : Option ℕ) (now : ℕ) (listed : SweptRide) :
    (checkOverdueRide departureAt now listed).Issues fun {_} c => SweepCall c := by
  cases departureAt with
  | none => trivial
  | some departureAt =>
    refine Program.Issues.bind ?_ fun _ => ?_
    · unfold promoteOverdueRide
      split_ifs
      · exact (sweep_promoteRide _ _).bind fun _ =>
          sweep_of_leaves (leaves_promoted (fun _ _ => rfl) _)
      · trivial
    · split_ifs
      · exact sweep_closeOverdueUnstartedRide _ _ _
      · exact sweep_of_leaves (leaves_alertOverdueCompletion (fun _ _ => rfl) _ _ _)

theorem sweep_runRideOverdueCheck (departures : Departures) :
    (runRideOverdueCheck departures).Issues fun {_} c => SweepCall c := by
  refine (sweep_of_leaves leaves_clock).bind fun now => ?_
  refine (sweep_of_leaves (leaves_sql fun _ _ => rfl)).bind fun listed => ?_
  exact Program.Issues.forEach fun ride => sweep_checkOverdueRide _ _ _

theorem sweep_reconcileListedRide (driverId now : ℕ) (departureAt : Option ℕ) (listed : SweptRide) :
    (reconcileListedRide driverId now departureAt listed).Issues fun {_} c => SweepCall c := by
  cases departureAt with
  | none => trivial
  | some departureAt =>
    dsimp only [reconcileListedRide]
    split_ifs
    · trivial
    · refine ((Program.issues_perform _).mpr (sweepCall_transact (fun w b d hbody => ?_)
        fun b id status h => ?_)).bind fun _ => trivial
      · obtain ⟨-, rfl⟩ := Prod.mk.injEq .. ▸ Except.ok.inj hbody
        refine rideStatuses_updateMany (fun id r h => ?_) _
        simp only [Bool.and_eq_true] at h
        exact h.1.2
      · obtain ⟨id', -, heq⟩ := List.mem_map.mp h
        cases heq
    · exact (sweep_promoteRide _ _).bind fun _ => trivial
    · trivial

theorem sweep_reconcileDriverRideListStatuses (departures : Departures) (driverId : ℕ) :
    (reconcileDriverRideListStatuses departures driverId).Issues fun {_} c => SweepCall c := by
  refine (sweep_of_leaves leaves_clock).bind fun now => ?_
  refine (sweep_of_leaves (leaves_sql fun _ _ => rfl)).bind fun candidates => ?_
  exact Program.Issues.forEach fun listed => sweep_reconcileListedRide _ _ _ _

/-! ## The dispute that support opens -/

theorem rideCall_openDisputeTx (bookingId adminId : ℕ) (view : RideDisputeView) :
    RideCall (.transact (openDisputeTx bookingId adminId view) fun _ => view.events) := by
  refine rideCall_transact fun w b d hbody => ?_
  -- the dispute and the booking are written before the ride
  obtain ⟨_, d₁, hcreate, hbody⟩ := Tx.atomic_bind.mp hbody
  obtain ⟨-, rfl⟩ := Prod.mk.injEq .. ▸ Except.ok.inj hcreate
  obtain ⟨_, d₂, hbooking, hbody⟩ := Tx.atomic_bind.mp hbody
  obtain ⟨-, -, -, rfl⟩ := Service.atomic_update hbooking
  obtain ⟨_, d₃, hride, hbody⟩ := Tx.atomic_bind.mp hbody
  have hrest : rideStatuses d = rideStatuses d₃ := by
    refine Tx.Leaves.atomic ?_ hbody
    exact ((Program.issues_perform _).mpr fun _ _ => rfl).bind fun _ =>
      (Program.issues_command _).mpr fun _ _ => rfl
  unfold disputeRide at hride
  unfold RideDisputeView.events
  split_ifs at hride ⊢
  · obtain ⟨r, d₄, hupdate, heq⟩ := Tx.atomic_bind.mp hride
    obtain ⟨-, rfl⟩ := Prod.mk.injEq .. ▸ Except.ok.inj heq
    have houtcome := @RideOutcome.of_update _ _ [.rideMoved view.booking.rideId .disputed]
      _ _ _ _ _ hupdate hrest (fun _ => rfl) (rfl : RideStatus.disputed.written = true)
      fun id status => by simp
    exact houtcome
  · obtain ⟨-, rfl⟩ := Prod.mk.injEq .. ▸ Except.ok.inj hride
    exact .same hrest fun _ _ h => by cases h

theorem ride_adminOpenBookingDispute (bookingId adminId : ℕ) :
    (adminOpenBookingDispute bookingId adminId).Issues fun {_} c => RideCall c := by
  refine (ride_of_leaves (leaves_sql fun _ _ => rfl)).bind fun found => ?_
  cases found with
  | none => trivial
  | some view =>
    dsimp only
    split_ifs
    · trivial
    · trivial
    · refine ((Program.issues_perform _).mpr (rideCall_openDisputeTx _ _ _)).bind fun _ => ?_
      exact ride_of_leaves (leaves_notify.bind fun _ => leaves_notify)

/-- Every step of the calls does to the statuses what its report says, and nothing else that a ride
may not become. -/
theorem opsConfined_ride : Pool.OpsConfined ridePool fun _ {_} c => RideCall c := by
  intro op
  cases op with
  | startRide settings driverId rideId input =>
    exact (ride_startRide settings driverId rideId input).emits
  | startPublishedRide settings driverId rideId =>
    exact (ride_startPublishedRide settings driverId rideId).emits
  | completeRide driverId rideId => exact (ride_completeRide driverId rideId).emits
  | finishRide driverId rideId input => exact (ride_finishRide driverId rideId input).emits
  | cancelRide settings driverId rideId => exact (ride_cancelRide settings driverId rideId).emits
  | closeOverdueUnstartedRide rideId ride rideBookings =>
    exact (ride_of_sweep (sweep_closeOverdueUnstartedRide rideId ride rideBookings)).emits
  | runRideOverdueCheck departures =>
    exact (ride_of_sweep (sweep_runRideOverdueCheck departures)).emits
  | reconcileDriverRideListStatuses departures driverId =>
    exact (ride_of_sweep (sweep_reconcileDriverRideListStatuses departures driverId)).emits
  | adminOpenBookingDispute bookingId adminId =>
    exact (ride_adminOpenBookingDispute bookingId adminId).emits

end Steps

/-! ## A call by itself -/

/-- The status of a ride is not written. -/
def RideUnwritten (id : ℕ) (x y : LoggedWorld) : Prop :=
  rideStatuses y.state.db id = rideStatuses x.state.db id

/-- The condition on a step, as far as it is about one ride. -/
def FindsThisRideLive (id : ℕ) (x : LoggedWorld) (events : List Event) : Prop :=
  ∀ status before, .rideMoved id status ∈ events → rideStatuses x.state.db id = some before →
    before.MayBecome status

theorem findsRideLive_iff {x : LoggedWorld} {events : List Event} :
    FindsRideLive x.state.db events ↔ ∀ id, FindsThisRideLive id x events := Iff.rfl

section Alone

variable {id rideId tid : ℕ} {x : LoggedWorld} {α β : Type} {A : LoggedWorld → Prop}

/-- Each step of what is left of a call meets the condition about a ride whose status is not written
between its steps. -/
abbrev RideAlone (id tid : ℕ) (Q : Except Err α → LoggedWorld → Prop) :
    Service α → LoggedWorld → Prop :=
  Program.Undisturbed ridePool (RideUnwritten id) (FindsThisRideLive id) tid Q

/-- Whether a ride has ended. -/
def RideStatus.ended : RideStatus → Bool
  | .completed | .cancelled | .expired | .disputed => true
  | _ => false

theorem RideStatus.mayBecome_of_not_ended {before after : RideStatus} (h : before.ended = false) :
    before.MayBecome after := by
  cases before with
  | completed | cancelled | expired | disputed => cases h
  | _ => trivial

/-- If the call is about this ride, it has not ended. -/
def RideLiveIf (id rideId : ℕ) (x : LoggedWorld) : Prop :=
  rideId = id → ∀ status, rideStatuses x.state.db id = some status → status.ended = false

/-- A part that moves no ride. -/
theorem rideAlone_besides {p : Service α} (h : p.Leaves rideFrame)
    (hA : ∀ y z, A y → RideUnwritten id y z → A z) (hx : A x) :
    RideAlone id tid (fun _ => A) p x := by
  refine undisturbed_leaves h (fun y es hevents status _ hmoved => ?_)
    (fun y es s _ hdb hy => hA y _ hy (congrFun hdb id)) hA hx
  exact absurd rfl (hevents _ hmoved id status)

theorem rideAlone_rest {p : Service α} (h : p.Leaves rideFrame) :
    RideAlone id tid (fun _ _ => True) p x :=
  rideAlone_besides (A := fun _ => True) h (fun _ _ _ _ => trivial) trivial

/-- A part between the read and the write. -/
theorem rideAlone_between {p : Service β} {f : β → Service α} (h : p.Leaves rideFrame)
    (hx : RideLiveIf id rideId x)
    (hf : ∀ b y, RideLiveIf id rideId y → RideAlone id tid (fun _ _ => True) (f b) y) :
    RideAlone id tid (fun _ _ => True) (p.bind f) x := by
  refine .sequence (rideAlone_besides h ?_ hx) (fun _ _ _ => trivial) hf
  intro y z hy hz hid status hstatus
  exact hy hid status (hz ▸ hstatus)

/-- The ride that the call has read is there as it has read it. -/
def HasReadRide (rideId : ℕ) (ride : Ride) (x : LoggedWorld) : Prop :=
  rideStatuses x.state.db rideId = some ride.status

theorem HasReadRide.liveIf {ride : Ride} (h : HasReadRide rideId ride x)
    (hlive : ride.status.ended = false) : RideLiveIf id rideId x := by
  rintro rfl status hstatus
  rw [Option.some.inj (hstatus.symm.trans h)]
  exact hlive

/-- The read that a call starts with, and the rest of the call. -/
theorem rideAlone_read {s : Stmt β} {f : β → Service α} (hwrite : ∀ d, s.write d d = d)
    (hf : ∀ y, RideAlone id tid (fun _ _ => True) (f (s.answer y.state.db)) y) :
    RideAlone id tid (fun _ _ => True) ((sql s).bind f) x := by
  refine .bind (undisturbed_sql hwrite (fun y _ _ hmoved => ?_) (fun y _ => hf y)
    fun _ _ => trivial)
  cases hmoved

/-- **The write**, if the ride that it reports is live, and the rest of the call. -/
theorem rideAlone_write {c : Call (Except Err β)} {rest : β → Service α}
    (hlive : ∀ i w status, .rideMoved id status ∈ (c.exec i w).2.1 → RideLiveIf id id x)
    (hrest : ∀ b, (rest b).Leaves rideFrame) :
    RideAlone id tid (fun _ _ => True) ((Program.perform c).bind rest) x := by
  refine .sequence (A := fun _ => True) (.perform fun y hy i r es s hexec => ⟨?_, trivial⟩)
    (fun _ _ _ => trivial) fun b y _ => rideAlone_rest (hrest b)
  obtain ⟨rfl, rfl, rfl⟩ := exec_eq hexec
  intro status found hmoved hfound
  apply RideStatus.mayBecome_of_not_ended
  exact hlive i y.state status hmoved rfl found (hy.symm.trans hfound)

theorem rideMoved_transact {body : Ctx → Tx β} {report : β → List Event} {i : Reply} {w : World}
    {status : RideStatus}
    (h : .rideMoved id status ∈ ((Call.transact body report).exec i w).2.1) :
    ∃ b, .rideMoved id status ∈ report b := by
  obtain ⟨b, d, -, heq⟩ | ⟨e, heq⟩ := exec_transact body report i w
  · rw [heq] at h
    exact ⟨b, h⟩
  · rw [heq] at h
    cases h

theorem rideMoved_transactWithStripe {body : Ctx → StripeTx β} {report : β → List Event} {i : Reply}
    {w : World} {status : RideStatus}
    (h : .rideMoved id status ∈ ((Call.transactWithStripe body report).exec i w).2.1) :
    ∃ b, .rideMoved id status ∈ report b := by
  obtain ⟨b, d, s, -, heq⟩ | ⟨e, s, heq⟩ := exec_transactWithStripe body report i w
  · rw [heq] at h
    exact ⟨b, h⟩
  · rw [heq] at h
    cases h

theorem rideAlone_moveRide {status : RideStatus} {f : Ride → Ride} {rest : Service α}
    (hx : RideLiveIf id rideId x) (hrest : rest.Leaves rideFrame) :
    RideAlone id tid (fun _ _ => True) ((moveRide rideId status f).bind fun _ => rest) x := by
  unfold moveRide
  rw [Program.bind_eq, Program.bind_assoc]
  refine rideAlone_write (fun i w status' h => ?_) fun _ => hrest
  obtain ⟨_, hmoved⟩ := rideMoved_transact h
  obtain ⟨rfl, -⟩ := Event.rideMoved.injEq .. ▸ List.mem_singleton.mp hmoved
  exact hx

/-! ### The calls -/

variable {settings : RideSettings} {driverId : ℕ} {input : RideEventInput}

/-- A ride that is looked for by its id and its status. -/
theorem rideLiveIf_of_findFirst {status : RideStatus} {found : ℕ × Ride}
    (h : (findFirst rides fun id r =>
      id == rideId && r.driverId == driverId && r.status == status).answer x.state.db = some found)
    (hlive : status.ended = false) : RideLiveIf id rideId x := by
  obtain ⟨foundId, ride⟩ := found
  obtain ⟨hrow, hholds⟩ := Table.of_head?_filter h
  simp only [Bool.and_eq_true, beq_iff_eq] at hholds
  obtain ⟨⟨rfl, -⟩, rfl⟩ := hholds
  have hread : HasReadRide foundId ride x := Table.viewed_of_get? hrow
  exact hread.liveIf hlive

theorem hasReadRide_of_findRideWithBookings {P : Booking → Bool} {ride : Ride}
    {riding : List (ℕ × Booking)}
    (h : (findRideWithBookings rideId P).answer x.state.db = some (ride, riding)) :
    HasReadRide rideId ride x := by
  obtain ⟨found, hrow, hride⟩ := Option.map_eq_some_iff.mp h
  obtain ⟨rfl, -⟩ := Prod.mk.injEq .. ▸ hride
  exact Table.viewed_of_get? hrow

/-- A ride that may be started has not ended. -/
theorem rideAlone_assertStartable {status : RideStatus} {f : Unit → Service α}
    (h : status.ended = false → RideAlone id tid (fun _ _ => True) (f ()) x) :
    RideAlone id tid (fun _ _ => True) ((assertStartable status).bind f) x := by
  cases status with
  | published | readyToStart => exact h rfl
  | _ => trivial

theorem rideAlone_startRide :
    RideAlone id tid (fun _ _ => True) (startRide settings driverId rideId input) x := by
  refine rideAlone_read (fun _ => rfl) fun y => ?_
  cases hfound : (findRideWithBookings rideId fun b => b.status.goesWithRide).answer y.state.db with
  | none => trivial
  | some found =>
    obtain ⟨ride, riding⟩ := found
    dsimp only
    split_ifs with hdriver
    · trivial
    refine rideAlone_assertStartable fun hstatus => ?_
    have hlive : RideLiveIf id rideId y :=
      (hasReadRide_of_findRideWithBookings hfound).liveIf hstatus
    refine rideAlone_between (leaves_assertStartWindow _ _) hlive fun _ y hy => ?_
    refine rideAlone_between leaves_clock hy fun now y hy => rideAlone_moveRide hy ?_
    refine (leaves_sql fun _ _ => rfl).bind fun _ => ?_
    refine (leaves_recordEvent (fun _ _ => rfl) _).bind fun _ => ?_
    exact Program.Issues.forEach fun _ => leaves_notify

theorem rideAlone_startPublishedRide :
    RideAlone id tid (fun _ _ => True) (startPublishedRide settings driverId rideId) x := by
  refine rideAlone_read (fun _ => rfl) fun y => ?_
  cases hfound : (findFirst rides fun id r =>
      id == rideId && r.driverId == driverId && r.status == .published).answer y.state.db with
  | none => trivial
  | some found =>
    have hlive : RideLiveIf id rideId y := rideLiveIf_of_findFirst hfound rfl
    refine rideAlone_between (leaves_assertStartWindow _ _) hlive fun _ y hy => ?_
    refine rideAlone_write (fun i w status h => ?_) fun _ => trivial
    obtain ⟨_, hmoved⟩ := rideMoved_transact h
    obtain ⟨rfl, -⟩ := Event.rideMoved.injEq .. ▸ List.mem_singleton.mp hmoved
    exact hy

theorem rideAlone_completeRide :
    RideAlone id tid (fun _ _ => True) (completeRide driverId rideId) x := by
  refine rideAlone_read (fun _ => rfl) fun y => ?_
  cases hfound : (findFirst rides fun id r =>
      id == rideId && r.driverId == driverId && r.status == .inProgress).answer y.state.db with
  | none => trivial
  | some found =>
    have hlive : RideLiveIf id rideId y := rideLiveIf_of_findFirst hfound rfl
    refine rideAlone_write (fun i w status h => ?_) fun _ => leaves_notify
    obtain ⟨completed, hmoved⟩ := rideMoved_transact h
    simp only [List.mem_cons, Event.rideMoved.injEq, List.mem_map, reduceCtorEq, and_false,
      exists_false, or_false] at hmoved
    obtain ⟨rfl, -⟩ := hmoved
    exact hlive

theorem rideAlone_cancelRide {settings : Settings} :
    RideAlone id tid (fun _ _ => True) (cancelRide settings driverId rideId) x := by
  refine rideAlone_read (fun _ => rfl) fun y => ?_
  cases hfound : (findFirst rides fun id r =>
      id == rideId && r.driverId == driverId && r.status == .published).answer y.state.db with
  | none => trivial
  | some found =>
    have hlive : RideLiveIf id rideId y := rideLiveIf_of_findFirst hfound rfl
    refine rideAlone_between (leaves_sql (leaves_findMany _)) hlive fun activeBookings y hy => ?_
    refine rideAlone_write (fun i w status h => ?_) fun _ => leaves_afterRideCancelled _ _ _
    obtain ⟨cancelled, hmoved⟩ := rideMoved_transactWithStripe h
    simp only [reportRideCancelled, List.mem_cons, Event.rideMoved.injEq, List.mem_map,
      reduceCtorEq, and_false, exists_false, or_false] at hmoved
    obtain ⟨rfl, -⟩ := hmoved
    exact hy

theorem rideAlone_finishRide :
    RideAlone id tid (fun _ _ => True) (finishRide driverId rideId input) x := by
  refine rideAlone_read (fun _ => rfl) fun y => ?_
  cases hfound : (findRideWithBookings rideId fun _ => true).answer y.state.db with
  | none => trivial
  | some found =>
    obtain ⟨ride, riding⟩ := found
    dsimp only
    split_ifs with hdriver hstatus
    · trivial
    · trivial
    have hlive : RideLiveIf id rideId y := by
      apply (hasReadRide_of_findRideWithBookings hfound).liveIf
      rw [not_not.mp hstatus]
      rfl
    refine rideAlone_between (leaves_assertForceAllowedOnRide _ _) hlive fun _ y hy => ?_
    refine rideAlone_between (leaves_assertOrForce _ _ _) hy fun _ y hy => rideAlone_moveRide hy ?_
    exact leaves_afterRideFinished _ _ _

/-- What is read for a dispute is the ride of the booking. -/
theorem hasReadRide_of_viewForDispute {bookingId : ℕ} {view : RideDisputeView}
    (h : (viewForDispute bookingId).answer x.state.db = some view) :
    HasReadRide view.booking.rideId view.ride x := by
  obtain ⟨⟨booking, ride⟩, hfound, hview⟩ := Option.bind_eq_some_iff.mp h
  obtain rfl := Option.some.inj hview
  exact Table.viewed_of_get? (findBookingWithRide_eq_some.mp hfound).2

theorem RideStatus.not_ended_of_forceCompletable {status : RideStatus}
    (h : status.forceCompletable = true) : status.ended = false := by
  cases status with
  | inProgress | completionPending => rfl
  | _ => cases h

/-- A dispute writes the ride of its booking, if it was under way when it was read. -/
theorem rideMoved_of_dispute {view : RideDisputeView} {status : RideStatus}
    (h : .rideMoved id status ∈ view.events) :
    id = view.booking.rideId ∧ view.ride.status.forceCompletable = true := by
  unfold RideDisputeView.events at h
  split_ifs at h with hunderway
  · exact ⟨(Event.rideMoved.injEq .. ▸ List.mem_singleton.mp h).1, hunderway⟩
  · cases h

theorem rideAlone_adminOpenBookingDispute {bookingId adminId : ℕ} :
    RideAlone id tid (fun _ _ => True) (adminOpenBookingDispute bookingId adminId) x := by
  refine rideAlone_read (fun _ => rfl) fun y => ?_
  cases hfound : (viewForDispute bookingId).answer y.state.db with
  | none => trivial
  | some view =>
    dsimp only
    split_ifs
    · trivial
    · trivial
    have hread : HasReadRide view.booking.rideId view.ride y := hasReadRide_of_viewForDispute hfound
    refine rideAlone_write (fun i w status h => ?_) fun _ => leaves_notify.bind fun _ => leaves_notify
    obtain ⟨_, hmoved⟩ := rideMoved_transact h
    obtain ⟨rfl, hunderway⟩ := rideMoved_of_dispute hmoved
    exact hread.liveIf (RideStatus.not_ended_of_forceCompletable hunderway)

/-- A sweep reports no ride that it writes by its id. -/
theorem rideAlone_sweep {p : Service α} (h : p.Issues fun {_} c => SweepCall c) :
    RideAlone id tid (fun _ _ => True) p x := by
  refine Program.Undisturbed.issues (A := fun _ => True) (fun _ _ _ _ => trivial)
    (h.mono fun c hc y _ i b es s hexec => ⟨fun status _ hmoved => ?_, trivial⟩) trivial
  obtain ⟨rfl, rfl, rfl⟩ := exec_eq hexec
  exact absurd hmoved ((hc i y.state).2 id status)

/-- **A call meets the condition by its own check** of the status that it has read, about any ride
whose status is not written between its steps. -/
theorem call_finds_ride_live (op : RideOp) : RideAlone id tid (fun _ _ => True) op.program x := by
  cases op with
  | startRide settings driverId rideId input => exact rideAlone_startRide
  | startPublishedRide settings driverId rideId => exact rideAlone_startPublishedRide
  | completeRide driverId rideId => exact rideAlone_completeRide
  | finishRide driverId rideId input => exact rideAlone_finishRide
  | cancelRide settings driverId rideId => exact rideAlone_cancelRide
  | closeOverdueUnstartedRide rideId ride rideBookings =>
    exact rideAlone_sweep (sweep_closeOverdueUnstartedRide rideId ride rideBookings)
  | runRideOverdueCheck departures => exact rideAlone_sweep (sweep_runRideOverdueCheck departures)
  | reconcileDriverRideListStatuses departures driverId =>
    exact rideAlone_sweep (sweep_reconcileDriverRideListStatuses departures driverId)
  | adminOpenBookingDispute bookingId adminId => exact rideAlone_adminOpenBookingDispute

end Alone

/-- So does the call in a history in which no other move writes the status of the ride. -/
theorem undisturbed_call_finds_ride_live {p : Pool Call Err Event World RideOp} {id tid : ℕ}
    {op : RideOp} (hthread : p.threads[tid]? = some (op, op.program))
    {moves : List (Move RideOp Reply World)}
    (hothers : History.Each (Pool.step ridePool) (fun p move => (∀ i, move ≠ .step tid i) →
      RideUnwritten id p.now (p.step ridePool move).now) p moves) :
    History.Each (Pool.step ridePool)
      (Pool.Meets ridePool (fun _ t x _ es => t = tid → FindsThisRideLive id x es) fun _ _ => True)
      p moves := by
  have halone : RideAlone id tid (fun _ _ => True) op.program p.now := call_finds_ride_live op
  exact Program.Undisturbed.meets (R := RideUnwritten id) (fun _ => rfl)
    (fun _ _ _ h h' => h'.trans h) hthread halone hothers

/-! ## Whole runs -/

/-- The pool before any call has been started. -/
def rideStart (w : World) : Pool Call Err Event World RideOp := { now := { state := w } }

/-- **Ended rides stay ended** between any two points of a run exactly if no call that writes a ride
by its id finds it ended, but to dispute a completed one or to write the status that it has. -/
theorem ended_rides_stay_iff (w : World) (moves : List (Move RideOp Reply World)) :
    (∀ earlier between rest, moves = earlier ++ between ++ rest →
      EndedRidesStay
        (History.after (Pool.step ridePool) (rideStart w) earlier).now.state.db
        (History.after (Pool.step ridePool) (rideStart w) (earlier ++ between)).now.state.db) ↔
      History.Each (Pool.step ridePool) (Pool.Meets ridePool RideStep fun _ _ => True) (rideStart w)
        moves := by
  have hconfined : Pool.Confined ridePool (fun _ {_} c => RideCall c) (rideStart w) :=
    fun t ht => absurd ht List.not_mem_nil
  constructor
  · -- what holds between two points holds of every step, and each step then meets the condition
    intro h
    refine (Pool.relates_iff_each_of_confined (S := ridePool)
      (R := fun _ x y => EndedRidesStay x.state.db y.state.db) opsConfined_ride
      (fun _ x => (RowsKeep.refl RideStatus.MayBecome.refl _).mono fun _ _ h => h.stays) ?_ hconfined
      moves).mp ?_
    · intro op tid β c i x b es s hcall hexec
      obtain ⟨rfl, rfl, rfl⟩ := exec_eq hexec
      exact (hcall i x.state).findsLive_iff
    · refine (History.each_of_between (R := fun p q : Pool Call Err Event World RideOp =>
        EndedRidesStay p.now.state.db q.now.state.db) h).imp (I := fun _ => True)
        (fun _ _ _ => trivial) ?_ trivial
      rintro p move - hstay tid reply op rest - -
      exact hstay
  · -- every step keeps the finer relation, which is transitive
    intro h earlier between rest hmoves
    refine (History.Each.between (R := fun p q : Pool Call Err Event World RideOp =>
      RowsKeep RideStatus.MayBecome (rideStatuses p.now.state.db) (rideStatuses q.now.state.db))
      (fun p => .refl RideStatus.MayBecome.refl _)
      (fun p q r h h' => h.trans (fun _ _ _ => .trans) h') ?_ earlier between rest hmoves).mono
      fun _ _ h => h.stays
    refine Pool.each_of_confined (R := fun x y => RowsKeep RideStatus.MayBecome
      (rideStatuses x.state.db) (rideStatuses y.state.db)) opsConfined_ride
      (fun x => .refl RideStatus.MayBecome.refl _) ?_ ?_ hconfined h
    · intro op tid β c i x b es s hcall hexec hlive
      obtain ⟨rfl, rfl, rfl⟩ := exec_eq hexec
      exact (hcall i x.state).keeps hlive
    · intro w' x _
      exact .refl RideStatus.MayBecome.refl _

/-! ## Runs -/

section Runs

/-- A published ride of driver 9. -/
private def publishedWorld : World where
  db := {
    rides := ⟨[(1, {
      driverId := 9
      totalSeats := 3
      availableSeats := 3
      status := .published
      departureAt := 100 })], by simp⟩ }
  now := 500

/-- The ride is cancelled after a call to start it has read it as published. -/
private def cancelledBetween : List (Move RideOp Reply World) :=
  [.start (.startPublishedRide {} 9 1), .start (.cancelRide {} 9 1), .step 0 .ok, .step 0 .ok,
    .step 1 .ok, .step 1 .ok, .step 1 .ok]

/-- **A cancelled ride is under way again** once the call that has read it as published writes it. -/
theorem cancelled_ride_started :
    ¬ ∀ earlier between rest, cancelledBetween ++ [.step 0 .ok] = earlier ++ between ++ rest →
      EndedRidesStay
        (History.after (Pool.step ridePool) (rideStart publishedWorld) earlier).now.state.db
        (History.after (Pool.step ridePool) (rideStart publishedWorld)
          (earlier ++ between)).now.state.db := by
  intro h
  have hcancelled : rideStatuses (History.after (Pool.step ridePool) (rideStart publishedWorld)
      cancelledBetween).now.state.db 1 = some .cancelled := rfl
  have hunderway : rideStatuses (History.after (Pool.step ridePool) (rideStart publishedWorld)
      (cancelledBetween ++ [.step 0 .ok])).now.state.db 1 = some .inProgress := rfl
  obtain ⟨after, hafter, hstays⟩ := h cancelledBetween [.step 0 .ok] [] rfl 1 _ hcancelled
  obtain rfl := Option.some.inj (hunderway.symm.trans hafter)
  cases hstays

end Runs

end Deliivo
