import Deliivo.Booking.Frame
import Deliivo.Domain.Preserves
import Deliivo.Ride.Frame
import Deliivo.Trip.Operations

/-!
# Actions that are delivered again

A client sends an action again, under the same id, if it has not heard of it. The operations look the id
up only once they have written the ride or the booking, to record the action once; what they have
written by then is written again. Only the replay of queued actions looks first. So an action that is
delivered again leaves the rows alone exactly if its checks stop it, or if it would write what is there.

## Main definitions

* `RideAction`: the requests of a driver, of a rider, and the queued ones
* `Keeps`: a service leaves the rides and the bookings as they are, whatever the replies
* `RideAction.Harmless`: the action is stopped by its checks, or writes what is there

## Main results

* `keeps_write`: a service whose last write of a row is its first
* `replay_keeps_iff`: when an action that has been recorded leaves the rows alone
* `replay_moves_back`: one that moves a booking back
-/

namespace Deliivo

/-! ## Actions -/

/-- `riderConfirmDropoff` with the record of the action, which the completion of a trip leaves out. -/
def riderConfirmDropoffRecorded (passengerId bookingId : ℕ) (input : RideEventInput) :
    Service Unit := do
  let (booking, ride) ← requirePassengersBooking passengerId bookingId
  assertForceAllowedOnRide input.forced ride.status
  assertOrForce input.forced (booking.status != .dropPending) "BOOKING_NOT_DROP_PENDING"
  let now ← Program.command .clock
  completeBooking bookingId fun _ b =>
    { b with riderDropoffConfirmedAt := some now, completedAt := some now }
  recordOperation booking.rideId bookingId passengerId "DROPOFF_CONFIRMED_RIDER" input

/-- A request about a ride or one of its bookings. -/
inductive RideAction
  | startRide (driverId rideId : ℕ) (input : RideEventInput)
  | driverArrived (driverId bookingId : ℕ) (input : RideEventInput)
  | verifyPickupAndBoard (driverId bookingId : ℕ) (otpHash : Option String) (input : RideEventInput)
  | markNoShow (driverId bookingId : ℕ) (input : RideEventInput)
  | confirmDropoff (driverId bookingId : ℕ) (input : RideEventInput)
  | riderConfirmDropoff (passengerId bookingId : ℕ) (input : RideEventInput)
  | finishRide (driverId rideId : ℕ) (input : RideEventInput)
  | syncOfflineActions (actorId : ℕ) (actions : List OfflineAction)

def RideAction.service (settings : RideSettings) : RideAction → Service Unit
  | .startRide driverId rideId input => Deliivo.startRide settings driverId rideId input
  | .driverArrived driverId bookingId input => Deliivo.driverArrived driverId bookingId input
  | .verifyPickupAndBoard driverId bookingId otpHash input =>
    Deliivo.verifyPickupAndBoard driverId bookingId otpHash input
  | .markNoShow driverId bookingId input => Deliivo.markNoShow settings driverId bookingId input
  | .confirmDropoff driverId bookingId input => Deliivo.confirmDropoff driverId bookingId input
  | .riderConfirmDropoff passengerId bookingId input =>
    riderConfirmDropoffRecorded passengerId bookingId input
  | .finishRide driverId rideId input => Deliivo.finishRide driverId rideId input
  | .syncOfflineActions actorId actions => Deliivo.syncOfflineActions settings actorId actions

/-- The ids of the actions of a request. -/
def RideAction.actionIds : RideAction → List ℕ
  | .startRide _ _ input | .driverArrived _ _ input | .verifyPickupAndBoard _ _ _ input
  | .markNoShow _ _ input | .confirmDropoff _ _ input | .riderConfirmDropoff _ _ input
  | .finishRide _ _ input => [input.actionId]
  | .syncOfflineActions _ actions => actions.map OfflineAction.actionId

/-- The request has been recorded, every action of it. -/
def RideAction.Recorded (w : World) (a : RideAction) : Prop :=
  ∀ id ∈ a.actionIds, (findRideEvent id).answer w.db = true

/-- No row of a ride or a booking differs. -/
def SameRows (d d' : Db) : Prop :=
  (∀ id, d'.rides.get? id = d.rides.get? id) ∧ ∀ id, d'.bookings.get? id = d.bookings.get? id

/-- Delivering the request changes no row of a ride or a booking, whatever its steps meet with. -/
def RideAction.KeepsRows (settings : RideSettings) (w : World) (a : RideAction) : Prop :=
  ∀ replies, SameRows w.db (Program.run world replies (a.service settings) 0 w).2.2.db

/-! ## Services that leave the rows alone -/

/-- Whatever the replies, the service leaves the rows as they are. -/
def Keeps {α : Type} (p : Service α) (w : World) : Prop :=
  p.Wp world (fun _ w' => SameRows w.db w'.db) w

/-- The rides and the bookings. -/
def rowFrame : Frame := .ofDb fun d => (d.rides, d.bookings)

section Keeps

variable {α β : Type} {w : World}

theorem sameRows_refl (d : Db) : SameRows d d := ⟨fun _ => rfl, fun _ => rfl⟩

@[simp] theorem keeps_ret (a : α) : Keeps (.ret a) w := sameRows_refl _

@[simp] theorem keeps_throw (e : Err) : Keeps (.throw e : Service α) w := sameRows_refl _

/-- A statement that only reads. -/
theorem keeps_read {s : Stmt β} (hs : ∀ d, s.write d d = d) (f : β → Service α) :
    Keeps ((sql s).bind f) w ↔ Keeps (f (s.answer w.db)) w := by
  have hsame : ({ w with db := s.write w.db w.db } : World) = w := by rw [hs]
  constructor
  · intro h
    have hok : (f (s.answer w.db)).Wp world (fun _ w' => SameRows w.db w'.db)
      { w with db := s.write w.db w.db } := h .ok
    rwa [hsame] at hok
  · intro h i
    cases i with
    | refused | lost => exact sameRows_refl _
    | ok =>
      change (f (s.answer w.db)).Wp world (fun _ w' => SameRows w.db w'.db)
        { w with db := s.write w.db w.db }
      rw [hsame]
      exact h

theorem keeps_clock (f : ℕ → Service α) :
    Keeps ((Program.command .clock).bind f) w ↔ Keeps (f w.now) w :=
  ⟨fun h => h .ok, fun h _ => h⟩

/-- A service that leaves the rows alone ends in a world with the rows it started from. -/
theorem sameRows_of_leaves {p : Service α} (hp : p.Leaves rowFrame) {d : Db} :
    p.Wp world (fun _ w' => SameRows d w'.db) w ↔ SameRows d w.db := by
  have hrows : p.Wp world (fun _ w' => (w'.db.rides, w'.db.bookings) = (w.db.rides, w.db.bookings)) w :=
    hp.preserves (fun rows => rows = (w.db.rides, w.db.bookings)) w rfl
  have hcongr : ∀ w' : World, (w'.db.rides, w'.db.bookings) = (w.db.rides, w.db.bookings) →
      (SameRows d w'.db ↔ SameRows d w.db) := by
    intro w' h
    obtain ⟨hrides, hbookings⟩ := Prod.mk.injEq .. ▸ h
    rw [SameRows, SameRows, hrides, hbookings]
  constructor
  · intro h
    exact (hcongr _ (Program.wp_run hrows (fun _ => .ok) 0)).mp
      (Program.wp_run h (fun _ => .ok) 0)
  · intro h
    exact hrows.mono fun r w' hw' => (hcongr w' hw').mpr h

/-- **The one write.** A service whose rows are written by its first transaction alone leaves them
as they are exactly if the transaction does. -/
theorem keeps_write {body : Ctx → Tx β} {report : β → List Event} {f : β → Service α}
    (hf : ∀ b, (f b).Leaves rowFrame) :
    Keeps ((Program.perform (.transact body report)).bind f) w ↔
      ∀ b d, (body ⟨w.now, w.db.freshId⟩).atomic w.db = .ok (b, d) → SameRows w.db d := by
  constructor
  · intro h b d hbody
    have hok := h .ok
    simp only [world, Call.exec, hbody, Program.ofExcept_ok, Program.ret_bind] at hok
    exact (sameRows_of_leaves (hf b)).mp hok
  · intro h
    refine Program.Wp.bind (Service.wp_transact (fun b d hbody => ?_) fun e => sameRows_refl _)
    exact (sameRows_of_leaves (hf b)).mpr (h b d hbody)

/-- A booking that is written by its id. -/
theorem sameRows_writeBooking {id : ℕ} {b : Booking} {f : Booking → Booking}
    (hrow : w.db.bookings.get? id = some b) :
    (∀ r d, Tx.atomic (Program.perform (update bookings id f)) w.db = .ok (r, d) →
      SameRows w.db d) ↔ f b = b := by
  have hwrite := Service.atomic_update_of_some (T := bookings) (d := w.db) hrow f
  constructor
  · intro h
    have hid := (h _ _ hwrite).2 id
    change (w.db.bookings.modify id f).get? id = _ at hid
    rw [Table.get?_modify_self, hrow] at hid
    exact Option.some.inj hid
  · intro h r d hrun
    obtain ⟨rfl, rfl⟩ := Prod.mk.injEq .. ▸ Except.ok.inj (hwrite.symm.trans hrun)
    refine ⟨fun _ => rfl, fun j => ?_⟩
    refine (Table.get?_modify _ _ _ _).trans ?_
    split_ifs with hj
    · subst hj
      change Option.map f (w.db.bookings.get? j) = w.db.bookings.get? j
      rw [hrow, Option.map_some, h]
    · rfl

/-- `assertOrForce` before the rest. -/
theorem keeps_assertOrForce {forced violated : Bool} {code : String} {f : Unit → Service α} :
    Keeps ((assertOrForce forced violated code).bind f) w ↔
      (forced = true ∨ violated = false → Keeps (f ()) w) := by
  unfold assertOrForce
  cases forced <;> cases violated <;> simp

theorem keeps_assertForceAllowedOnRide {forced : Bool} {status : RideStatus}
    {f : Unit → Service α} :
    Keeps ((assertForceAllowedOnRide forced status).bind f) w ↔
      ((forced = true → status = .inProgress) → Keeps (f ()) w) := by
  unfold assertForceAllowedOnRide
  cases forced with
  | false => simp
  | true => by_cases h : status = .inProgress <;> simp [h]

theorem keeps_requireDriverBooking {driverId bookingId : ℕ} {f : Booking × Ride → Service α} :
    Keeps ((requireDriverBooking driverId bookingId).bind f) w ↔
      ∀ booking ride, (findBookingWithRide bookingId).answer w.db = some (booking, ride) →
        ride.driverId = driverId → Keeps (f (booking, ride)) w := by
  rw [requireDriverBooking, Program.bind_eq, Program.bind_assoc, keeps_read fun _ => rfl]
  cases hfound : (findBookingWithRide bookingId).answer w.db with
  | none => simp
  | some found =>
    obtain ⟨booking, ride⟩ := found
    by_cases hdriver : ride.driverId = driverId
    · simp [hdriver]
    · simp [hdriver]

theorem keeps_requirePassengersBooking {passengerId bookingId : ℕ}
    {f : Booking × Ride → Service α} :
    Keeps ((requirePassengersBooking passengerId bookingId).bind f) w ↔
      ∀ booking ride, (findBookingWithRide bookingId).answer w.db = some (booking, ride) →
        booking.passengerId = passengerId → Keeps (f (booking, ride)) w := by
  rw [requirePassengersBooking, Program.bind_eq, Program.bind_assoc, keeps_read fun _ => rfl]
  cases hfound : (findBookingWithRide bookingId).answer w.db with
  | none => simp
  | some found =>
    obtain ⟨booking, ride⟩ := found
    by_cases hpassenger : booking.passengerId = passengerId
    · simp [hpassenger]
    · simp [hpassenger]

end Keeps

/-! ## What follows the write -/

theorem leaves_recordOperation_rows (rideId bookingId actorId : ℕ) (eventType : String)
    (input : RideEventInput) :
    (recordOperation rideId bookingId actorId eventType input).Leaves rowFrame :=
  (leaves_recordEvent (fun _ _ => rfl) _).bind fun _ => (leaves_handleForcedAction _).bind
    fun _ => leaves_notify

section Write

variable {w : World} {bookingId : ℕ} {booking : Booking} {ride : Ride}

theorem bookings_of_reads
    (h : (findBookingWithRide bookingId).answer w.db = some (booking, ride)) :
    w.db.bookings.get? bookingId = some booking := by
  simp only [findBookingWithRide, Option.bind_eq_bind, Option.bind_eq_some_iff] at h
  obtain ⟨b, hb, r, -, heq⟩ := h
  obtain ⟨rfl, -⟩ := Prod.mk.injEq .. ▸ Option.some.inj heq
  exact hb

/-- An operation that moves a booking. -/
theorem keeps_moveBooking {status : BookingStatus} {f : Booking → Booking} {p : Service Unit}
    (hrow : w.db.bookings.get? bookingId = some booking) (hp : p.Leaves rowFrame) :
    Keeps ((moveBooking bookingId status f).bind fun _ => p) w ↔
      ({ f booking with status } : Booking) = booking := by
  rw [moveBooking, Program.bind_eq, Program.bind_assoc]
  exact (keeps_write (f := fun _ => p) fun _ => hp).trans (sameRows_writeBooking hrow)

theorem keeps_completeBooking {f : Ctx → Booking → Booking} {p : Service Unit}
    (hrow : w.db.bookings.get? bookingId = some booking) (hp : p.Leaves rowFrame) :
    Keeps ((completeBooking bookingId f).bind fun _ => p) w ↔
      ({ f ⟨w.now, w.db.freshId⟩ booking with status := .completed } : Booking) = booking := by
  rw [completeBooking, Program.bind_eq, Program.bind_assoc]
  exact (keeps_write (f := fun _ => p) fun _ => hp).trans (sameRows_writeBooking hrow)

end Write

/-! ## The condition -/

/-- The checks of the action stop it, or it would write what is there already. -/
def RideAction.Harmless (settings : RideSettings) (w : World) : RideAction → Prop
  | .startRide driverId rideId _ => ∀ ride, w.db.rides.get? rideId = some ride →
      ride.driverId = driverId → (ride.status = .published ∨ ride.status = .readyToStart) →
      settings.allowSimulation = false ∧ settings.startTooEarly ride.departureAt w.now = true
  | .driverArrived driverId bookingId input => ∀ booking ride,
      (findBookingWithRide bookingId).answer w.db = some (booking, ride) →
      ride.driverId = driverId → ride.status = .inProgress →
      (input.forced = true ∨ booking.status = .waitingForPickup) →
      booking.status = .driverArrived ∧ booking.driverArrivedAt = some w.now ∧
        booking.waitTimerStartedAt = some w.now
  | .verifyPickupAndBoard driverId bookingId _ input => ∀ booking ride,
      (findBookingWithRide bookingId).answer w.db = some (booking, ride) →
      ride.driverId = driverId → (input.forced = true → ride.status = .inProgress) →
      (input.forced = true ∨
        (booking.status = .driverArrived ∨ booking.status = .waitingForPickup) ∧
          booking.pickupOtpHash.isSome = true ∧ booking.pickupOtpExpiresAt.any (· < w.now) = false ∧
          booking.otpAttemptCount < maxOtpAttempts) →
      booking.status = .onboard ∧ booking.pickupOtpVerifiedAt = some w.now ∧
        booking.onboardedAt = some w.now
  | .markNoShow driverId bookingId input => ∀ booking ride,
      (findBookingWithRide bookingId).answer w.db = some (booking, ride) →
      ride.driverId = driverId → (input.forced = true → ride.status = .inProgress) →
      (input.forced = true ∨
        (booking.status = .driverArrived ∨ booking.status = .waitingForPickup) ∧
          (noShowAvailableAt settings booking.waitTimerStartedAt).any (w.now < ·) = false) →
      booking.status = .noShow ∧ booking.noShowMarkedAt = some w.now
  | .confirmDropoff driverId bookingId input => ∀ booking ride,
      (findBookingWithRide bookingId).answer w.db = some (booking, ride) →
      ride.driverId = driverId → (input.forced = true → ride.status = .inProgress) →
      (input.forced = true ∨ booking.status = .onboard ∨ booking.status = .inProgress) →
      booking.status = .dropPending ∧ booking.dropoffConfirmedAt = some w.now
  | .riderConfirmDropoff passengerId bookingId input => ∀ booking ride,
      (findBookingWithRide bookingId).answer w.db = some (booking, ride) →
      booking.passengerId = passengerId → (input.forced = true → ride.status = .inProgress) →
      (input.forced = true ∨ booking.status = .dropPending) →
      booking.status = .completed ∧ booking.riderDropoffConfirmedAt = some w.now ∧
        booking.completedAt = some w.now
  | .finishRide driverId rideId input => ∀ ride, w.db.rides.get? rideId = some ride →
      ride.driverId = driverId → ride.status = .inProgress →
      input.forced = false ∧ ∃ id b, w.db.bookings.get? id = some b ∧ b.rideId = rideId ∧
        b.status.blocksCompletion = true
  | .syncOfflineActions _ _ => True

/-! ## The operations -/

section Operations

variable {settings : RideSettings} {w : World} {driverId bookingId : ℕ} {input : RideEventInput}

/-- What `driverArrived` writes is there already. -/
theorem arrived_eq_iff (b : Booking) (now : ℕ) :
    ({ b with status := .driverArrived, driverArrivedAt := some now, waitTimerStartedAt := some now } :
        Booking) = b ↔
      b.status = .driverArrived ∧ b.driverArrivedAt = some now ∧ b.waitTimerStartedAt = some now := by
  constructor
  · intro h
    exact ⟨(congrArg Booking.status h).symm, (congrArg Booking.driverArrivedAt h).symm,
      (congrArg Booking.waitTimerStartedAt h).symm⟩
  · obtain ⟨⟩ := b
    rintro ⟨rfl, rfl, rfl⟩
    rfl

theorem keeps_driverArrived :
    Keeps (driverArrived driverId bookingId input) w ↔
      (RideAction.driverArrived driverId bookingId input).Harmless settings w := by
  refine keeps_requireDriverBooking.trans ?_
  refine forall₂_congr fun booking ride => forall₂_congr fun hreads _ => ?_
  dsimp only
  by_cases hstatus : ride.status = .inProgress
  · rw [if_neg (not_not.mpr hstatus)]
    refine keeps_assertForceAllowedOnRide.trans ?_
    refine (imp_iff_right fun _ => hstatus).trans (keeps_assertOrForce.trans ?_)
    refine Iff.trans (imp_congr ?_ ?_) (imp_iff_right hstatus).symm
    · exact or_congr_right bne_eq_false_iff_eq
    · exact (keeps_clock _).trans ((keeps_moveBooking (bookings_of_reads hreads)
        (leaves_recordOperation_rows _ _ _ _ _)).trans (arrived_eq_iff booking w.now))
  · rw [if_pos hstatus]
    exact iff_of_true (keeps_throw _) fun h => absurd h hstatus

theorem droppedOff_eq_iff (b : Booking) (now : ℕ) :
    ({ b with status := .dropPending, dropoffConfirmedAt := some now } : Booking) = b ↔
      b.status = .dropPending ∧ b.dropoffConfirmedAt = some now := by
  constructor
  · intro h
    exact ⟨(congrArg Booking.status h).symm, (congrArg Booking.dropoffConfirmedAt h).symm⟩
  · obtain ⟨⟩ := b
    rintro ⟨rfl, rfl⟩
    rfl

theorem keeps_confirmDropoff :
    Keeps (confirmDropoff driverId bookingId input) w ↔
      (RideAction.confirmDropoff driverId bookingId input).Harmless settings w := by
  refine keeps_requireDriverBooking.trans ?_
  refine forall₂_congr fun booking ride => forall₂_congr fun hreads _ => ?_
  refine keeps_assertForceAllowedOnRide.trans (imp_congr Iff.rfl (keeps_assertOrForce.trans ?_))
  refine imp_congr (or_congr_right ?_) ?_
  · cases booking.status <;> decide
  · exact (keeps_clock _).trans ((keeps_moveBooking (bookings_of_reads hreads)
      (leaves_recordOperation_rows _ _ _ _ _)).trans (droppedOff_eq_iff booking w.now))

theorem noShow_eq_iff (b : Booking) (now : ℕ) :
    ({ b with status := .noShow, noShowMarkedAt := some now } : Booking) = b ↔
      b.status = .noShow ∧ b.noShowMarkedAt = some now := by
  constructor
  · intro h
    exact ⟨(congrArg Booking.status h).symm, (congrArg Booking.noShowMarkedAt h).symm⟩
  · obtain ⟨⟩ := b
    rintro ⟨rfl, rfl⟩
    rfl

theorem keeps_markNoShow :
    Keeps (markNoShow settings driverId bookingId input) w ↔
      (RideAction.markNoShow driverId bookingId input).Harmless settings w := by
  refine keeps_requireDriverBooking.trans ?_
  refine forall₂_congr fun booking ride => forall₂_congr fun hreads _ => ?_
  refine keeps_assertForceAllowedOnRide.trans (imp_congr Iff.rfl (keeps_assertOrForce.trans ?_))
  refine (imp_congr Iff.rfl ((keeps_clock _).trans (keeps_assertOrForce.trans (imp_congr Iff.rfl
    ((keeps_moveBooking (bookings_of_reads hreads)
      (leaves_recordOperation_rows _ _ _ _ _)).trans (noShow_eq_iff booking w.now)))))).trans ?_
  rw [← and_imp]
  refine imp_congr ?_ Iff.rfl
  rw [← or_and_left]
  refine or_congr_right (and_congr_left' ?_)
  cases booking.status <;> decide

theorem onboard_eq_iff (b : Booking) (now : ℕ) :
    ({ b with status := .onboard, pickupOtpVerifiedAt := some now, onboardedAt := some now } :
        Booking) = b ↔
      b.status = .onboard ∧ b.pickupOtpVerifiedAt = some now ∧ b.onboardedAt = some now := by
  constructor
  · intro h
    exact ⟨(congrArg Booking.status h).symm, (congrArg Booking.pickupOtpVerifiedAt h).symm,
      (congrArg Booking.onboardedAt h).symm⟩
  · obtain ⟨⟩ := b
    rintro ⟨rfl, rfl, rfl⟩
    rfl

theorem dropConfirmed_eq_iff (b : Booking) (now : ℕ) :
    ({ b with riderDropoffConfirmedAt := some now, completedAt := some now, status := .completed } :
        Booking) = b ↔
      b.status = .completed ∧ b.riderDropoffConfirmedAt = some now ∧ b.completedAt = some now := by
  constructor
  · intro h
    exact ⟨(congrArg Booking.status h).symm, (congrArg Booking.riderDropoffConfirmedAt h).symm,
      (congrArg Booking.completedAt h).symm⟩
  · obtain ⟨⟩ := b
    rintro ⟨rfl, rfl, rfl⟩
    rfl

theorem keeps_riderConfirmDropoff {passengerId : ℕ} :
    Keeps (riderConfirmDropoffRecorded passengerId bookingId input) w ↔
      (RideAction.riderConfirmDropoff passengerId bookingId input).Harmless settings w := by
  refine keeps_requirePassengersBooking.trans ?_
  refine forall₂_congr fun booking ride => forall₂_congr fun hreads _ => ?_
  refine keeps_assertForceAllowedOnRide.trans (imp_congr Iff.rfl (keeps_assertOrForce.trans ?_))
  refine imp_congr (or_congr_right bne_eq_false_iff_eq) ?_
  exact (keeps_clock _).trans ((keeps_completeBooking (bookings_of_reads hreads)
    (leaves_recordOperation_rows _ _ _ _ _)).trans (dropConfirmed_eq_iff booking w.now))

/-- A failed guess is counted, which no forced call is. -/
theorem keeps_assertOtpValid {isValid forced : Bool} {booking : Booking} {p : Service Unit}
    (hrow : w.db.bookings.get? bookingId = some booking) :
    Keeps ((assertOtpValid bookingId isValid forced).bind fun _ => p) w ↔
      (forced = true ∨ isValid = true) ∧ Keeps p w := by
  unfold assertOtpValid
  by_cases hguess : (!isValid && !forced) = true
  · rw [if_pos hguess, Program.bind_eq, Program.bind_assoc]
    refine iff_of_false ?_ ?_
    · intro h
      have hsame := (keeps_write (f := fun _ => (.throw (.text "INVALID_PICKUP_OTP") : Service Unit))
        fun _ => trivial).mp h
      have hcount := congrArg Booking.otpAttemptCount ((sameRows_writeBooking hrow).mp hsame)
      exact absurd hcount (Nat.succ_ne_self _)
    · rintro ⟨hforced | hvalid, -⟩
      · simp [hforced] at hguess
      · simp [hvalid] at hguess
  · rw [if_neg hguess]
    refine (and_iff_right ?_).symm
    revert hguess
    cases forced <;> cases isValid <;> simp

theorem keeps_verifyPickupAndBoard {otpHash : Option String} :
    Keeps (verifyPickupAndBoard driverId bookingId otpHash input) w ↔
      (RideAction.verifyPickupAndBoard driverId bookingId otpHash input).Harmless settings w := by
  refine keeps_requireDriverBooking.trans ?_
  refine forall₂_congr fun booking ride => forall₂_congr fun hreads _ => ?_
  have hrow := bookings_of_reads hreads
  refine keeps_assertForceAllowedOnRide.trans (imp_congr Iff.rfl ?_)
  have hmove := (keeps_moveBooking (f := fun b =>
    { b with pickupOtpVerifiedAt := some w.now, onboardedAt := some w.now }) hrow
    (leaves_recordOperation_rows booking.rideId bookingId driverId "PICKUP_OTP_VERIFIED" input)).trans
      (onboard_eq_iff booking w.now)
  refine (keeps_assertOrForce.trans (imp_congr Iff.rfl (keeps_assertOrForce.trans (imp_congr Iff.rfl
    ((keeps_clock _).trans (keeps_assertOrForce.trans (imp_congr Iff.rfl (keeps_assertOrForce.trans
      (imp_congr Iff.rfl ((keeps_assertOtpValid hrow).trans (and_congr_right' hmove))))))))))).trans ?_
  have hstatus : (booking.status != .driverArrived && booking.status != .waitingForPickup) = false ↔
      booking.status = .driverArrived ∨ booking.status = .waitingForPickup := by
    cases booking.status <;> decide
  have hhash : booking.pickupOtpHash.isNone = false ↔ booking.pickupOtpHash.isSome = true := by
    cases booking.pickupOtpHash <;> simp
  have hattempts : decide (maxOtpAttempts ≤ booking.otpAttemptCount) = false ↔
      booking.otpAttemptCount < maxOtpAttempts := by
    rw [decide_eq_false_iff_not, not_le]
  rw [hstatus, hhash, hattempts]
  constructor
  · rintro h (hforced | ⟨h₁, h₂, h₃, h₄⟩)
    · exact (h (Or.inl hforced) (Or.inl hforced) (Or.inl hforced) (Or.inl hforced)).2
    · exact (h (Or.inr h₁) (Or.inr h₂) (Or.inr h₃) (Or.inr h₄)).2
  · intro h h₁ h₂ h₃ h₄
    by_cases hforced : input.forced = true
    · exact ⟨Or.inl hforced, h (Or.inl hforced)⟩
    · -- A call that is not forced has found the rider at the pickup, and would board them.
      have hpickup := h₁.resolve_left hforced
      obtain ⟨honboard, -⟩ := h (Or.inr ⟨hpickup, h₂.resolve_left hforced,
        h₃.resolve_left hforced, h₄.resolve_left hforced⟩)
      rcases hpickup with hpickup | hpickup
      all_goals
        rw [hpickup] at honboard
        cases honboard

/-! ### Rides -/

theorem keeps_assertStartable {α : Type} {status : RideStatus} {f : Unit → Service α} :
    Keeps ((assertStartable status).bind f) w ↔
      (status = .published ∨ status = .readyToStart → Keeps (f ()) w) := by
  cases status <;> simp [assertStartable, assertRideTransition, RideStatus.transitions]

theorem keeps_assertStartWindow {α : Type} {departureAt : ℕ} {f : Unit → Service α} :
    Keeps ((assertStartWindow settings departureAt).bind f) w ↔
      (settings.allowSimulation = true ∨ settings.startTooEarly departureAt w.now = false →
        Keeps (f ()) w) := by
  unfold assertStartWindow
  by_cases hsimulation : settings.allowSimulation = true
  · simp [hsimulation]
  · rw [if_neg hsimulation, Program.bind_eq, Program.bind_assoc, keeps_clock]
    by_cases hearly : settings.startTooEarly departureAt w.now = true
    · simp [hsimulation, hearly]
    · simp [hsimulation, hearly]

/-- A ride that is moved to another status stays there, whatever follows. -/
theorem not_keeps_moveRide {rideId : ℕ} {ride : Ride} {status : RideStatus} {f : Ride → Ride}
    {p : Service Unit} (hrow : w.db.rides.get? rideId = some ride) (hstatus : ride.status ≠ status)
    (hp : p.Leaves (.ofDb Db.rides)) : ¬ Keeps ((moveRide rideId status f).bind fun _ => p) w := by
  intro h
  rw [moveRide, Program.bind_eq, Program.bind_assoc] at h
  have hwrite := Service.atomic_update_of_some (T := rides) (d := w.db) hrow
    fun r => { f r with status }
  have hok := h .ok
  simp only [world, Call.exec, hwrite] at hok
  set w' : World := { w with db := rides.set w.db ((rides.get w.db).modify rideId
    fun r => { f r with status }) } with hw'
  have hleft : p.Wp world (fun _ w'' => w''.db.rides = w'.db.rides) w' :=
    hp.preserves (fun t => t = w'.db.rides) w' rfl
  have hfinal := (Program.wp_run (show p.Wp world (fun _ w'' => SameRows w.db w''.db) w' from hok)
    (fun _ => .ok) 0).1 rideId
  rw [Program.wp_run hleft (fun _ => .ok) 0, hrow] at hfinal
  have hmoved : w'.db.rides.get? rideId = some { f ride with status } :=
    (Table.get?_modify_self _ _ _).trans (congrArg (Option.map _) hrow)
  exact hstatus (congrArg Ride.status (Option.some.inj (hmoved.symm.trans hfinal))).symm

theorem keeps_startRide {rideId : ℕ} :
    Keeps (startRide settings driverId rideId input) w ↔
      (RideAction.startRide driverId rideId input).Harmless settings w := by
  rw [startRide, Program.bind_eq, keeps_read fun _ => rfl]
  simp only [findRideWithBookings, RideAction.Harmless]
  cases hrow : w.db.rides.get? rideId with
  | none => simp
  | some ride =>
    simp only [Option.map_some, Option.some.injEq, forall_eq']
    by_cases hdriver : ride.driverId = driverId
    · rw [if_neg (not_not.mpr hdriver), imp_iff_right hdriver]
      refine keeps_assertStartable.trans (imp_congr_right fun hstatus => ?_)
      have hmoves : ride.status ≠ .inProgress := by
        rcases hstatus with h | h <;> rw [h] <;> decide
      refine (keeps_assertStartWindow.trans (imp_congr Iff.rfl ((keeps_clock _).trans
        (iff_false_intro (not_keeps_moveRide hrow hmoves ?_))))).trans ?_
      · refine (leaves_sql fun _ _ => rfl).bind fun _ => ?_
        refine (leaves_recordEvent (fun _ _ => rfl) _).bind fun _ => ?_
        exact Program.Issues.forEach fun _ => leaves_notify
      · cases settings.allowSimulation <;> simp
    · rw [if_pos hdriver]
      simp [hdriver]

theorem keeps_finishRide {rideId : ℕ} :
    Keeps (finishRide driverId rideId input) w ↔
      (RideAction.finishRide driverId rideId input).Harmless settings w := by
  rw [finishRide, Program.bind_eq, keeps_read fun _ => rfl]
  simp only [findRideWithBookings, RideAction.Harmless]
  cases hrow : w.db.rides.get? rideId with
  | none => simp
  | some ride =>
    simp only [Option.map_some, Option.some.injEq, forall_eq']
    by_cases hdriver : ride.driverId = driverId
    · rw [if_neg (not_not.mpr hdriver), imp_iff_right hdriver]
      by_cases hstatus : ride.status = .inProgress
      · rw [if_neg (not_not.mpr hstatus), imp_iff_right hstatus]
        -- the force check passes on a ride in progress, and what follows does move the ride
        refine keeps_assertForceAllowedOnRide.trans ((imp_iff_right fun _ => hstatus).trans ?_)
        have hmoves : ride.status ≠ .completed := by
          rw [hstatus]
          decide
        refine (keeps_assertOrForce.trans (imp_congr Iff.rfl
          (iff_false_intro (not_keeps_moveRide hrow hmoves ?_)))).trans ?_
        · refine (leaves_recordEvent (fun _ _ => rfl) _).bind fun _ => Program.Issues.bind ?_
            fun _ => leaves_notify
          exact Program.Issues.forEach fun _ => leaves_handleForcedAction _
        · -- so the call must be stopped by a blocking booking, unforced
          rw [imp_false, not_or, Bool.not_eq_true, Bool.not_eq_false, decide_eq_true_iff]
          refine and_congr_right' ?_
          rw [ne_eq, List.filter_eq_nil_iff, not_forall]
          constructor
          · rintro ⟨⟨id, b⟩, h⟩
            obtain ⟨hmem, hblocks⟩ := Classical.not_imp.mp h
            obtain ⟨hbooking, hP⟩ := Table.mem_filter_iff.mp hmem
            exact ⟨id, b, hbooking, by simpa using hP, not_not.mp hblocks⟩
          · rintro ⟨id, b, hbooking, hride, hblocks⟩
            refine ⟨(id, b), fun h => h (Table.mem_filter_iff.mpr ⟨hbooking, ?_⟩) hblocks⟩
            simpa using hride
      · rw [if_pos hstatus]
        simp [hstatus]
    · rw [if_pos hdriver]
      simp [hdriver]

/-- An offline batch of which every action has been recorded is passed over. -/
theorem keeps_syncOfflineActions {actorId : ℕ} {actions : List OfflineAction}
    (h : (RideAction.syncOfflineActions actorId actions).Recorded w) :
    Keeps (syncOfflineActions settings actorId actions) w := by
  unfold syncOfflineActions
  induction actions with
  | nil => exact keeps_ret ()
  | cons action actions ih =>
    rw [Program.forEach_cons, Program.bind_eq, Program.bind_assoc, keeps_read fun _ => rfl]
    rw [if_pos (h action.actionId List.mem_cons_self)]
    exact ih fun id hid => h id (List.mem_cons_of_mem _ hid)

end Operations

/-! ## The law -/

/-- **Replay.** An action that has been recorded leaves the rows of the rides and bookings alone when
it is delivered again, whatever its steps meet with, exactly if its checks stop it or what it would
write is there; queued actions are always passed over. -/
theorem replay_keeps_iff (settings : RideSettings) (w : World) (a : RideAction)
    (h : a.Recorded w) : a.KeepsRows settings w ↔ a.Harmless settings w := by
  have hkeeps : a.KeepsRows settings w ↔ Keeps (a.service settings) w :=
    (Program.wp_iff_run (M := world) (Q := fun _ w' => SameRows w.db w'.db) 0).symm
  rw [hkeeps]
  cases a with
  | startRide driverId rideId input => exact keeps_startRide
  | driverArrived driverId bookingId input => exact keeps_driverArrived
  | verifyPickupAndBoard driverId bookingId otpHash input => exact keeps_verifyPickupAndBoard
  | markNoShow driverId bookingId input => exact keeps_markNoShow
  | confirmDropoff driverId bookingId input => exact keeps_confirmDropoff
  | riderConfirmDropoff passengerId bookingId input => exact keeps_riderConfirmDropoff
  | finishRide driverId rideId input => exact keeps_finishRide
  | syncOfflineActions actorId actions => exact iff_of_true (keeps_syncOfflineActions h) trivial

/-- A rider is waiting for the driver of a ride that is under way. -/
private def waitingWorld : World where
  db := {
    rides := ⟨[(0, {
      driverId := 1, totalSeats := 3, availableSeats := 2, status := .inProgress
      departureAt := 10 })], List.nodup_singleton _⟩
    bookings := ⟨[(0, {
      rideId := 0, passengerId := 2, seatsBooked := 1, totalPrice := 900
      status := .waitingForPickup, pickupOtpHash := some "1234" })], List.nodup_singleton _⟩ }

/-- The world that a request leaves which is delivered at `now`, every step of it taking place. -/
private def delivered (a : RideAction) (now : ℕ) (w : World) : World :=
  (Program.run world (fun _ => .ok) (a.service {}) 0 { w with now }).2.2

/-- The driver's arrival, which the client has forced. -/
private def forcedArrival : RideAction := .driverArrived 1 0 { actionId := 7, forced := true }

/-- The driver has arrived, and the rider is on board. -/
private def boardedWorld : World :=
  delivered (.verifyPickupAndBoard 1 0 (some "1234") { actionId := 8 }) 20
    (delivered forcedArrival 10 waitingWorld)

theorem replay_keeps_iff_boarding :
    (RideAction.verifyPickupAndBoard 1 0 (some "1234") { actionId := 8 }).KeepsRows {}
      boardedWorld := by
  refine (replay_keeps_iff {} boardedWorld _ ?_).mpr ?_
  · intro id hid
    rw [List.mem_singleton.mp hid]
    rfl
  · -- The rider is on board, so the check of the status stops the call.
    intro booking ride hreads _ _ hchecks
    obtain ⟨rfl, rfl⟩ := Prod.mk.injEq .. ▸ Option.some.inj hreads
    rcases hchecks with hforced | ⟨hstatus | hstatus, -⟩
    · cases hforced
    · cases hstatus
    · cases hstatus

/-- An arrival that was forced is written again once the rider is on board. -/
theorem replay_moves_back :
    ¬ ∀ (settings : RideSettings) (w : World) (a : RideAction), a.Recorded w →
      a.KeepsRows settings w := by
  intro h
  have hrecorded : forcedArrival.Recorded boardedWorld := by
    intro id hid
    rw [List.mem_singleton.mp hid]
    rfl
  have hkeeps := (h {} boardedWorld forcedArrival hrecorded (fun _ => .ok)).2 0
  have hstatus := congrArg (Option.map Booking.status) hkeeps
  cases hstatus

end Deliivo
