import Deliivo.Booking.Ending
import Deliivo.Ride.Lifecycle
import Deliivo.Trip.Completion

/-!
# On the road

What the driver and the rider report of a booking while its ride is under way. Each call checks the
status that it has read, which a forced call need not have found, and writes the booking by its id.
Actions that were queued while the client was offline are replayed, and a replay always forces.

## Main definitions

* `driverArrived`, `verifyPickupAndBoard`, `markNoShow`, `confirmDropoff`, `reportMissedPickup`: the
  ride operations
* `verifyPickupOtp`: the driver's older call
* `syncOfflineActions`: queued actions
-/

namespace Deliivo

/-! ## What the operations share -/

/-- Write the status of a booking by its id, and `f` besides. -/
def moveBooking (bookingId : ℕ) (status : BookingStatus) (f : Booking → Booking) : Service Unit := do
  let _ ← Program.perform <| .transact
    (fun _ => Program.perform <| update bookings bookingId fun b => { f b with status })
    fun _ => [.bookingMoved bookingId status]

/-- A booking of the rider's, with its ride. -/
def requirePassengersBooking (passengerId bookingId : ℕ) : Service (Booking × Ride) := do
  let found ← sql (findBookingWithRide bookingId)
  match found with
  | none => throw (.text "BOOKING_NOT_FOUND")
  | some (booking, ride) =>
    if booking.passengerId ≠ passengerId then throw (.text "FORBIDDEN_PASSENGER")
    else return (booking, ride)

/-- What follows an operation: its record, and what the other side is told. Locations, which the
geofence check is about, are left out. -/
def recordOperation (rideId bookingId actorId : ℕ) (eventType : String) (input : RideEventInput) :
    Service Unit := do
  recordEvent { actionId := input.actionId, rideId, bookingId := some bookingId, eventType, actorId }
  handleForcedAction input.forced
  notify

/-- A failed guess counts, unless the call was forced. -/
def assertOtpValid (bookingId : ℕ) (isValid forced : Bool) : Service Unit :=
  if !isValid && !forced then do
    let _ ← sqlOrThrow (update bookings bookingId fun b =>
      { b with otpAttemptCount := b.otpAttemptCount + 1 })
    throw (.text "INVALID_PICKUP_OTP")
  else return ()

/-! ## The driver's calls -/

def driverArrived (driverId bookingId : ℕ) (input : RideEventInput) : Service Unit := do
  let (booking, ride) ← requireDriverBooking driverId bookingId
  if ride.status ≠ .inProgress then throw (.text "RIDE_NOT_IN_PROGRESS")
  else
    assertForceAllowedOnRide input.forced ride.status
    assertOrForce input.forced (booking.status != .waitingForPickup)
      "BOOKING_NOT_WAITING_FOR_PICKUP"
    let now ← Program.command .clock
    moveBooking bookingId .driverArrived fun b =>
      { b with driverArrivedAt := some now, waitTimerStartedAt := some now }
    recordOperation booking.rideId bookingId driverId "DRIVER_ARRIVED" input

/-- `verifyPickupAndBoard`; `otpHash` is the hash of the OTP that was entered. -/
def verifyPickupAndBoard (driverId bookingId : ℕ) (otpHash : Option String)
    (input : RideEventInput) : Service Unit := do
  let (booking, ride) ← requireDriverBooking driverId bookingId
  assertForceAllowedOnRide input.forced ride.status
  assertOrForce input.forced
    (booking.status != .driverArrived && booking.status != .waitingForPickup)
    "BOOKING_NOT_READY_FOR_OTP"
  assertOrForce input.forced booking.pickupOtpHash.isNone "PICKUP_OTP_NOT_AVAILABLE"
  let now ← Program.command .clock
  assertOrForce input.forced (booking.pickupOtpExpiresAt.any (· < now)) "PICKUP_OTP_EXPIRED"
  assertOrForce input.forced (maxOtpAttempts ≤ booking.otpAttemptCount) "OTP_ATTEMPT_LIMIT_EXCEEDED"
  assertOtpValid bookingId (booking.pickupOtpHash.isSome && otpHash == booking.pickupOtpHash)
    input.forced
  moveBooking bookingId .onboard fun b =>
    { b with pickupOtpVerifiedAt := some now, onboardedAt := some now }
  recordOperation booking.rideId bookingId driverId "PICKUP_OTP_VERIFIED" input

/-- `WAIT_TIME_MINUTES`, as milliseconds. -/
def waitTimeMs : ℕ := 10 * 60 * 1000

/-- `noShowAvailableAt`. -/
def noShowAvailableAt (settings : RideSettings) (waitTimerStartedAt : Option ℕ) : Option ℕ :=
  waitTimerStartedAt.map fun started => if settings.allowSimulation then started else started + waitTimeMs

def markNoShow (settings : RideSettings) (driverId bookingId : ℕ) (input : RideEventInput) :
    Service Unit := do
  let (booking, ride) ← requireDriverBooking driverId bookingId
  assertForceAllowedOnRide input.forced ride.status
  assertOrForce input.forced
    (booking.status != .driverArrived && booking.status != .waitingForPickup)
    "BOOKING_NOT_AT_PICKUP"
  let now ← Program.command .clock
  assertOrForce input.forced ((noShowAvailableAt settings booking.waitTimerStartedAt).any (now < ·))
    "WAIT_TIME_NOT_ELAPSED"
  moveBooking bookingId .noShow fun b => { b with noShowMarkedAt := some now }
  recordOperation booking.rideId bookingId driverId "NO_SHOW_MARKED" input

def confirmDropoff (driverId bookingId : ℕ) (input : RideEventInput) : Service Unit := do
  let (booking, ride) ← requireDriverBooking driverId bookingId
  assertForceAllowedOnRide input.forced ride.status
  assertOrForce input.forced (booking.status != .onboard && booking.status != .inProgress)
    "BOOKING_NOT_ONBOARD"
  let now ← Program.command .clock
  moveBooking bookingId .dropPending fun b => { b with dropoffConfirmedAt := some now }
  recordOperation booking.rideId bookingId driverId "DROPOFF_CONFIRMED_DRIVER" input

/-- `auditForcedOtp`: the older calls write a ride event only if they were forced. -/
def auditForcedOtp (rideId bookingId driverId : ℕ) (eventType : String) (forced : Bool) :
    Service Unit :=
  if forced then do
    let actionId ← Program.command .randomUUID
    recordEvent { actionId, rideId, bookingId := some bookingId, eventType, actorId := driverId }
    handleForcedAction forced
  else return ()

/-- `verifyPickupOtp`; `otpHash` is the hash of the OTP that was entered. -/
def verifyPickupOtp (driverId bookingId : ℕ) (otpHash : Option String) (forced : Bool) :
    Service Unit := do
  let (booking, ride) ← requireDriverBooking driverId bookingId
  assertForceAllowedOnRide forced ride.status
  assertOrForce forced (booking.status != .confirmed) "INVALID_BOOKING_STATUS"
  assertOrForce forced (booking.pickupOtpHash.isNone || booking.pickupOtpExpiresAt.isNone)
    "PICKUP_OTP_NOT_AVAILABLE"
  let now ← Program.command .clock
  assertOrForce forced (booking.pickupOtpExpiresAt.any (· < now)) "PICKUP_OTP_EXPIRED"
  assertOrForce forced (maxOtpAttempts ≤ booking.otpAttemptCount) "OTP_ATTEMPT_LIMIT_EXCEEDED"
  assertOtpValid bookingId (booking.pickupOtpHash.isSome && otpHash == booking.pickupOtpHash) forced
  let verifiedAt ← Program.command .clock
  moveBooking bookingId .inProgress fun b =>
    { b with pickupOtpVerifiedAt := some verifiedAt, otpAttemptCount := 0 }
  notify
  auditForcedOtp booking.rideId bookingId driverId "PICKUP_OTP_VERIFIED" forced

/-! ## The rider's call -/

/-- `reportMissedPickup`, which cannot be forced. -/
def reportMissedPickup (passengerId bookingId : ℕ) (input : RideEventInput) : Service Unit := do
  let (booking, _) ← requirePassengersBooking passengerId bookingId
  if booking.status ≠ .waitingForPickup ∧ booking.status ≠ .confirmed then
    throw (.text "BOOKING_NOT_WAITING_FOR_PICKUP")
  else
    moveBooking bookingId .driverMissedPickup id
    recordEvent {
      actionId := input.actionId
      rideId := booking.rideId
      bookingId := some bookingId
      eventType := "MISSED_PICKUP_REPORTED"
      actorId := passengerId }

/-! ## Queued actions -/

/-- An action that was queued while the client was offline. -/
structure OfflineAction where
  actionId : ℕ
  eventType : String
  rideId : ℕ
  bookingId : Option ℕ
  deriving DecidableEq, Repr

inductive ActorType
  | driver | rider
  deriving DecidableEq, Repr

/-- Who the actor of a queued action is. -/
def offlineActor (actorId : ℕ) (ride : Ride) (booking : Option Booking) : Option ActorType :=
  if ride.driverId = actorId then some .driver
  else if booking.any fun b => b.passengerId == actorId then some .rider
  else none

/-- The booking of a queued action, if it names one that is there. -/
def findOfflineBooking (bookingId : Option ℕ) : Service (Option Booking) :=
  match bookingId with
  | none => return none
  | some bookingId => sql (findUnique bookings bookingId)

/-- The actor of a queued action, or the reason for which it is refused. -/
def requireOfflineActor (actorId : ℕ) (action : OfflineAction) : Service ActorType := do
  let ride ← sql (findUnique rides action.rideId)
  let booking ← findOfflineBooking action.bookingId
  match ride with
  | none => throw (.text "RIDE_OR_BOOKING_NOT_FOUND")
  | some ride =>
    if booking.any fun b => b.rideId != action.rideId then
      throw (.text "RIDE_OR_BOOKING_NOT_FOUND")
    else
      match offlineActor actorId ride booking with
      | none => throw (.text "FORBIDDEN_ACTOR")
      | some actorType => return actorType

/-- Replay a manual action, by force; whether there was one to replay. -/
def replayAction (settings : RideSettings) (actorId : ℕ) (actorType : ActorType)
    (action : OfflineAction) : Service Bool := do
  -- every replayed action is forced
  let input : RideEventInput := { actionId := action.actionId, forced := true }
  match actorType, action.eventType, action.bookingId with
  | .driver, "MANUAL_START_RIDE", _ =>
    startRide settings actorId action.rideId input
    return true
  | .driver, "MANUAL_FINISH_RIDE", _ =>
    finishRide actorId action.rideId input
    return true
  | .driver, "MANUAL_DRIVER_ARRIVED", some bookingId =>
    driverArrived actorId bookingId input
    return true
  | .driver, "MANUAL_PICKUP_APPROVAL", some bookingId =>
    verifyPickupAndBoard actorId bookingId none input
    return true
  | .driver, "MANUAL_CONFIRM_DROPOFF", some bookingId =>
    confirmDropoff actorId bookingId input
    return true
  | _, _, _ => return false

/-- The record of a queued action that was not replayed. -/
def recordOfflineAction (actorId : ℕ) (action : OfflineAction) : Service Unit :=
  sqlOrThrow <| createRideEvent {
    actionId := action.actionId
    rideId := action.rideId
    bookingId := action.bookingId
    eventType := action.eventType
    actorId }

def recordUnlessRepaired (autoRepaired : Bool) (actorId : ℕ) (action : OfflineAction) :
    Service Unit :=
  if autoRepaired then return () else recordOfflineAction actorId action

/-- One action that has not been recorded. -/
def applyOfflineAction (settings : RideSettings) (actorId : ℕ) (action : OfflineAction) :
    Service Unit := do
  let actorType ← requireOfflineActor actorId action
  if !"MANUAL_".isPrefixOf action.eventType then recordOfflineAction actorId action
  else
    let autoRepaired ← (replayAction settings actorId actorType action).tryCatch fun _ => return false
    recordUnlessRepaired autoRepaired actorId action
    createIssue {
      paymentId := none
      bookingId := action.bookingId
      issueType := .offlineManualRecovery
      autoRepaired
      rideId := some action.rideId }

/-- `syncOfflineActions`: an action that fails does not hold up the next. -/
def syncOfflineActions (settings : RideSettings) (actorId : ℕ) (actions : List OfflineAction) :
    Service Unit :=
  Program.forEach actions fun action => do
    let existing ← sql (findRideEvent action.actionId)
    if existing then return ()
    else (applyOfflineAction settings actorId action).tryCatch fun _ => return ()

end Deliivo
