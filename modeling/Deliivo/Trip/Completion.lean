import Deliivo.Booking.Seats
import Deliivo.Payment.Service
import Deliivo.Payout.Service

/-!
# Completing a trip

Four calls move a booking to `COMPLETED`: the driver enters the rider's drop-off OTP, the rider
confirms the drop-off, the driver completes the ride, and support completes a booking by force.

## Main definitions

* `assertOrForce`, `assertForceAllowedOnRide`: checks that a driver or rider can override
* `verifyDropOtp`, `riderConfirmDropoff`, `completeRide`, `adminForceCompleteBooking`
-/

namespace Deliivo

/-! ## Forcing -/

/-- `assertOrForce`: a violated check stops a call that was not forced. -/
def assertOrForce (forced violated : Bool) (code : String) : Service Unit :=
  if violated && !forced then throw (.text code) else return ()

/-- `assertForceAllowedOnRide`: only while the ride is running. -/
def assertForceAllowedOnRide (forced : Bool) (rideStatus : RideStatus) : Service Unit :=
  if forced && rideStatus != .inProgress then throw (.text "FORCE_REQUIRES_RIDE_IN_PROGRESS")
  else return ()

/-! ## Completing a booking -/

/-- Move one booking to `COMPLETED`, writing `f` besides. -/
def completeBooking (bookingId : ℕ) (f : Ctx → Booking → Booking) : Service Unit := do
  let _ ← Program.perform (.transact
    (fun ctx => Program.perform <|
      update bookings bookingId fun b => { f ctx b with status := .completed })
    fun _ => [.tripCompleted bookingId])

/-- `MAX_OTP_ATTEMPTS`. -/
def maxOtpAttempts : ℕ := 5

/-- `verifyDropOtp`; `otpHash` is the hash of the OTP that was entered. What a forced call writes for
its review is not modelled. -/
def verifyDropOtp (driverId bookingId : ℕ) (otpHash : Option String) (forced : Bool) :
    Service Unit := do
  let found ← sql (findBookingWithRide bookingId)
  match found with
  | none => throw (.text "BOOKING_NOT_FOUND")
  | some (booking, ride) =>
    if ride.driverId ≠ driverId then throw (.text "FORBIDDEN_DRIVER")
    else
      assertForceAllowedOnRide forced ride.status
      assertOrForce forced (booking.status != .inProgress) "INVALID_BOOKING_STATUS"
      assertOrForce forced (booking.dropOtpHash.isNone || booking.dropOtpExpiresAt.isNone)
        "DROP_OTP_NOT_AVAILABLE"
      let now ← Program.command .clock
      assertOrForce forced (booking.dropOtpExpiresAt.any (· < now)) "DROP_OTP_EXPIRED"
      assertOrForce forced (maxOtpAttempts ≤ booking.otpAttemptCount)
        "OTP_ATTEMPT_LIMIT_EXCEEDED"
      let isValid := booking.dropOtpHash.isSome && otpHash == booking.dropOtpHash
      if !isValid && !forced then
        let _ ← sqlOrThrow (update bookings bookingId fun b =>
          { b with otpAttemptCount := b.otpAttemptCount + 1 })
        throw (.text "INVALID_DROP_OTP")
      else
        -- `completedAt` is not among the columns
        completeBooking bookingId fun ctx b =>
          { b with dropOtpVerifiedAt := some ctx.now, otpAttemptCount := 0 }
        notify

/-- `riderConfirmDropoff`. -/
def riderConfirmDropoff (passengerId bookingId : ℕ) (forced : Bool) : Service Unit := do
  let found ← sql (findBookingWithRide bookingId)
  match found with
  | none => throw (.text "BOOKING_NOT_FOUND")
  | some (booking, ride) =>
    if booking.passengerId ≠ passengerId then throw (.text "FORBIDDEN_PASSENGER")
    else
      assertForceAllowedOnRide forced ride.status
      assertOrForce forced (booking.status != .dropPending) "BOOKING_NOT_DROP_PENDING"
      let now ← Program.command .clock
      completeBooking bookingId fun _ b =>
        { b with riderDropoffConfirmedAt := some now, completedAt := some now }
      notify

/-- `completeRide`: the ride, and every booking of it that is still in progress. -/
def completeRide (driverId rideId : ℕ) : Service Unit := do
  let found ← sql <| findFirst rides fun id r =>
    id == rideId && r.driverId == driverId && r.status == .inProgress
  match found with
  | none => throw (.text "RIDE_NOT_FOUND_OR_CANNOT_COMPLETE")
  | some _ => do
    let _ ← Program.perform (.transact
      (fun _ => do
        let _ ← Program.perform (update rides rideId fun r => { r with status := .completed })
        -- `completedAt` is not among the columns
        Program.command <|
          updateMany bookings (fun _ b => b.rideId == rideId && b.status == .inProgress)
            fun b => { b with status := .completed })
      fun completed => .rideMoved rideId .completed :: completed.map .tripCompleted)
    notify

/-! ## Completing by force -/

/-- `ACTIVE_RIDE_RESOLUTION_BOOKING_STATUSES`. -/
def BookingStatus.activeForResolution : BookingStatus → Bool
  | .confirmed | .waitingForPickup | .driverArrived | .otpPending | .onboard | .dropPending
  | .inProgress => true
  | _ => false

/-- `FORCE_COMPLETABLE_RIDE_STATUSES`. -/
def RideStatus.forceCompletable : RideStatus → Bool
  | .inProgress | .completionPending => true
  | _ => false

/-- The active bookings of a ride besides one. -/
def remainingActiveBookings (rideId bookingId : ℕ) : Stmt ℕ where
  answer d := (d.bookings.filter fun id b =>
    b.rideId == rideId && id != bookingId && b.status.activeForResolution).length

/-- A booking with what `adminForceCompleteBooking` includes. -/
structure ForceView where
  booking : Booking
  ride : Ride
  payment : Option (ℕ × Payment)
  openDispute : Bool

def viewForForce (bookingId : ℕ) : Stmt (Option ForceView) where
  answer d := do
    let (booking, ride) ← (findBookingWithRide bookingId).answer d
    return {
      booking, ride
      payment := (findPaymentOfBooking bookingId).answer d
      openDispute := hasOpenDispute d bookingId }

/-- The payment that a forced completion makes eligible: one that was held when it was read. -/
def ForceView.heldPayment (view : ForceView) : Option ℕ :=
  view.payment.bind fun p => if p.2.status = .heldInEscrow then some p.1 else none

/-- Complete the ride once no other booking of it is active. -/
def completeRideIfLast (rideId bookingId : ℕ) : Tx Unit := do
  let remaining ← Program.command (remainingActiveBookings rideId bookingId)
  if remaining = 0 then
    let _ ← Program.perform <| update rides rideId fun r => { r with status := .completed }
  else return ()

/-- Make the payment eligible, whatever has become of it since it was read. -/
def makeEligible (now : ℕ) : Option ℕ → Tx Unit
  | none => return ()
  | some paymentId => do
    let _ ← Program.perform <| update payments paymentId fun p =>
      { p with status := .payoutEligible, payoutEligibleAt := some now }

/-- The transaction of `adminForceCompleteBooking`. -/
def forceComplete (bookingId now : ℕ) (view : ForceView) : Tx Unit := do
  let _ ← Program.perform <| update bookings bookingId fun b => { b with
    status := .completed
    completedAt := some now
    riderDropoffConfirmedAt := view.booking.riderDropoffConfirmedAt <|> some now }
  completeRideIfLast view.booking.rideId bookingId
  makeEligible now view.heldPayment

/-- What the commit of a forced completion means. -/
def ForceView.events (view : ForceView) (bookingId : ℕ) : List Event :=
  .tripCompleted bookingId ::
    view.heldPayment.toList.map fun p => .paymentWritten p .heldInEscrow .payoutEligible

/-- `adminForceCompleteBooking`. -/
def adminForceCompleteBooking (bookingId : ℕ) : Service Unit := do
  let found ← sql (viewForForce bookingId)
  match found with
  | none => throw (.text "BOOKING_NOT_FOUND")
  | some view =>
    if !view.booking.status.activeForResolution then throw (.text "BOOKING_NOT_FORCE_COMPLETABLE")
    else if !view.ride.status.forceCompletable then throw (.text "RIDE_NOT_FORCE_COMPLETABLE")
    else if view.openDispute then throw (.text "OPEN_DISPUTE_EXISTS")
    else
      let now ← Program.command .clock
      Program.perform (.transact (fun _ => forceComplete bookingId now view)
        fun _ => view.events bookingId)
      notify

end Deliivo
