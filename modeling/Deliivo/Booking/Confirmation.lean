import Deliivo.Booking.Creation

/-!
# Confirming a booking

A rider who comes back from the checkout has the payment confirmed against Stripe, or resumed; a
booking whose intent has been cancelled is closed out on the way. A driver confirms a booking that
still waits for the decision and still holds its seats.

## Main definitions

* `confirmBookingPayment`, `resumeBookingPayment`
* `acceptBooking`
-/

namespace Deliivo

/-! ## Confirming a payment -/

/-- `PAYMENT_SETTLED_BOOKING_STATUSES`. -/
def BookingStatus.paymentSettled : BookingStatus → Bool
  | .driverPending | .confirmed | .waitingForPickup | .driverArrived | .otpPending | .onboard
  | .dropPending | .driverDropped | .inProgress | .completed | .disputed => true
  | _ => false

/-- `UNCONFIRMED_INTENT_STATUS_CODES`. -/
def IntentStatus.unconfirmedCode : IntentStatus → String
  | .requiresPaymentMethod => "PAYMENT_METHOD_REQUIRED"
  | .requiresAction => "PAYMENT_REQUIRES_ACTION"
  | .processing => "PAYMENT_PROCESSING"
  | .canceled => "PAYMENT_CANCELLED"
  | .requiresConfirmation | .requiresCapture | .succeeded => "PAYMENT_NOT_CONFIRMED"

/-- A rider's booking. -/
def findBookingOf (passengerId bookingId : ℕ) : Stmt (Option (ℕ × Booking)) :=
  findFirst bookings fun id b => id == bookingId && b.passengerId == passengerId

/-- `paymentIntents.retrieve`, for a rider who waits for it. -/
def verifyPaymentIntent (paymentIntent : ℕ) : Service Intent :=
  (retrievePaymentIntent paymentIntent).tryCatch fun _ =>
    throw (.text "PAYMENT_VERIFICATION_UNAVAILABLE")

/-- The intent of a rider's booking that still has to be paid; none where it has been paid, or where
there is no such booking. -/
def payableIntent (settings : Settings) (passengerId bookingId : ℕ) : Service (Option ℕ) := do
  let found ← sql (findBookingOf passengerId bookingId)
  match found with
  | none => return none
  | some (_, booking) =>
    if booking.status.paymentSettled then return none
    else if booking.status ≠ .paymentPending then throw (.text "BOOKING_NOT_PAYABLE")
    else if settings.bypassPayment then throw (.text "PAYMENT_NOT_INITIALIZED")
    else
      match booking.stripePaymentIntentId with
      | none => throw (.text "PAYMENT_NOT_INITIALIZED")
      | some paymentIntent => return some paymentIntent

def confirmBookingPayment (settings : Settings) (passengerId bookingId : ℕ) : Service Unit := do
  let payable ← payableIntent settings passengerId bookingId
  match payable with
  | none => return ()
  | some paymentIntent => do
    let intent ← verifyPaymentIntent paymentIntent
    if intent.status = .succeeded then
      let _ ← applyStripePaymentSucceededToBooking settings paymentIntent intent
      let _ ← getBookingById passengerId bookingId
    else if intent.status = .canceled then
      failBookingAndReleaseSeats bookingId
      throw (.text intent.status.unconfirmedCode)
    else throw (.text intent.status.unconfirmedCode)

def resumeBookingPayment (settings : Settings) (passengerId bookingId : ℕ) : Service Unit := do
  let payable ← payableIntent settings passengerId bookingId
  match payable with
  | none => return ()
  | some paymentIntent => do
    let intent ← verifyPaymentIntent paymentIntent
    if intent.status = .succeeded then
      -- paid meanwhile: the webhook's work is done here
      let _ ← applyStripePaymentSucceededToBooking settings paymentIntent intent
      let _ ← getBookingById passengerId bookingId
    else if intent.status.resumable then
      let resumable ← getBookingById passengerId bookingId
      if resumable then reschedulePaymentExpiryCheck else return ()
    else
      -- the intent can no longer be paid
      failBookingAndReleaseSeats bookingId
      throw (.text "PAYMENT_CANCELLED")

/-! ## The driver's decision -/

/-- The guarded write of `acceptBooking`: the booking still waits, and still holds its seats. -/
def confirmDecided (bookingId : ℕ) (ride : Ride) (ctx : Ctx) : Stmt (List ℕ) :=
  updateMany bookings
    (fun id b => id == bookingId && b.status == .driverPending && b.seatsReservedAt.isSome)
    fun b => { b with
      status := .confirmed
      driverDecisionAt := some ctx.now
      pickupOtpHash := some (freshPickupOtpHash ctx)
      pickupOtpExpiresAt := some (ride.pickupOtpExpiry ctx.now)
      dropOtpHash := some (freshOtpHash ctx)
      dropOtpExpiresAt := some (ride.dropOtpExpiry ctx.now)
      otpAttemptCount := 0 }

def acceptBooking (driverId bookingId : ℕ) : Service Unit := do
  let (booking, ride) ← requireDriverBooking driverId bookingId
  let driver ← sql (findUnique users ride.driverId)
  if driver.any (·.dlVerified) = false then throw (.text "DRIVER_NOT_VERIFIED")
  else if booking.status ≠ .driverPending then throw (.text "BOOKING_NOT_DRIVER_PENDING")
  else
    assertDecisionWindowOpen booking.driverDecisionDeadlineAt
    let confirmed ← transaction fun ctx => Program.command (confirmDecided bookingId ride ctx)
    if confirmed = [] then throw (.text "BOOKING_NOT_DRIVER_PENDING")
    else
      notify
      notify

end Deliivo
