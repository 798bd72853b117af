import Deliivo.Ride.Cancel

/-!
# Bookings that end

A booking ends when its payment fails or is not made in time, when the rider cancels or withdraws it,
when the driver rejects it or cancels it later, and when the driver does not answer. Each of these
moves the status and gives back whatever seats the booking holds in one transaction; the money follows
outside of it, except where the driver does not answer.

## Main definitions

* `endBooking`, `endBookingWhere`: the two ways in which a booking is ended
* `failBookingAndReleaseSeats`, `expireUnpaidBooking`: a booking that is not paid
* `cancelBooking`, `withdrawBooking`: the rider takes it back
* `rejectBooking`, `cancelAfterAccept`: the driver does
* `handleExtendedDeadline`: the driver does not answer
-/

namespace Deliivo

/-! ## The policy -/

def threeHoursMs : ℕ := 3 * 60 * 60 * 1000

def isConfirmedCancellationWindowClosed (departureAt now : ℕ) : Bool :=
  decide (departureAt ≤ now + threeHoursMs)

def getRiderRefundPercent (departureAt now : ℕ) : ℤ :=
  if now + threeHoursMs < departureAt then 50 else 0

/-- `getRiderRefundAmount`, in cents: the exact percentage, a half cent rounded up, where the source
applies `toFixed(2)` to a double. -/
def getRiderRefundAmount (totalPrice percent : ℤ) : ℤ :=
  if percent ≤ 0 then 0 else (totalPrice * percent).roundDiv 100

/-- `CANCELLABLE_BOOKING_STATUSES`. -/
def BookingStatus.cancellable : BookingStatus → Bool
  | .paymentPending | .driverPending | .confirmed => true
  | _ => false

/-- `WITHDRAWABLE_BOOKING_STATUSES`. -/
def BookingStatus.withdrawable : BookingStatus → Bool
  | .paymentPending | .driverPending => true
  | _ => false

/-! ## Ending a booking -/

/-- Write a booking by its id, and give its seats back. -/
def endBooking (bookingId : ℕ) (hold : SeatHold) (f : Booking → Booking) : Tx Unit := do
  let _ ← Program.perform (update bookings bookingId f)
  let _ ← releaseBookingSeats bookingId hold

/-- The same where the booking is still in one of these statuses; whether it was. -/
def endBookingWhere (bookingId : ℕ) (hold : SeatHold) (statuses : BookingStatus → Bool)
    (f : Booking → Booking) : Tx Bool := do
  let ended ← Program.command (updateMany bookings (fun id b => id == bookingId && statuses b.status) f)
  if ended = [] then return false
  else
    let _ ← releaseBookingSeats bookingId hold
    return true

/-- A booking that was ended without having been read as captured. -/
def reportWrittenOff (bookingId : ℕ) (ended : Bool) : List Event :=
  if ended then [.bookingEnded bookingId false] else []

/-- `cancelPaymentIntent`, best effort: the booking has ended already. -/
def releaseUnpaidPaymentIntent (paymentIntent : ℕ) : Service Unit :=
  bestEffort (cancelPaymentIntent paymentIntent)

/-! ## Bookings that are not paid -/

/-- The transaction of `failBookingAndReleaseSeats`; whether it was the one that moved the booking. -/
def failUnpaidBooking (bookingId : ℕ) : Tx Bool := do
  let existing ← Program.command (findBookingWithRide bookingId)
  match existing with
  | none => return false
  | some (booking, ride) =>
    endBookingWhere bookingId (booking.hold ride.totalSeats) (· == .paymentPending) fun b =>
      { b with status := .paymentFailed }

def failBookingAndReleaseSeats (bookingId : ℕ) : Service Unit := do
  let _ ← Program.perform <|
    .transact (fun _ => failUnpaidBooking bookingId) (reportWrittenOff bookingId)

/-- After the commit: the intent of an expired booking must not stay payable. -/
def cancelExpiredIntent (paymentIntent : Option ℕ) : Service Unit :=
  match paymentIntent with
  | none => return ()
  | some paymentIntent => bestEffort (cancelPaymentIntent paymentIntent)

/-- `expireUnpaidBooking`; whether it acted. -/
def expireUnpaidBooking (bookingId : ℕ) : Service Bool := do
  let found ← sql (findBookingWithRide bookingId)
  match found with
  | none => return false
  | some (booking, ride) =>
    if booking.status ≠ .paymentPending then return false
    else
      -- the write asks for the status again, a payment may have come in between
      let expired ← Program.perform <| .transact
        (fun _ => endBookingWhere bookingId (booking.hold ride.totalSeats) (· == .paymentPending)
          fun b => { b with status := .paymentFailed })
        (reportWrittenOff bookingId)
      if expired then
        cancelExpiredIntent booking.stripePaymentIntentId
        bestEffort notify
        return true
      else return false

/-! ## Bookings that the rider takes back -/

/-- A rider's booking in one of these statuses, with its ride. -/
def findRidersBooking (passengerId bookingId : ℕ) (statuses : BookingStatus → Bool) :
    Stmt (Option (Booking × Ride)) where
  answer d := ((findBookingWithRide bookingId).answer d).filter fun found =>
    found.1.passengerId == passengerId && statuses found.1.status

/-- The offer of a booking that is being checked out, if it answers a request of this rider. -/
def findRidersCheckout (passengerId bookingId : ℕ) : Stmt (Option (ℕ × RideRequestOffer)) where
  answer d := (d.offers.filter fun _ o =>
    o.bookingId == some bookingId && o.status == .selected &&
      (d.requests.get? o.requestId).any fun request => request.riderId == passengerId).head?

/-- The refund rule of `cancelBooking`, for a booking as it was read: percent and amount. -/
def Booking.riderRefund (booking : Booking) (departureAt now : ℕ) : ℤ × ℤ :=
  let isDeadlineExpired := booking.driverDecisionDeadlineAt.any (· < now) &&
    booking.status == .driverPending
  let refundPercent :=
    if isDeadlineExpired then 100
    else if booking.isPaymentCaptured then getRiderRefundPercent departureAt now else 0
  let refundAmount :=
    if booking.isPaymentCaptured then getRiderRefundAmount booking.fullRefundAmount refundPercent
    else 0
  (refundPercent, refundAmount)

/-- The transaction of `cancelBooking`. -/
def cancelBookingTx (passengerId bookingId : ℕ) (refundPercent refundAmount : ℤ) (ctx : Ctx) :
    Tx Unit := do
  let current ← Program.command (findRidersBooking passengerId bookingId (·.cancellable))
  match current with
  | none => throw (.text "BOOKING_NOT_CANCELLABLE")
  | some (booking, ride) =>
    endBooking bookingId (booking.hold ride.totalSeats) fun b => { b with
      status := .cancelled
      cancelledAt := some ctx.now
      cancelledByRole := some .passenger
      refundPercent := some refundPercent
      refundAmount := some refundAmount }

/-- Refund a booking at Stripe after its transaction has committed. -/
def refundEndedBooking (bookingId paymentIntent : ℕ) (refundAmount : ℤ) : Service Unit := do
  let _ ← refundPaymentIntent paymentIntent (toMinorCurrencyUnits refundAmount)
  let _ ← transaction fun ctx => Program.perform <| update bookings bookingId fun b =>
    { b with refundedAt := some ctx.now }

/-- Mark the payment of a refunded booking; a failure is only logged. -/
def syncRefund (bookingId driverId : ℕ) (refundAmount : ℤ) : Service Unit :=
  bestEffort do
    let _ ← markBookingPaymentRefunded bookingId driverId (some refundAmount)

/-- The money of a booking that its rider has cancelled: the refund, or the intent that must not stay
payable. Whether a refund was made. -/
def settleCancelledBooking (bookingId : ℕ) (booking : Booking) (refundAmount : ℤ) :
    Service Bool :=
  match booking.stripePaymentIntentId with
  | none => return false
  | some paymentIntent =>
    if booking.isPaymentCaptured then
      if 0 < refundAmount then do
        refundEndedBooking bookingId paymentIntent refundAmount
        return true
      else return false
    else do
      releaseUnpaidPaymentIntent paymentIntent
      return false

def cancelBooking (passengerId bookingId : ℕ) : Service Unit := do
  let checkout ← sql (findRidersCheckout passengerId bookingId)
  if checkout.isSome then throw (.text "REQUEST_CHECKOUT_PENDING")
  else
    let found ← sql (findRidersBooking passengerId bookingId (·.cancellable))
    match found with
    | none => throw (.text "BOOKING_NOT_FOUND")
    | some (booking, ride) => do
      let now ← Program.command .clock
      if booking.status = .confirmed ∧
          isConfirmedCancellationWindowClosed ride.departureAt now = true then
        throw (.text "CANCELLATION_WINDOW_CLOSED")
      else
        -- the refund is computed from the booking as it was read
        let (refundPercent, refundAmount) := booking.riderRefund ride.departureAt now
        let _ ← Program.perform <| .transact
          (cancelBookingTx passengerId bookingId refundPercent refundAmount)
          fun _ => [.bookingEnded bookingId booking.isPaymentCaptured]
        -- Stripe is called after the transaction, and its failure does not undo the cancellation
        let refundInitiated ← settleCancelledBooking bookingId booking refundAmount
        if refundInitiated ∧ 0 < refundAmount then
          syncRefund bookingId ride.driverId refundAmount
          notify
        else notify

/-- The transaction of `withdrawBooking`. -/
def withdrawBookingTx (bookingId : ℕ) (booking : Booking) (ride : Ride) (ctx : Ctx) : Tx Bool :=
  endBookingWhere bookingId (booking.hold ride.totalSeats) (·.withdrawable) fun b => { b with
    status := .cancelled
    cancelledAt := some ctx.now
    cancelledByRole := some .passenger
    withdrawnAt := some ctx.now
    refundPercent := some 100
    refundAmount := some booking.fullRefundAmount }

/-- The money of a booking that its rider has withdrawn. -/
def settleWithdrawnBooking (settings : Settings) (bookingId : ℕ) (booking : Booking) :
    Service Bool :=
  if settings.bypassPayment then return true
  else
    match booking.paymentCapturedAt, booking.stripePaymentIntentId with
    | none, some paymentIntent => do
      releaseUnpaidPaymentIntent paymentIntent
      return false
    | some _, some paymentIntent => do
      refundEndedBooking bookingId paymentIntent booking.fullRefundAmount
      return true
    | _, none => return false

def withdrawBooking (settings : Settings) (passengerId bookingId : ℕ) : Service Unit := do
  let found ← sql (findRidersBooking passengerId bookingId (·.withdrawable))
  match found with
  | none => throw (.text "BOOKING_NOT_FOUND")
  | some (booking, ride) => do
    -- the transaction asks for the status again and says whether it has cancelled
    let cancelled ← Program.perform <| .transact (withdrawBookingTx bookingId booking ride)
      fun cancelled =>
        if cancelled then [.bookingEnded bookingId booking.isPaymentCaptured] else []
    if cancelled then
      let refundInitiated ← settleWithdrawnBooking settings bookingId booking
      if refundInitiated then
        syncRefund bookingId ride.driverId booking.fullRefundAmount
        notify
      else notify
    else throw (.text "BOOKING_NOT_FOUND")

/-! ## Bookings that the driver takes back -/

/-- `fetchDriverBooking` with `requireDriverBooking`. -/
def requireDriverBooking (driverId bookingId : ℕ) : Service (Booking × Ride) := do
  let found ← sql (findBookingWithRide bookingId)
  match found with
  | none => throw (.text "BOOKING_NOT_FOUND")
  | some (booking, ride) =>
    if ride.driverId ≠ driverId then throw (.text "FORBIDDEN_DRIVER") else return (booking, ride)

def assertDecisionWindowOpen (deadlineAt : Option ℕ) : Service Unit := do
  let now ← Program.command .clock
  if deadlineAt.any (· < now) then throw (.text "BOOKING_DECISION_DEADLINE_PASSED") else return ()

/-- The refund that a driver's decision makes before it is written: its id, and whether it was made. -/
def refundDecidedBooking (settings : Settings) (booking : Booking) : Service (Option ℕ × Bool) :=
  if settings.bypassPayment then return (none, decide (0 < booking.fullRefundAmount))
  else
    match booking.paymentCapturedAt, booking.stripePaymentIntentId with
    | some _, some paymentIntent => do
      let refundId ← refundPaymentIntent paymentIntent
        (toMinorCurrencyUnits booking.fullRefundAmount)
      return (some refundId, true)
    | _, _ => return (none, false)

/-- The transaction in which a driver ends a booking that has to be in `status`. -/
def endDecidedBooking (bookingId : ℕ) (status : BookingStatus) (refused : String)
    (f : Booking → Booking) : Tx Unit := do
  let current ← Program.command (findBookingWithRide bookingId)
  match current with
  | none => throw (.text "BOOKING_NOT_FOUND")
  | some (booking, ride) =>
    if booking.status ≠ status then throw (.text refused)
    else endBooking bookingId (booking.hold ride.totalSeats) f

/-- What a driver's refusal writes on a booking that was refunded, or was not. -/
def Booking.refused (fullRefundAmount : ℤ) (refund : Option ℕ × Bool) (now : ℕ)
    (booking : Booking) : Booking :=
  { booking with
    status := .cancelled
    cancelledAt := some now
    cancelledByRole := some .driver
    refundPercent := some 100
    refundAmount := some fullRefundAmount
    refundId := refund.1
    refundedAt := if refund.2 then some now else booking.refundedAt }

/-- What follows a driver's refusal. -/
def completeRefusal (driverId bookingId : ℕ) (booking : Booking) (refundInitiated : Bool) :
    Service Unit := do
  if refundInitiated ∧ 0 < booking.fullRefundAmount then
    syncRefund bookingId driverId booking.fullRefundAmount
    notify
    notify
  else
    notify
    notify

def rejectBooking (settings : Settings) (driverId bookingId : ℕ) : Service Unit := do
  let (booking, _) ← requireDriverBooking driverId bookingId
  if booking.status ≠ .driverPending then throw (.text "BOOKING_NOT_DRIVER_PENDING")
  else
    assertDecisionWindowOpen booking.driverDecisionDeadlineAt
    let refund ← refundDecidedBooking settings booking
    let _ ← Program.perform <| .transact
      (fun ctx => endDecidedBooking bookingId .driverPending "BOOKING_NOT_DRIVER_PENDING" fun b =>
        { b.refused booking.fullRefundAmount refund ctx.now with driverDecisionAt := some ctx.now })
      fun _ => [.bookingEnded bookingId booking.isPaymentCaptured]
    completeRefusal driverId bookingId booking refund.2

def cancelAfterAccept (settings : Settings) (driverId bookingId : ℕ) : Service Unit := do
  let (booking, _) ← requireDriverBooking driverId bookingId
  if booking.status ≠ .confirmed then throw (.text "BOOKING_NOT_CONFIRMED")
  else
    let refund ← refundDecidedBooking settings booking
    let _ ← Program.perform <| .transact
      (fun ctx => endDecidedBooking bookingId .confirmed "BOOKING_NOT_CONFIRMED" fun b =>
        b.refused booking.fullRefundAmount refund ctx.now)
      fun _ => [.bookingEnded bookingId booking.isPaymentCaptured]
    completeRefusal driverId bookingId booking refund.2

/-! ## A driver who does not answer -/

/-- The refund that `handleExtendedDeadline` makes in its transaction: its id, and whether it was
made. -/
def refundUnansweredBooking (settings : Settings) (booking : Booking) :
    StripeTx (Option ℕ × Bool) :=
  if settings.bypassPayment then return (none, decide (0 < booking.fullRefundAmount))
  else
    match booking.paymentCapturedAt, booking.stripePaymentIntentId with
    | some _, some paymentIntent => do
      let refundId ← txRefund paymentIntent (toMinorCurrencyUnits booking.fullRefundAmount)
      return (some refundId, true)
    | _, _ => return (none, false)

/-- The transaction of `handleExtendedDeadline`. -/
def cancelUnansweredBooking (settings : Settings) (bookingId : ℕ) (booking : Booking) (ride : Ride)
    (ctx : Ctx) : StripeTx Unit := do
  (endBooking bookingId (booking.hold ride.totalSeats) fun b => { b with
    status := .cancelled
    cancelledAt := some ctx.now
    cancelledByRole := some .system
    autoCancelledAt := some ctx.now
    refundPercent := some 100
    refundAmount := some booking.fullRefundAmount }).lift
  let refund ← refundUnansweredBooking settings booking
  if refund.2 then
    txWriteBooking bookingId fun b => { b with refundId := refund.1, refundedAt := some ctx.now }
  else return ()

def handleExtendedDeadline (settings : Settings) (bookingId : ℕ) : Service Unit := do
  let found ← sql (findBookingWithRide bookingId)
  match found with
  | none => return ()
  | some (booking, ride) =>
    if booking.status ≠ .driverPending ∨ booking.autoCancelledAt.isSome = true then return ()
    else
      let _ ← Program.perform <| .transactWithStripe
        (cancelUnansweredBooking settings bookingId booking ride)
        fun _ => [.bookingEnded bookingId booking.isPaymentCaptured]
      notify

end Deliivo
