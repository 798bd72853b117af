import Deliivo.Booking.Request
import Deliivo.Stripe.Client

/-!
# Applying a payment to its booking

A succeeded PaymentIntent moves its booking out of `PAYMENT_PENDING` and takes the seats, in one
transaction. A booking that is no longer pending is left alone; a ride that has no seats left, or
is no longer published, turns the payment into a refund.

## Main definitions

* `claimCapturedBooking`: the transaction
* `refundRideFullPayment`: giving the money back
* `applyStripePaymentSucceededToBooking`
-/

namespace Deliivo

/-- The settings that the services read from the environment. -/
structure Settings where
  /-- `BOOKING_PAYMENT_MODE` is `bypass`. -/
  bypassPayment : Bool := false
  /-- `PLATFORM_FEE_PERCENT`, where it is a number. -/
  platformFeePercent : Option ℚ := some 0

/-- Run a step whose failure is only logged. -/
def bestEffort (p : Service Unit) : Service Unit := p.tryCatch fun _ => return ()

/-- `reconciliationIssue.create`. -/
def createIssue (issue : ReconciliationIssue) : Service Unit :=
  sql { answer := fun _ => (), write := fun _ d => { d with issues := d.issues ++ [issue] } }

/-! ## Deadlines -/

def hourMs : ℕ := 60 * 60 * 1000

/-- `DRIVER_DECISION_WINDOW_MS`. -/
def driverDecisionWindowMs : ℕ := hourMs

/-- `OPTION_TO_HOURS`; waiting until before departure has no fixed number of hours. -/
def ExpiryOption.hours : ExpiryOption → Option ℕ
  | .oneHour => some 1
  | .threeHours => some 3
  | .sixHours => some 6
  | .twelveHours => some 12
  | .twentyFourHours => some 24
  | .beforeDeparture => none

/-- `calculateDeadline`: never after the departure. -/
def calculateDeadline (option : Option ExpiryOption) (departureAt now : ℕ) : ℕ :=
  match option.bind ExpiryOption.hours with
  | some hours => min (now + hours * hourMs) departureAt
  -- an hour before departure, and at least half an hour from now
  | none => min (max (now + hourMs / 2) (departureAt - hourMs)) departureAt

/-! ## The fee of the provider -/

/-- `recordProviderFeeForIntent`: best effort, so that bookkeeping never fails a payment. -/
def recordProviderFeeForIntent (paymentIntent bookingId : ℕ) : Service Unit :=
  bestEffort do
    let found ← sql (findPaymentOfBooking bookingId)
    match found with
    | none => return ()
    | some (paymentId, payment) => do
      let charged ← retrievePaymentIntent paymentIntent
      match charged.providerFee with
      | none => return ()
      | some (fee, currency) =>
        -- neither party of the ride is named in these entries
        recordProviderFeeExpense
          { paymentId, bookingId, riderId := payment.riderId, driverId := 0, currency }
          fee (toUpperCase currency)

/-! ## The ride is full -/

/-- What a refund of the whole payment returns. -/
def Booking.fullRefundAmount (booking : Booking) : ℤ :=
  booking.paymentAmount.getD booking.totalPrice

/-- Whether a row is the booking and still waits for its payment. -/
def isPendingBooking (bookingId : ℕ) (id : ℕ) (booking : Booking) : Bool :=
  id == bookingId && booking.status == .paymentPending

theorem isPendingBooking_iff {bookingId id : ℕ} {booking : Booking} :
    isPendingBooking bookingId id booking = true ↔ id = bookingId ∧ booking.status = .paymentPending := by
  simp [isPendingBooking]

/-- A booking that has been claimed was waiting for its payment. -/
theorem pending_of_claimed {bookingId : ℕ} {f : Booking → Booking} {d : Db}
    (h : (updateMany bookings (isPendingBooking bookingId) f).answer d ≠ []) :
    ∃ b, d.bookings.get? bookingId = some b ∧ b.status = .paymentPending := by
  obtain ⟨id, hid⟩ := List.exists_mem_of_ne_nil _ h
  obtain ⟨⟨id', b⟩, hmem, rfl⟩ := List.mem_map.mp hid
  obtain ⟨hb, hpending⟩ := Table.mem_filter_iff.mp hmem
  obtain ⟨rfl, hstatus⟩ := isPendingBooking_iff.mp hpending
  exact ⟨b, hb, hstatus⟩

/-- It is written, and no other booking is. -/
theorem get?_claimed {bookingId : ℕ} {f : Booking → Booking} {d : Db} {b : Booking}
    (hb : d.bookings.get? bookingId = some b) (hpending : b.status = .paymentPending) :
    ((updateMany bookings (isPendingBooking bookingId) f).write d d).bookings.get? bookingId =
      some (f b) := by
  have hholds : d.bookings.holds (isPendingBooking bookingId) bookingId = true := by
    rw [Table.holds, hb]
    exact isPendingBooking_iff.mpr ⟨rfl, hpending⟩
  refine (Table.get?_modifyWhere _ _ _ _).trans ?_
  rw [show (bookings.get d).get? bookingId = some b from hb, Option.map_some]
  exact congrArg some (if_pos hholds)

theorem get?_claimed_ne {bookingId id : ℕ} {f : Booking → Booking} {d : Db} (hid : id ≠ bookingId) :
    ((updateMany bookings (isPendingBooking bookingId) f).write d d).bookings.get? id =
      d.bookings.get? id := by
  refine (Table.get?_modifyWhere _ _ _ _).trans ?_
  refine (Option.map_congr fun r hr => ?_).trans Option.map_id'
  rw [if_neg]
  intro hholds
  rw [Table.holds, show (bookings.get d).get? id = some r from hr] at hholds
  exact hid (isPendingBooking_iff.mp hholds).1

/-- Claim a booking for a refund of its whole payment. -/
def claimRideFull (bookingId paymentIntent : ℕ) (ctx : Ctx) : Stmt (List ℕ) :=
  updateMany bookings (isPendingBooking bookingId) fun b => { b with
    status := .rideFullRefunded
    stripePaymentIntentId := some paymentIntent
    paymentCapturedAt := some ctx.now
    refundPercent := some 100 }

/-- Give the money back at Stripe; a failure is recorded for a human. -/
def issueRideFullRefund (bookingId paymentIntent : ℕ) (refundAmount : ℤ) : Service Unit :=
  Program.tryCatch
    (do
      let _ ← refundPaymentIntent paymentIntent (toMinorCurrencyUnits refundAmount)
      let _ ← transaction fun ctx => Program.perform <| update bookings bookingId fun b => { b with
        refundedAt := some ctx.now
        refundAmount := some refundAmount })
    fun _ => bestEffort <|
      createIssue { paymentId := none, bookingId := some bookingId, issueType := .stripeMismatch }

/-- `refundRideFullPayment`: the claim first, so that two calls cannot both refund. -/
def refundRideFullPayment (bookingId paymentIntent : ℕ) : Service Unit := do
  let claimed ← transaction fun ctx => Program.command (claimRideFull bookingId paymentIntent ctx)
  if claimed = [] then return ()
  else
    let found ← sql (findBookingWithRide bookingId)
    match found with
    | none => return ()
    | some (booking, ride) => do
      issueRideFullRefund bookingId paymentIntent booking.fullRefundAmount
      -- money in, then money out: the ledger shows both legs
      bestEffort do
        let _ ← markBookingPaymentPaid bookingId ride.driverId
        let _ ← markBookingPaymentRefunded bookingId ride.driverId (some booking.fullRefundAmount)
      bestEffort notify

/-! ## The claim -/

/-- What became of the claim. -/
inductive Applied
  | claimed
  | alreadyApplied
  | rideFull
  deriving DecidableEq, Repr

/-- What Stripe has captured with an intent, or else its amount. -/
def Intent.capturedAmount (intent : Intent) : ℤ :=
  if 0 < intent.amountReceived then intent.amountReceived else intent.amount

/-- A booking once its payment has been captured: it holds its seats and waits for the driver. -/
def Booking.withCapture (paymentIntent : ℕ) (intent : Intent) (now : ℕ) (booking : Booking) :
    Booking :=
  { booking with
    status := .driverPending
    stripePaymentIntentId := some paymentIntent
    paymentAmount := some intent.capturedAmount
    paymentCurrency := some (toUpperCase intent.currency)
    paymentCapturedAt := some now
    seatsReservedAt := some now
    driverDecisionDeadlineAt := some (now + driverDecisionWindowMs) }

/-- Flip the status and take the seats, in one transaction. -/
def claimCapturedBooking (settings : Settings) (bookingId paymentIntent : ℕ) (intent : Intent)
    (now : ℕ) (ctx : Ctx) : Tx Applied := do
  let claimed ← Program.command <|
    updateMany bookings (isPendingBooking bookingId) (Booking.withCapture paymentIntent intent now)
  if claimed = [] then return .alreadyApplied
  else
    let (booking, ride) ← Program.perform (findBookingWithRideOrThrow bookingId)
    confirmRequestBooking settings.platformFeePercent ctx bookingId
    reserveSeatsForBooking (booking.hold ride.totalSeats) (some bookingId) false
    return .claimed

/-- What the commit of the claim means. -/
def Applied.events (bookingId : ℕ) : Applied → List Event
  | .claimed => [.bookingClaimed bookingId]
  | _ => []

/-- Run the claim; a ride without seats, or one that cannot be booked, has rolled it back. -/
def claimPayment (settings : Settings) (bookingId paymentIntent : ℕ) (intent : Intent)
    (now : ℕ) : Service Applied :=
  Program.tryCatch
    (Program.perform (.transact (claimCapturedBooking settings bookingId paymentIntent intent now)
      (Applied.events bookingId)))
    fun e =>
      if e = .text "INSUFFICIENT_SEATS" ∨ e = .text "RIDE_NOT_FOUND" then return .rideFull
      else throw e

/-! ## After the claim -/

/-- The booking is left alone; a request that has been matched has its payment marked paid. -/
def syncAcceptedOffer (bookingId : ℕ) : Service Unit := do
  let accepted ← sql (findOfferOfBooking bookingId)
  match accepted with
  | none => return ()
  | some (_, offer) =>
    if offer.status = .accepted then do
      let _ ← markBookingPaymentPaid bookingId offer.driverId
    else return ()

/-- Mark the payment of a claimed booking paid; a failure is left to reconciliation. -/
def syncClaimedPayment (bookingId driverId : ℕ) : Service Unit :=
  Program.tryCatch
    (do let _ ← markBookingPaymentPaid bookingId driverId)
    fun _ => bestEffort <|
      createIssue { paymentId := none, bookingId := some bookingId, issueType := .missingWebhook }

/-- What follows once a booking has been claimed. -/
def completeClaim (bookingId paymentIntent : ℕ) (now : ℕ) : Service Unit := do
  let found ← sql (findBookingWithRide bookingId)
  match found with
  | none => return ()
  | some (booking, ride) =>
    if booking.status = .confirmed then do
      -- confirmed within the claim already: no decision of the driver to wait for
      let _ ← markBookingPaymentPaid bookingId ride.driverId
      bestEffort notify
      bestEffort notify
    else do
      let _ ← sqlOrThrow <| update bookings bookingId fun b => { b with
        driverDecisionDeadlineAt :=
          some (calculateDeadline booking.responseExpiryOption ride.departureAt now) }
      recordProviderFeeForIntent paymentIntent bookingId
      syncClaimedPayment bookingId ride.driverId
      bestEffort do
        notify
        notify

/-- `applyStripePaymentSucceededToBooking`; whether the call was the one that claimed. -/
def applyStripePaymentSucceededToBooking (settings : Settings) (paymentIntent : ℕ)
    (intent : Intent) : Service Bool :=
  match intent.bookingId with
  | none => return false
  | some bookingId => do
    let now ← Program.command .clock
    let outcome ← claimPayment settings bookingId paymentIntent intent now
    match outcome with
    | .alreadyApplied => do
      -- a repeated event only mends the offer that the first one may have left behind
      syncAcceptedOffer bookingId
      return false
    | .rideFull => do
      refundRideFullPayment bookingId paymentIntent
      return false
    | .claimed => do
      completeClaim bookingId paymentIntent now
      return true

end Deliivo
