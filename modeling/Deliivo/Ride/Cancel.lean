import Deliivo.Booking.PaymentSucceeded

/-!
# Cancelling a ride

A driver who cancels a published ride cancels its bookings with it and gives every rider the whole
price back. The bookings to refund are listed first; the transaction then cancels whatever bookings
are active by that time, and refunds the listed ones at Stripe before it commits; the payments are
marked last.

## Main definitions

* `txSql`, `txSqlOrThrow`, `txRefund`: the steps of a transaction that calls Stripe
* `cancelRideTx`: the transaction
* `cancelRide`
-/

namespace Deliivo

/-! ## Steps of a transaction that calls Stripe -/

section TxSteps

variable {β : Type}

/-- Run one statement. -/
def txSql (s : Stmt β) : StripeTx β := Program.command (.stmt s)

/-- Run one statement, throwing what it throws. -/
def txSqlOrThrow (s : Stmt (Except Err β)) : StripeTx β := Program.perform (.stmt s)

/-- `refundPaymentIntent`, before the transaction has been committed. -/
def txRefund (paymentIntent : ℕ) (amountMinor : ℤ) : StripeTx ℕ :=
  Program.perform (.stripe (Stripe.createRefund paymentIntent amountMinor))

/-- Write one booking. -/
def txWriteBooking (bookingId : ℕ) (f : Booking → Booking) : StripeTx Unit := do
  let _ ← txSqlOrThrow (update bookings bookingId f)

theorem txWriteBooking_ok {id : ℕ} {f : Booking → Booking} {u : Unit} {d d' : Db}
    {s s' : Stripe}
    (h : (txWriteBooking id f).atomic d s = (.ok (u, d'), s')) :
    (∃ b, d.bookings.get? id = some b) ∧
      d' = { d with bookings := d.bookings.modify id f } ∧ s' = s := by
  simp only [txWriteBooking, txSqlOrThrow, Program.perform, Program.bind_eq, Program.step_bind,
    StripeTx.atomic, update, bookings] at h
  cases hb : d.bookings.get? id with
  | none => simp [hb, StripeTx.atomic] at h
  | some b =>
    simp only [hb, Option.elim_some, Program.ofExcept_ok, Program.ret_bind, Program.pure_eq,
      StripeTx.atomic, Prod.mk.injEq, Except.ok.injEq] at h
    exact ⟨⟨b, rfl⟩, h.1.2.symm, h.2.symm⟩

end TxSteps

/-! ## The bookings -/

/-- The bookings that go with their ride: `DRIVER_PENDING` and `CONFIRMED`. -/
def BookingStatus.goesWithRide : BookingStatus → Bool
  | .driverPending | .confirmed => true
  | _ => false

/-- `isPaymentCaptured`. -/
def Booking.isPaymentCaptured (booking : Booking) : Bool :=
  booking.paymentCapturedAt.isSome && booking.stripePaymentIntentId.isSome

/-- Whether a row is an active booking of the ride. -/
def isActiveOn (rideId : ℕ) (_id : ℕ) (booking : Booking) : Bool :=
  booking.rideId == rideId && booking.status.goesWithRide

/-- What the transaction makes of an active booking. -/
def Booking.cancelledWithRide (now : ℕ) (booking : Booking) : Booking :=
  { booking with
    status := .cancelled
    cancelledAt := some now
    cancelledByRole := some .driver
    refundPercent := some 100
    seatsReservedAt := none }

/-- Refund one listed booking at Stripe, if its money was captured there. -/
def refundListedBooking (ctx : Ctx) (listed : ℕ × Booking) : StripeTx Unit :=
  match listed.2.paymentCapturedAt, listed.2.stripePaymentIntentId with
  | some _, some paymentIntent => do
    let _ ← txRefund paymentIntent (toMinorCurrencyUnits listed.2.fullRefundAmount)
    txWriteBooking listed.1 fun b => { b with refundedAt := some ctx.now }
  | _, _ => return ()

/-- The transaction of `cancelRide`: the bookings that it has cancelled. -/
def cancelRideTx (settings : Settings) (rideId : ℕ) (activeBookings : List (ℕ × Booking))
    (ctx : Ctx) : StripeTx (List ℕ) := do
  let _ ← txSqlOrThrow (update rides rideId fun r => { r with status := .cancelled })
  let cancelled ← txSql (updateMany bookings (isActiveOn rideId) (Booking.cancelledWithRide ctx.now))
  Program.forEach activeBookings fun booking =>
    txWriteBooking booking.1 fun b => { b with refundAmount := some booking.2.fullRefundAmount }
  if settings.bypassPayment then return cancelled
  else
    Program.forEach activeBookings (refundListedBooking ctx)
    return cancelled

/-! ## The call -/

/-- Mark the payment of one listed booking; a failure is only logged. -/
def markListedRefund (settings : Settings) (driverId : ℕ) (booking : ℕ × Booking) :
    Service Unit :=
  if (settings.bypassPayment = true ∨ booking.2.isPaymentCaptured = true) ∧
      0 < booking.2.fullRefundAmount then do
    Program.command (.note [.refundDue booking.1])
    bestEffort do
      let _ ← markBookingPaymentRefunded booking.1 driverId (some booking.2.fullRefundAmount)
  else return ()

/-- The ride that the transaction has cancelled and the bookings that it has ended, and whether the
call had read them as captured. -/
def reportRideCancelled (rideId : ℕ) (activeBookings : List (ℕ × Booking)) (cancelled : List ℕ) :
    List Event :=
  .rideMoved rideId .cancelled :: cancelled.map fun id =>
    .bookingEnded id (activeBookings.any fun b => b.1 == id && b.2.isPaymentCaptured)

/-- `cancelRide`. -/
def cancelRide (settings : Settings) (driverId rideId : ℕ) : Service Unit := do
  let ride ← sql <| findFirst rides fun id r =>
    id == rideId && r.driverId == driverId && r.status == .published
  match ride with
  | none => throw (.text "RIDE_NOT_FOUND_OR_CANNOT_CANCEL")
  | some _ => do
    let activeBookings ← sql (findMany bookings (isActiveOn rideId))
    let _ ← Program.perform (.transactWithStripe (cancelRideTx settings rideId activeBookings)
      (reportRideCancelled rideId activeBookings))
    Program.forEach activeBookings (markListedRefund settings driverId)
    Program.forEach activeBookings fun _ => notify

end Deliivo
