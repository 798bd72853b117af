import Deliivo.Payment.Service
import Deliivo.Stripe.Client

/-!
# Refund events of the Stripe webhook

`charge.refunded` carries what has been refunded of a charge in all, `refund.created` and
`refund.updated` carry one refund and its status. Each copies what it carries onto the booking and,
once money has gone back, marks the booking's payment refunded.
-/

namespace Deliivo

/-- `refund.status`. -/
inductive RefundStatus
  | pending
  | requiresAction
  | succeeded
  | failed
  | canceled
  deriving DecidableEq, Repr

/-- The money has stayed. -/
def RefundStatus.isFailure : RefundStatus → Bool
  | failed | canceled => true
  | pending | requiresAction | succeeded => false

/-- The object of a `refund.created` or `refund.updated` event. -/
structure RefundObject where
  id : ℕ
  paymentIntent : Option ℕ
  amount : ℤ
  status : RefundStatus
  deriving DecidableEq, Repr

/-- The object of a `charge.refunded` event. -/
structure ChargeObject where
  id : ℕ := 0
  paymentIntent : Option ℕ
  latestRefund : Option ℕ
  amountRefunded : ℤ
  refunded : Bool
  deriving DecidableEq, Repr

/-- Whether a booking was paid through an intent. -/
def Booking.paidThrough (paymentIntent : ℕ) (booking : Booking) : Bool :=
  booking.stripePaymentIntentId == some paymentIntent

/-- `rideBooking.findFirst` by its intent, with the driver of its ride. -/
def findBookingOfIntent (paymentIntent : ℕ) : Stmt (Option (ℕ × ℕ)) where
  answer d := do
    let (bookingId, booking) ← (d.bookings.filter fun _ b => b.paidThrough paymentIntent).head?
    let ride ← d.rides.get? booking.rideId
    return (bookingId, ride.driverId)

/-- Mark the payment of an intent's booking refunded. -/
def markIntentRefunded (paymentIntent : ℕ) (amount : ℤ) : Service Unit := do
  let found ← sql (findBookingOfIntent paymentIntent)
  match found with
  | some (bookingId, driverId) => do
    let _ ← markBookingPaymentRefunded bookingId driverId (some amount)
  | none => return ()

def applyChargeRefunded (charge : ChargeObject) : Service Unit := do
  match charge.paymentIntent with
  | none => return ()
  | some paymentIntent => do
    let _ ← transaction fun ctx => Program.command <|
      updateMany bookings (fun _ b => b.paidThrough paymentIntent) fun b =>
        { b with
          refundId := charge.latestRefund <|> b.refundId
          refundAmount := some charge.amountRefunded
          refundedAt := if charge.refunded then some ctx.now else b.refundedAt }
    if charge.refunded then markIntentRefunded paymentIntent charge.amountRefunded

def applyRefundUpdated (refund : RefundObject) : Service Unit := do
  match refund.paymentIntent with
  | none => return ()
  | some paymentIntent => do
    let _ ← transaction fun ctx => Program.command <|
      updateMany bookings (fun _ b => b.paidThrough paymentIntent) fun b =>
        { b with
          refundId := some refund.id
          refundAmount := some refund.amount
          refundedAt := if refund.status = .succeeded then some ctx.now else b.refundedAt }
    if refund.status = .succeeded then markIntentRefunded paymentIntent refund.amount

end Deliivo
