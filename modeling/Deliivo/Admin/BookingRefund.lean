import Deliivo.Account.Deletion

/-!
# Refunds by an administrator

An administrator refunds a booking in full, whatever its status, once. The booking is cancelled, and
the refund made, in one transaction; the payment is marked afterwards, best effort.

## Main definitions

* `adminRefundTx`: the transaction
* `adminRefundBooking`
-/

namespace Deliivo

/-- The transaction of `adminRefundBooking`. -/
def adminRefundTx (bookingId paymentIntent : ℕ) (paymentAmount : ℤ) (ctx : Ctx) : StripeTx Unit := do
  txWriteBooking bookingId fun b => { b with
    status := .cancelled
    refundAmount := some paymentAmount
    refundPercent := some 100
    cancelledAt := some ctx.now
    cancelledByRole := some .admin }
  let _ ← txRefund paymentIntent (toMinorCurrencyUnits paymentAmount)
  txWriteBooking bookingId fun b => { b with refundedAt := some ctx.now }

/-- Mark the payment of a refunded booking. -/
def syncAdminRefund (bookingId : ℕ) (paymentAmount : ℤ) : Service Unit := do
  let found ← sql (findBookingWithRide bookingId)
  match found with
  | none => return ()
  | some (_, ride) =>
    let _ ← markBookingPaymentRefunded bookingId ride.driverId (some paymentAmount)

def adminRefundBooking (bookingId : ℕ) : Service Unit := do
  let found ← sql (findUnique bookings bookingId)
  match found with
  | none => throw (.text "BOOKING_NOT_FOUND")
  | some booking =>
    if booking.refundedAt.isSome = true then throw (.text "ALREADY_REFUNDED")
    else
      match booking.refundable with
      | none => throw (.text "NO_PAYMENT_TO_REFUND")
      | some (paymentIntent, amount) =>
        Program.perform <| .transactWithStripe (adminRefundTx bookingId paymentIntent amount)
          fun _ => [.bookingEnded bookingId true]
        bestEffort (syncAdminRefund bookingId amount)

end Deliivo
