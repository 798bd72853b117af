import Deliivo.Arith.Binary64
import Deliivo.Payment.Service
import Deliivo.Stripe.Client

/-!
# Settling a dispute

`settleDispute` reads the dispute with its booking and payment once and decides everything on what
it has read: whether a refund exists already, what the resolution refunds, what is left for the
driver. The refund itself is a chain of single writes around one call to Stripe, and whether it
exists already is read off the booking's `refundedAt` and `refundAmount`, the latter of which is
the first thing that a refund writes.

## Main definitions

* `DisputeView`: what the call reads
* `percentOf`: the amount of a percentage, in the arithmetic of the code
* `Refunding`: what a resolution makes of it
* `makeRefund`: the chain of writes
* `settleDispute`
-/

namespace Deliivo

/-! ## What the call reads -/

/-- `DisputeResolution`. -/
inductive Resolution
  | refund
  | payout
  | split
  | escalate
  deriving DecidableEq, Repr

/-- `SETTLEABLE_DISPUTE_STATUSES`. -/
def DisputeStatus.settleable (s : DisputeStatus) : Bool :=
  s.isOpen || s == .autoResolvedRiderRefund || s == .autoResolvedDriverPayout

/-- A dispute with the booking, the payment and the ride that it includes. -/
structure DisputeView where
  dispute : Dispute
  bookingId : ℕ
  booking : Booking
  payment : Option (ℕ × Payment)
  ride : Ride

/-- `dispute.findUnique` with its includes. -/
def viewDispute (d : Db) (disputeId : ℕ) : Option DisputeView := do
  let dispute ← d.disputes.get? disputeId
  let booking ← d.bookings.get? dispute.bookingId
  let ride ← d.rides.get? booking.rideId
  return {
    dispute, booking, ride
    bookingId := dispute.bookingId
    payment := (findPaymentOfBooking dispute.bookingId).answer d }

/-- `booking.refundedAt || booking.refundAmount`, as a condition: an amount of zero is none. -/
def Booking.existingRefund (booking : Booking) : Bool :=
  booking.refundedAt.isSome || booking.refundAmount.any (· != 0)

/-! ## What a resolution makes of it -/

/-- `clampRefundPercent`; a percent that is not a finite number is `none`. -/
def clampRefundPercent (value : Option ℚ) (fallback : ℤ) : ℤ :=
  match value with
  | none => fallback
  | some value => min 100 (max 0 ⌊value + 1 / 2⌋)

/-- An amount of cents, as the number that the code keeps. -/
def amountOfCents (cents : ℤ) : Binary64 := .ofRat (cents / 100)

/-- `round2`, in cents: `toFixed(2)` rounds what the number is, halves away from zero. -/
def round2 (value : Binary64) : ℤ :=
  if value.value < 0 then -(-value.value).hundredths else value.value.hundredths

/-- `round2((paymentAmount * refundPercent) / 100)`. From 2^46 cents on, where the numbers of the code
stand too far apart to be counted in cents, the quotient is the exact one. -/
def percentOf (paymentAmount percent : ℤ) : ℤ :=
  if |paymentAmount| < 2 ^ 46 then round2 (amountOfCents paymentAmount * percent / (100 : ℤ))
  else (paymentAmount * percent).roundDiv 100

-- the half of 2.01 is 1.00: what is rounded is less than 1.005
example : percentOf 201 50 = 100 := by decide +kernel

/-- The refund of a resolution, and what would be left for the driver. -/
structure Refunding where
  percent : ℤ
  amount : ℤ
  split : RefundSplit
  payoutAmount : ℤ
  deriving DecidableEq, Repr

/-- The percentage that a resolution refunds. -/
def Resolution.refundPercent (resolution : Resolution) (requested : Option ℚ) : ℤ :=
  if resolution = .refund then 100 else clampRefundPercent requested 50

/-- What refunding `percent` means for the booking and the payment that were read; what is left for
the driver is a difference of cents, which `round2` gives exactly. -/
def DisputeView.refunding (view : DisputeView) (percent : ℤ) : Refunding :=
  let paymentAmount := (view.payment.map fun p => p.2.amountTotal).getD
    (view.booking.paymentAmount.getD view.booking.totalPrice)
  let fareAmount := (view.payment.map fun p => p.2.fareAmount).getD paymentAmount
  let owed := (view.payment.map fun p => netFareAmount p.2).getD paymentAmount
  let amount := percentOf paymentAmount percent
  let split := resolveRefundSplit paymentAmount fareAmount amount
  { percent, amount, split, payoutAmount := max 0 (owed - split.fareRefundAmount) }

/-! ## The writes -/

/-- `rideBooking.update`. -/
def writeBooking (bookingId : ℕ) (f : Booking → Booking) : Service Unit := do
  let _ ← Program.perform <| .transact (fun _ => Program.perform (update bookings bookingId f))
    fun booking => [.bookingWritten bookingId booking.status]

/-- Write the payment of a settlement, if the booking has one. -/
def writeSettledPayment (payment : Option (ℕ × Payment)) (f : Payment → Payment) :
    Service Unit := do
  match payment with
  | some (paymentId, payment) => do
    let _ ← writePayment paymentId payment.status fun _ => f
  | none => return ()

/-- What the refund of a settlement first writes on the booking. -/
def Refunding.writeOn (refunding : Refunding) (resolution : Resolution) (booking : Booking) :
    Booking :=
  { booking with
    refundAmount := some refunding.amount
    refundPercent := some refunding.percent
    status := if resolution = .refund then .cancelled else .disputed }

/-- What a settlement writes before the refund is made: booking and payment. -/
def announceRefund (view : DisputeView) (resolution : Resolution) (refunding : Refunding) :
    Service Unit := do
  writeBooking view.bookingId (refunding.writeOn resolution)
  writeSettledPayment view.payment fun p => { p with status := .refundPending }

/-- The refund at Stripe, if the booking's money was captured there. -/
def refundAtStripe (view : DisputeView) (amount : ℤ) : Service (Option ℕ) := do
  match view.booking.stripePaymentIntentId, view.booking.paymentCapturedAt with
  | some paymentIntent, some _ => do
    let refundId ← refundPaymentIntent paymentIntent (toMinorCurrencyUnits amount)
    return some refundId
  | _, _ => return none

/-- The parties of a settled refund, as its ledger group names them. -/
def DisputeView.subject (view : DisputeView) (paymentId : ℕ) (payment : Payment) :
    LedgerSubject where
  paymentId
  bookingId := view.bookingId
  riderId := view.booking.passengerId
  driverId := view.ride.driverId
  currency := payment.currency

/-- What a settlement writes once the refund is made: booking, ledger and payment. -/
def recordSettledRefund (view : DisputeView) (now : ℕ) (refunding : Refunding)
    (refundId : Option ℕ) : Service Unit := do
  writeBooking view.bookingId fun b =>
    { b with refundId := refundId <|> b.refundId, refundedAt := some now }
  match view.payment with
  | some (paymentId, payment) => do
    recordRefund (view.subject paymentId payment) refunding.amount refunding.split
    writeSettledPayment view.payment fun p =>
      { p with
        refundedFareAmount := p.refundedFareAmount + refunding.split.fareRefundAmount
        refundedFeeAmount := p.refundedFeeAmount + refunding.split.feeRefundAmount }
  | none => return ()

/-- The refund of a settlement: two writes, the call to Stripe, three more writes. -/
def makeRefund (view : DisputeView) (now : ℕ) (resolution : Resolution) (refunding : Refunding) :
    Service Unit := do
  announceRefund view resolution refunding
  let refundId ← refundAtStripe view refunding.amount
  recordSettledRefund view now refunding refundId

/-- Whether a settlement makes its refund: there is something to refund, and no refund yet. -/
def DisputeView.makesRefund (view : DisputeView) (refunding : Refunding) : Bool :=
  decide (0 < refunding.amount) && !view.booking.existingRefund

/-- The status that a refund or a split leaves the payment in, whether or not it refunded. -/
def Refunding.paymentStatus (refunding : Refunding) (resolution : Resolution) : PaymentStatus :=
  if resolution = .refund then .refunded
  else if 0 < refunding.payoutAmount then .payoutEligible else .refunded

/-- What a refund or a split last writes on the payment. -/
def Refunding.settle (refunding : Refunding) (now : ℕ) (resolution : Resolution)
    (payment : Payment) : Payment :=
  { payment with
    status := refunding.paymentStatus resolution
    payoutEligibleAt :=
      if resolution = .refund then payment.payoutEligibleAt
      else if 0 < refunding.payoutAmount then some now else none }

/-- `REFUND` and `SPLIT`. -/
def settleRefund (view : DisputeView) (now : ℕ) (resolution : Resolution)
    (refunding : Refunding) : Service Unit := do
  if view.makesRefund refunding then makeRefund view now resolution refunding
  writeSettledPayment view.payment (refunding.settle now resolution)

/-- `PAYOUT`: refused once everything has been refunded, as far as the booking knows. -/
def settlePayoutResolution (view : DisputeView) (now : ℕ) : Service Unit := do
  if view.booking.existingRefund = true ∧ 100 ≤ view.booking.refundPercent.getD 0 then
    throw (.text "BOOKING_ALREADY_REFUNDED")
  else
    writeSettledPayment view.payment fun p =>
      { p with status := .payoutEligible, payoutEligibleAt := some now }
    writeBooking view.bookingId fun b =>
      { b with status := if view.booking.status = .disputed then .completed
                         else view.booking.status }

/-- Close the dispute and tell the rider and the driver. -/
def closeDispute (disputeId now : ℕ) (status : DisputeStatus) : Service Unit := do
  let _ ← sqlOrThrow <| update disputes disputeId fun d =>
    { d with
      status
      resolvedAt := if status = .escalated then none else some now }
  notify
  notify
  notify

/-- The arguments of a settlement. -/
structure SettlementInput where
  disputeId : ℕ
  resolution : Resolution
  refundPercent : Option ℚ := none

/-- The refund that a settlement's arguments ask for. -/
def SettlementInput.refunding (input : SettlementInput) (view : DisputeView) : Refunding :=
  view.refunding (input.resolution.refundPercent input.refundPercent)

/-- What follows the reads of `settleDispute`. -/
def settleViewed (input : SettlementInput) (view : DisputeView) (now : ℕ) : Service Unit :=
  match input.resolution with
  | .escalate => closeDispute input.disputeId now .escalated
  | .payout => do
    settlePayoutResolution view now
    closeDispute input.disputeId now .resolvedPayout
  | .refund => do
    settleRefund view now .refund (input.refunding view)
    closeDispute input.disputeId now .resolvedRefund
  | .split => do
    settleRefund view now .split (input.refunding view)
    closeDispute input.disputeId now .resolvedSplit

/-- Read the dispute with what it includes, and the time of the call. -/
def readDispute (disputeId : ℕ) : Service (Option DisputeView × ℕ) :=
  transaction fun ctx => do
    let found ← Program.command { answer := fun d => viewDispute d disputeId }
    return (found, ctx.now)

def settleDispute (input : SettlementInput) : Service Unit := do
  let (found, now) ← readDispute input.disputeId
  match found with
  | none => throw (.text "DISPUTE_NOT_FOUND")
  | some view =>
    if view.dispute.status.settleable then settleViewed input view now
    else throw (.text "DISPUTE_ALREADY_RESOLVED")

end Deliivo
