import Deliivo.Payment.Service
import Deliivo.Stripe.Client

/-!
# The payout service

A driver's payout selects the eligible payments, creates a batch, transfers the sum of their net
fares and then moves the payments, the ledger and the batch along, one statement at a time. One
catch block answers every failure after the batch exists: it reopens the liability of every payment
of the batch.

## Main definitions

* `checkAndMarkEligible`: what makes a payment eligible
* `processDriverPayout`: one payout of one driver
* `settlePayout`, `failPayout`: the statements after the transfer, and the catch block
-/

namespace Deliivo

/-! ## Eligibility -/

/-- Whether a booking has an open dispute. -/
def hasOpenDispute (d : Db) (bookingId : ℕ) : Bool :=
  d.disputes.rows.any fun r => r.2.bookingId == bookingId && r.2.status.isOpen

/-- `booking.ride.driverId`. -/
def driverOfBooking (d : Db) (bookingId : ℕ) : Option ℕ := do
  let booking ← d.bookings.get? bookingId
  let ride ← d.rides.get? booking.rideId
  return ride.driverId

/-- The payments that `checkAndMarkEligible` selects: held, their booking completed `delayMs` ago
or earlier and without an open dispute. -/
def heldPastDelay (d : Db) (delayMs now : ℕ) : List (ℕ × Payment) :=
  d.payments.filter fun _ p => p.status == .heldInEscrow &&
    ((d.bookings.get? p.bookingId).any fun b =>
      b.status == .completed && b.completedAt.any fun t => decide (t + delayMs < now)) &&
    !hasOpenDispute d p.bookingId

/-- `checkAndMarkEligible`, for an eligibility delay of `delayMs`. -/
def checkAndMarkEligible (delayMs : ℕ) : Service Unit := do
  processOutboxEvents 50
  let eligible ← transaction fun ctx => Program.command
    { answer := fun d => heldPastDelay d delayMs ctx.now : Stmt (List (ℕ × Payment)) }
  Program.forEach eligible fun payment => do
    let _ ← writePayment payment.1 payment.2.status fun ctx p =>
      { p with status := .payoutEligible, payoutEligibleAt := some ctx.now }

/-! ## One payout -/

/-- The payments that a driver's payout selects. -/
def payablePayments (d : Db) (driverId : ℕ) : List (ℕ × Payment) :=
  d.payments.filter fun _ p => p.status == .payoutEligible &&
    driverOfBooking d p.bookingId == some driverId && !hasOpenDispute d p.bookingId

/-- The sum of what is owed on the selected payments. -/
def payoutTotal (selected : List (ℕ × Payment)) : ℤ :=
  (selected.map fun p => netFareAmount p.2).sum

inductive PayoutFailure
  | noStripeAccount
  | stripeOnboardingIncomplete
  | error (e : Err)
  deriving DecidableEq, Repr

inductive PayoutResult
  | noEligiblePayments
  | failed (batchId : Option ℕ) (reason : PayoutFailure)
  | completed (batchId : ℕ) (transfer : TransferRef) (amount : ℤ)
  deriving DecidableEq, Repr

def selectPayable (driverId : ℕ) : Service (List (ℕ × Payment)) :=
  Program.perform (.transact
    (fun _ => Program.command { answer := fun d => payablePayments d driverId })
    fun selected => [.paymentsSelected (selected.map Prod.fst)])

/-- The batch of a payout, one item for every selected payment. -/
def createPayoutBatch (driverId : ℕ) (currency : String) (selected : List (ℕ × Payment)) :
    Service ℕ :=
  transaction fun ctx => do
    Program.command <| create payoutBatches ctx.uuid
      { driverId, currency
        amountTotal := payoutTotal selected
        status := .processing
        items := selected.map fun p =>
          { bookingId := p.2.bookingId
            paymentId := p.1
            driverAmount := netFareAmount p.2
            platformFee := netPlatformFeeAmount p.2 } }
    return ctx.uuid

/-- `payoutBatch.update`. -/
def writeBatch (batchId : ℕ) (f : PayoutBatch → PayoutBatch) : Service Unit := do
  let _ ← sqlOrThrow (update payoutBatches batchId f)

/-- `payoutItem.updateMany` on the items of a batch. -/
def writeItems (batchId : ℕ) (status : PayoutStatus) : Service Unit := do
  let _ ← sql (updateMany payoutBatches (fun id _ => id == batchId) fun b =>
    { b with items := b.items.map fun i => { i with status } })

/-- What follows a transfer: payments, ledger, batch, payments again, items. -/
def settlePayout (driverId batchId : ℕ) (transfer : TransferRef) (selected : List (ℕ × Payment)) :
    Service Unit := do
  Program.forEach selected fun p => do
    let _ ← markTransferCreated p.1
  Program.forEach selected fun p =>
    recordTransfer (p.2.subject p.1 driverId) (netFareAmount p.2)
  writeBatch batchId fun b => { b with status := .completed, stripeTransferId := some transfer }
  Program.forEach selected fun p => do
    let _ ← markPayoutCompleted p.1
  writeItems batchId .completed

/-- The catch block: the batch has failed, and the driver is owed again what `recordTransfer` is
taken to have discharged; a reversal that cannot be written is logged. -/
def failPayout (driverId batchId : ℕ) (selected : List (ℕ × Payment)) (reason : Err) :
    Service PayoutResult := do
  writeBatch batchId fun b => { b with status := .failed }
  writeItems batchId .failed
  Program.forEach selected fun p =>
    Program.tryCatch (recordPayoutFailureReversal (p.2.subject p.1 driverId) (netFareAmount p.2))
      fun _ => return ()
  return .failed (some batchId) (.error reason)

/-- The transfer of a payout, to the account the driver has by then. -/
def transferPayout (driverId batchId : ℕ) (driver : Option User) (total : ℤ) : Service ℕ :=
  match driver.bind User.stripeAccountId with
  | some account =>
    createTransfer { amount := total, destination := account, payoutBatchId := batchId, driverId }
  | none => throw .stripe

/-- The part of `processDriverPayout` that moves money: the `try` block and its `catch`. -/
def payOut (driverId batchId : ℕ) (driver : Option User) (selected : List (ℕ × Payment)) :
    Service PayoutResult :=
  Program.tryCatch
    (do
      let transfer ← transferPayout driverId batchId driver (payoutTotal selected)
      settlePayout driverId batchId (.stripe transfer) selected
      return .completed batchId (.stripe transfer) (payoutTotal selected))
    (failPayout driverId batchId selected)

/-- `processDriverPayout` with payments selected, at Stripe. -/
def payoutSelected (driverId : ℕ) (currency : String) (selected : List (ℕ × Payment)) :
    Service PayoutResult := do
  let driver ← sql (findUnique users driverId)
  match driver.bind User.stripeAccountId with
  | none => return .failed none .noStripeAccount
  | some _ =>
    if driver.any User.stripeOnboardingComplete then
      let batchId ← createPayoutBatch driverId currency selected
      let driver ← sql (findUnique users driverId)
      payOut driverId batchId driver selected
    else
      return .failed none .stripeOnboardingIncomplete

/-- `processDriverPayout` with payments selected, in mock mode: nothing is transferred, and there
is no catch block. -/
def payoutSelectedMock (driverId : ℕ) (currency : String) (selected : List (ℕ × Payment)) :
    Service PayoutResult := do
  let batchId ← createPayoutBatch driverId currency selected
  settlePayout driverId batchId (.mock batchId) selected
  return .completed batchId (.mock batchId) (payoutTotal selected)

/-- `processDriverPayout`; `mockMode` is `STRIPE_CONNECT_MOCK_MODE === 'true'`. -/
def processDriverPayout (mockMode : Bool) (driverId : ℕ) : Service PayoutResult := do
  let selected ← selectPayable driverId
  match selected with
  | [] => return .noEligiblePayments
  | first :: _ =>
    if mockMode then payoutSelectedMock driverId first.2.currency selected
    else payoutSelected driverId first.2.currency selected

end Deliivo
