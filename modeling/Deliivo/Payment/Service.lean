import Deliivo.Ledger.Ledger

/-!
# The payment service

A payment moves through `PAYMENT_TRANSITIONS`; every helper reads the row, checks the transition
against what it read and writes the row in a second statement. Being paid and being refunded also
write to the ledger, and being paid announces itself through the outbox, each in a statement of
its own.

## Main definitions

* `PaymentStatus.transitions`, `assertTransition`: the allowed moves
* `netFareAmount`, `netPlatformFeeAmount`: what is left after refunds
* `markPaymentPaid`, `markRefunded` and the other transition helpers
* `processOutboxEvents`: the worker behind the outbox
-/

namespace Deliivo

/-! ## Transitions -/

/-- `PAYMENT_TRANSITIONS`; a status without an entry allows nothing. -/
def PaymentStatus.transitions : PaymentStatus → List PaymentStatus
  | .created => [.paymentPending, .paymentFailed]
  | .paymentPending => [.paid, .paymentFailed]
  | .paid => [.heldInEscrow, .refundPending]
  | .heldInEscrow => [.payoutEligible, .refundPending]
  | .payoutEligible => [.transferCreated, .refundPending]
  | .transferCreated => [.payoutCompleted, .payoutEligible]
  | .refundPending => [.refunded, .payoutEligible]
  | .payoutCompleted | .refunded | .paymentFailed => []

def assertTransition (current target : PaymentStatus) : Service Unit :=
  if target ∈ current.transitions then return ()
  else throw (.invalidPaymentTransition current target)

/-! ## Residual amounts -/

/-- What the driver is still owed: the gross fare less everything already refunded out of it. -/
def netFareAmount (payment : Payment) : ℤ :=
  max 0 (payment.fareAmount - payment.refundedFareAmount)

/-- The platform's fee less the share already refunded to the rider. -/
def netPlatformFeeAmount (payment : Payment) : ℤ :=
  max 0 (payment.platformFeeAmount - payment.refundedFeeAmount)

/-- The parties of a payment, as its ledger groups name them. -/
def Payment.subject (payment : Payment) (paymentId driverId : ℕ) : LedgerSubject where
  paymentId
  bookingId := payment.bookingId
  riderId := payment.riderId
  driverId
  currency := payment.currency

/-! ## Writing a payment -/

/-- Write a payment row, having last read it in status `read`. -/
def writePayment (paymentId : ℕ) (read : PaymentStatus) (f : Ctx → Payment → Payment) :
    Service Payment :=
  Program.perform (.transact (fun ctx => Program.perform (update payments paymentId (f ctx)))
    fun payment => [.paymentWritten paymentId read payment.status])

/-- The shape of the transition helpers: read the row, check the transition, write the row. -/
def markStatus (target : PaymentStatus) (f : Ctx → Payment → Payment) (paymentId : ℕ) :
    Service Payment := do
  let payment ← sqlOrThrow (findUniqueOrThrow payments paymentId)
  assertTransition payment.status target
  writePayment paymentId payment.status fun ctx p => { f ctx p with status := target }

/-- `writeOutboxEvent`. -/
def writeOutboxEvent (eventType : OutboxEventType) (paymentId : Option ℕ) : Service Unit :=
  transaction fun ctx => Program.command (create outbox ctx.uuid { eventType, paymentId })

/-! ## The transition helpers -/

def markPaymentPending : ℕ → Service Payment := markStatus .paymentPending fun _ p => p

def markPaymentPaid (paymentId driverId : ℕ) : Service Payment := do
  let payment ← sqlOrThrow (findUniqueOrThrow payments paymentId)
  assertTransition payment.status .paid
  let updated ← writePayment paymentId payment.status fun _ p => { p with status := .paid }
  recordPaymentReceived (payment.subject paymentId driverId) payment.amountTotal
    payment.fareAmount payment.platformFeeAmount
  writeOutboxEvent .paymentPaid (some paymentId)
  return updated

/-- `payment.findUnique({ where: { bookingId } })`. -/
def findPaymentOfBooking (bookingId : ℕ) : Stmt (Option (ℕ × Payment)) :=
  findFirst payments fun _ p => p.bookingId == bookingId

def markBookingPaymentPaid (bookingId driverId : ℕ) : Service (Option Payment) := do
  let found ← sql (findPaymentOfBooking bookingId)
  match found with
  | none => return none
  | some (paymentId, payment) =>
    match payment.status with
    | .created => do
      -- two transitions, each checked on its own
      let _ ← markPaymentPending paymentId
      let updated ← markPaymentPaid paymentId driverId
      return some updated
    | .paymentPending => do
      let updated ← markPaymentPaid paymentId driverId
      return some updated
    -- paid before, or beyond: nothing to do
    | _ => return some payment

def markHeldInEscrow : ℕ → Service Payment := markStatus .heldInEscrow fun _ p => p

def markPayoutEligible : ℕ → Service Payment :=
  markStatus .payoutEligible fun ctx p => { p with payoutEligibleAt := some ctx.now }

def markTransferCreated : ℕ → Service Payment := markStatus .transferCreated fun _ p => p

def markPayoutCompleted : ℕ → Service Payment := markStatus .payoutCompleted fun _ p => p

def markRefundPending : ℕ → Service Payment := markStatus .refundPending fun _ p => p

def markPaymentFailed (paymentId : ℕ) (reason : Option String) : Service Payment :=
  markStatus .paymentFailed (fun _ p => { p with failureReason := reason }) paymentId

/-! ## Refunds -/

/-- The refunded amounts of a payment once `split` more is refunded, before the write caps them. -/
def Payment.refundedWith (payment : Payment) (split : RefundSplit) : RefundSplit where
  fareRefundAmount := payment.refundedFareAmount + split.fareRefundAmount
  feeRefundAmount := payment.refundedFeeAmount + split.feeRefundAmount

/-- Where a refund leaves a payment: a partial refund with a residual fare leaves the driver
something to be paid. -/
def Payment.statusAfterRefund (payment : Payment) (split : RefundSplit) : PaymentStatus :=
  let refunded := payment.refundedWith split
  if refunded.total < payment.amountTotal ∧ 0 < payment.fareAmount - refunded.fareRefundAmount then
    .payoutEligible
  else
    .refunded

/-- The row of a payment once `split` has been refunded of what was read as `payment`: what has been
refunded accumulates, and the gross amounts stay. -/
def Payment.afterRefund (payment : Payment) (split : RefundSplit) (now : ℕ) (row : Payment) :
    Payment :=
  { row with
    status := payment.statusAfterRefund split
    refundedFareAmount := min payment.fareAmount (payment.refundedWith split).fareRefundAmount
    refundedFeeAmount := min payment.platformFeeAmount (payment.refundedWith split).feeRefundAmount
    payoutEligibleAt :=
      if payment.statusAfterRefund split = .payoutEligible then some now
      else row.payoutEligibleAt }

/-- How a refund of `payment` is apportioned: against the gross charge, never against what an
earlier refund left of it. -/
def Payment.splitRefund (payment : Payment) (refund : ℤ) : RefundSplit :=
  resolveRefundSplit payment.amountTotal payment.fareAmount refund

/-- The second half of `markRefunded`, once the row is `REFUND_PENDING`. -/
def recordRefunded (paymentId driverId : ℕ) (payment : Payment) (effectiveRefund : ℤ) :
    Service Payment := do
  let split := payment.splitRefund effectiveRefund
  assertTransition .refundPending (payment.statusAfterRefund split)
  let updated ← writePayment paymentId .refundPending fun ctx => payment.afterRefund split ctx.now
  recordRefund (payment.subject paymentId driverId) effectiveRefund split
  return updated

def markRefunded (paymentId driverId : ℕ) (refundAmount : Option ℤ) : Service Payment := do
  let payment ← sqlOrThrow (findUniqueOrThrow payments paymentId)
  if payment.status = .refunded then
    return payment
  else if payment.status = .refundPending then
    recordRefunded paymentId driverId payment (refundAmount.getD payment.amountTotal)
  else
    assertTransition payment.status .refundPending
    let _ ← writePayment paymentId payment.status fun _ p => { p with status := .refundPending }
    recordRefunded paymentId driverId payment (refundAmount.getD payment.amountTotal)

def markBookingPaymentRefunded (bookingId driverId : ℕ) (refundAmount : Option ℤ) :
    Service (Option Payment) := do
  let found ← sql (findPaymentOfBooking bookingId)
  match found with
  | none => return none
  | some (paymentId, _) => do
    let updated ← markRefunded paymentId driverId refundAmount
    return some updated

/-! ## The outbox worker -/

/-- `MAX_RETRIES`. -/
def maxRetries : ℕ := 5

/-- `RETRY_DELAY_MS`. -/
def retryDelayMs : ℕ := 60000

/-- The handler of an event type; `none` where the worker has none. -/
def outboxHandler (event : OutboxEvent) : Option (Service Unit) :=
  match event.eventType with
  | .paymentPaid =>
    some <|
      match event.paymentId with
      | some paymentId => do let _ ← markHeldInEscrow paymentId
      | none => throw .notFound
  | .bookingCompleted =>
    some <|
      match event.paymentId with
      | some paymentId => do let _ ← markPayoutEligible paymentId
      | none => return ()
  | .other _ => none

/-- Write the status of an outbox event. -/
def writeOutboxStatus (eventId : ℕ) (f : Ctx → OutboxEvent → OutboxEvent) : Service Unit := do
  let _ ← Program.perform (.transact (fun ctx => Program.perform (update outbox eventId (f ctx)))
    fun row => [.outboxWritten eventId row])

/-- Run the handler of an event, recording how it ends. -/
def runHandler (eventId : ℕ) (handler : Service Unit) : Service Unit := do
  Program.tryCatch handler fun e => do
    Program.command (.note [.handlerEnded eventId false])
    throw e
  Program.command (.note [.handlerEnded eventId true])

/-- What `processOutboxEvents` does with one event it selected. -/
def processOutboxEvent (eventId : ℕ) (event : OutboxEvent) : Service Unit := do
  -- by id, whatever the row's status has become since it was selected
  writeOutboxStatus eventId fun _ e => { e with status := .processing }
  match outboxHandler event with
  | none => writeOutboxStatus eventId fun _ e => { e with status := .failed }
  | some handler =>
    Program.tryCatch
      (do
        runHandler eventId handler
        writeOutboxStatus eventId fun _ e => { e with status := .processed })
      (fun _ =>
        -- also when the handler has returned and the write of PROCESSED has failed
        let newRetryCount := event.retryCount + 1
        if maxRetries ≤ newRetryCount then
          writeOutboxStatus eventId fun _ e =>
            { e with status := .failed, retryCount := newRetryCount }
        else
          writeOutboxStatus eventId fun ctx e =>
            { e with
              status := .pending
              retryCount := newRetryCount
              nextRetryAt := some (ctx.now + retryDelayMs * 2 ^ newRetryCount) })

/-- The pending events that are due, oldest first. -/
def selectOutboxEvents (batchSize : ℕ) (ctx : Ctx) : Tx (List (ℕ × OutboxEvent)) := do
  let events ← Program.command <|
    findMany outbox fun _ e => e.status == .pending && e.nextRetryAt.all (· ≤ ctx.now)
  return events.take batchSize

/-- `processOutboxEvents`. -/
def processOutboxEvents (batchSize : ℕ) : Service Unit := do
  let events ← Program.perform (.transact (selectOutboxEvents batchSize)
    fun events => [.outboxSelected (events.map Prod.fst)])
  Program.forEach events fun event => processOutboxEvent event.1 event.2

end Deliivo
