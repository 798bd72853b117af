import Deliivo.Booking.PaymentSucceeded

/-!
# Hourly reconciliation

Every recent payment is compared with its PaymentIntent at Stripe. A payment that Stripe says has
succeeded and that still waits for it here is repaired by writing its status; any other mismatch is
left as an issue.

## Main definitions

* `expectedInternalStates`, `safeRepairs`: the two tables
* `reconcilePayment`, `runHourlyReconciliation`
-/

namespace Deliivo

/-- `STRIPE_TO_INTERNAL_MAP`. -/
def expectedInternalStates : IntentStatus → List PaymentStatus
  | .requiresPaymentMethod | .requiresConfirmation => [.created, .paymentPending]
  | .requiresAction | .processing => [.paymentPending]
  | .requiresCapture => [.paid, .heldInEscrow]
  | .succeeded => [.paid, .heldInEscrow, .payoutEligible, .transferCreated, .payoutCompleted]
  | .canceled => [.paymentFailed, .refunded]

structure SafeRepair where
  stripeStatus : IntentStatus
  internalStatus : PaymentStatus
  targetStatus : PaymentStatus
  deriving DecidableEq, Repr

/-- `SAFE_REPAIRS.MISSING_WEBHOOK`. -/
def safeRepairs : List SafeRepair := [⟨.succeeded, .paymentPending, .paid⟩]

/-- What became of one payment. -/
structure Reconciled where
  issue : Bool
  repaired : Bool
  deriving DecidableEq, Repr

/-- Compare a payment, as it was selected, with its intent. -/
def reconcilePayment (paymentId : ℕ) (payment : Payment) : Service Reconciled :=
  match payment.stripePaymentIntentId with
  | none => return ⟨false, false⟩
  | some paymentIntent => do
    let intent ← retrievePaymentIntent paymentIntent
    if payment.status ∈ expectedInternalStates intent.status then
      return ⟨false, false⟩
    else
      match safeRepairs.find? fun r =>
          r.stripeStatus == intent.status && r.internalStatus == payment.status with
      | some repair => do
        -- the status alone: neither the ledger nor the outbox is written
        let _ ← writePayment paymentId payment.status fun _ p =>
          { p with status := repair.targetStatus }
        createIssue {
          paymentId := some paymentId
          bookingId := some payment.bookingId
          issueType := .missingWebhook
          autoRepaired := true }
        return ⟨true, true⟩
      | none => do
        createIssue {
          paymentId := some paymentId
          bookingId := some payment.bookingId
          issueType := .stripeMismatch }
        return ⟨true, false⟩

/-- The loop over the selected payments: how many have an issue and how many were repaired. -/
def reconcilePayments : List (ℕ × Payment) → Service (ℕ × ℕ)
  | [] => return (0, 0)
  | (paymentId, payment) :: rest => do
    let result ← Program.tryCatch (reconcilePayment paymentId payment) fun _ =>
      return ⟨false, false⟩
    let (issues, repaired) ← reconcilePayments rest
    return (issues + result.issue.toNat, repaired + result.repaired.toNat)

/-- `runHourlyReconciliation`; `recent` are the payments written in the last two hours. -/
def runHourlyReconciliation (recent : ℕ → Bool) : Service (ℕ × ℕ) := do
  let selected ← sql <| findMany payments fun id p =>
    p.stripePaymentIntentId.isSome && recent id && p.status != .payoutCompleted &&
      p.status != .refunded
  reconcilePayments selected

end Deliivo
