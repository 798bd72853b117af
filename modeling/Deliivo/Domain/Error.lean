import Mathlib.Tactic

/-!
# Identifiers, amounts and errors

Rows are identified by natural numbers in place of the database's UUIDs, and moments are natural
numbers of milliseconds. Amounts of money are integers of cents: the services keep decimal numbers
of whole cents and convert at every use, so the amount of a row is the integer that
`Math.round(amount * 100)` gives.
-/

namespace Deliivo

/-- `Payment.status` (`PAYMENT_STATUSES`). -/
inductive PaymentStatus
  | created
  | paymentPending
  | paid
  | heldInEscrow
  | payoutEligible
  | transferCreated
  | payoutCompleted
  | refundPending
  | refunded
  | paymentFailed
  deriving DecidableEq, Repr

/-- What a service call throws. -/
inductive Err
  /-- A database command or an external call that did not come back with an answer. -/
  | unavailable
  /-- `findUniqueOrThrow`, `update` and `updateOrThrow` on a row that does not exist. -/
  | notFound
  /-- `INVALID_PAYMENT_TRANSITION: current -> target`. -/
  | invalidPaymentTransition (current target : PaymentStatus)
  /-- A request that Stripe answers with an error. -/
  | stripe
  /-- A write that a unique index refuses (`P2002`). -/
  | uniqueViolation
  /-- An error thrown with a fixed text. -/
  | text (message : String)
  deriving DecidableEq, Repr

end Deliivo
