import Deliivo.Domain.Straight
import Deliivo.Payment.Service

/-!
# What the payment service does when no step fails

One lemma per helper: the outcome and the world it leaves, written with the two updates that the
payment service makes, a change of one payment row and new entries at the end of the ledger.

## Main results

* `markStatus_eval`: the transition helpers
* `markPaymentPaid_eval`, `markRefunded_eval`: the two that write to the ledger
-/

namespace Deliivo

/-! ## The two updates -/

/-- The world with one payment row changed. -/
def World.withPayment (w : World) (id : ℕ) (f : Payment → Payment) : World :=
  { w with db := { w.db with payments := w.db.payments.modify id f } }

/-- The world with new entries in the ledger. -/
def World.withEntries (w : World) (es : List LedgerEntry) : World :=
  { w with db := { w.db with ledger := w.db.ledger ++ es } }

section Updates

variable (w : World) (id : ℕ) (f g : Payment → Payment) (es : List LedgerEntry)

@[simp] theorem withPayment_payments :
    (w.withPayment id f).db.payments = w.db.payments.modify id f := rfl

@[simp] theorem withPayment_ledger : (w.withPayment id f).db.ledger = w.db.ledger := rfl

@[simp] theorem withPayment_bookings : (w.withPayment id f).db.bookings = w.db.bookings := rfl

@[simp] theorem withPayment_stripe : (w.withPayment id f).stripe = w.stripe := rfl

@[simp] theorem withPayment_now : (w.withPayment id f).now = w.now := rfl

@[simp] theorem withPayment_withPayment :
    (w.withPayment id f).withPayment id g = w.withPayment id (g ∘ f) := by
  simp [World.withPayment]

@[simp] theorem withEntries_payments : (w.withEntries es).db.payments = w.db.payments := rfl

@[simp] theorem withEntries_ledger : (w.withEntries es).db.ledger = w.db.ledger ++ es := rfl

@[simp] theorem withEntries_bookings : (w.withEntries es).db.bookings = w.db.bookings := rfl

@[simp] theorem withEntries_stripe : (w.withEntries es).stripe = w.stripe := rfl

@[simp] theorem withEntries_now : (w.withEntries es).now = w.now := rfl

end Updates

/-! ## The helpers -/

section Helpers

variable {w : World} {id : ℕ} (driverId : ℕ) {payment : Payment}

theorem findUniqueOrThrow_payment_eval (h : w.db.payments.get? id = some payment) :
    (sqlOrThrow (findUniqueOrThrow payments id)).eval w = (.ok payment, w) :=
  Service.eval_sqlOrThrow_ok (by simp [findUniqueOrThrow, payments, h])

theorem findUniqueOrThrow_payment_eval_none (h : w.db.payments.get? id = none) :
    (sqlOrThrow (findUniqueOrThrow payments id)).eval w = (.error .notFound, w) :=
  Service.eval_sqlOrThrow_error (by simp [findUniqueOrThrow, payments, h])

theorem assertTransition_of_mem {current target : PaymentStatus}
    (h : target ∈ current.transitions) : assertTransition current target = .ret () := if_pos h

theorem assertTransition_of_notMem {current target : PaymentStatus}
    (h : target ∉ current.transitions) :
    assertTransition current target = .throw (.invalidPaymentTransition current target) := if_neg h

theorem writePayment_eval (h : w.db.payments.get? id = some payment) (read : PaymentStatus)
    (f : Ctx → Payment → Payment) :
    (writePayment id read f).eval w =
      (.ok (f ⟨w.now, w.db.freshId⟩ payment), w.withPayment id (f ⟨w.now, w.db.freshId⟩)) := by
  simp [Service.eval, writePayment, Program.perform, world, Call.exec, Tx.atomic, update, payments,
    h, World.withPayment]

theorem recordGroup_eval (w : World) (entries : ℕ → List LedgerEntry) :
    (recordGroup entries).eval w = (.ok (), w.withEntries (entries w.db.freshId)) := rfl

/-- A transition helper writes the row if the transition is allowed and throws otherwise. -/
theorem markStatus_eval (h : w.db.payments.get? id = some payment) (target : PaymentStatus)
    (f : Ctx → Payment → Payment) :
    (markStatus target f id).eval w =
      if target ∈ payment.status.transitions then
        (.ok { f ⟨w.now, w.db.freshId⟩ payment with status := target },
          w.withPayment id fun p => { f ⟨w.now, w.db.freshId⟩ p with status := target })
      else
        (.error (.invalidPaymentTransition payment.status target), w) := by
  unfold markStatus
  simp only [Program.bind_eq]
  rw [Service.eval_bind_ok (findUniqueOrThrow_payment_eval h)]
  split_ifs with ht
  · rw [assertTransition_of_mem ht, Program.ret_bind, writePayment_eval h]
  · rw [assertTransition_of_notMem ht]
    rfl

theorem writePayment_straight (h : w.db.payments.get? id = some payment) (read : PaymentStatus)
    (f : Ctx → Payment → Payment) :
    (writePayment id read f).Straight w [w] (f ⟨w.now, w.db.freshId⟩ payment)
      (w.withPayment id (f ⟨w.now, w.db.freshId⟩)) :=
  Service.straight_transact (by simp [Program.perform, Tx.atomic, update, payments, h])

theorem recordGroup_straight (w : World) (entries : ℕ → List LedgerEntry) :
    (recordGroup entries).Straight w [w] () (w.withEntries (entries w.db.freshId)) :=
  Service.straight_transact rfl

/-- A transition helper whose transition is allowed runs straight, in a read and a write. -/
theorem markStatus_straight (h : w.db.payments.get? id = some payment) {target : PaymentStatus}
    (ht : target ∈ payment.status.transitions) (f : Ctx → Payment → Payment) :
    (markStatus target f id).Straight w [w, w]
      { f ⟨w.now, w.db.freshId⟩ payment with status := target }
      (w.withPayment id fun p => { f ⟨w.now, w.db.freshId⟩ p with status := target }) := by
  unfold markStatus
  simp only [Program.bind_eq]
  have hread : (sqlOrThrow (findUniqueOrThrow payments id)).Straight w [w] payment w :=
    Service.straight_sqlOrThrow (by simp [findUniqueOrThrow, payments, h])
  show Program.Straight world .ok Err.unavailable _ w ([w] ++ [w]) _ _
  refine hread.bind ?_
  rw [assertTransition_of_mem ht, Program.ret_bind]
  exact writePayment_straight h _ _

/-- A payment that may become paid is written, booked in the ledger and announced. -/
theorem markPaymentPaid_eval_ok (h : w.db.payments.get? id = some payment)
    (ht : PaymentStatus.paid ∈ payment.status.transitions) :
    ∃ updated w' group, (markPaymentPaid id driverId).eval w = (.ok updated, w') ∧
      w'.db.ledger = w.db.ledger ++ paymentReceivedEntries group (payment.subject id driverId)
        payment.amountTotal payment.fareAmount payment.platformFeeAmount := by
  unfold markPaymentPaid
  simp only [Program.bind_eq]
  rw [Service.eval_bind_ok (findUniqueOrThrow_payment_eval h), assertTransition_of_mem ht,
    Program.ret_bind, Service.eval_bind_ok (writePayment_eval h _ _), recordPaymentReceived,
    Service.eval_bind_ok (recordGroup_eval _ _)]
  exact ⟨_, _, _, rfl, rfl⟩

theorem markPaymentPaid_eval_refused (h : w.db.payments.get? id = some payment)
    (ht : PaymentStatus.paid ∉ payment.status.transitions) :
    (markPaymentPaid id driverId).eval w =
      (.error (.invalidPaymentTransition payment.status .paid), w) := by
  unfold markPaymentPaid
  simp only [Program.bind_eq]
  rw [Service.eval_bind_ok (findUniqueOrThrow_payment_eval h), assertTransition_of_notMem ht]
  rfl

/-- The transition helpers that only move the status do not touch the ledger. -/
theorem markStatus_ledger (target : PaymentStatus) (f : Ctx → Payment → Payment) (id : ℕ)
    (w : World) : ((markStatus target f id).eval w).2.db.ledger = w.db.ledger := by
  cases h : w.db.payments.get? id with
  | none =>
    unfold markStatus
    simp only [Program.bind_eq]
    rw [Service.eval_bind_error (findUniqueOrThrow_payment_eval_none h)]
  | some payment =>
    rw [markStatus_eval h]
    split_ifs <;> rfl

/-- The statuses from which a refund can be recorded. -/
def PaymentStatus.refundable (s : PaymentStatus) : Bool :=
  s == .refundPending || s.transitions.contains .refundPending

theorem statusAfterRefund_mem (payment : Payment) (split : RefundSplit) :
    payment.statusAfterRefund split ∈ PaymentStatus.refundPending.transitions := by
  unfold Payment.statusAfterRefund
  simp only
  split_ifs <;> simp [PaymentStatus.transitions]

/-- The world once a refund of what was read as `payment` has been recorded. -/
def World.withRefund (w : World) (id driverId : ℕ) (payment : Payment) (refund : ℤ) : World :=
  let marked := w.withPayment id (payment.afterRefund (payment.splitRefund refund) w.now)
  marked.withEntries (refundEntries marked.db.freshId (payment.subject id driverId) refund
    (payment.splitRefund refund))

theorem recordRefunded_eval {row : Payment} (h : w.db.payments.get? id = some row)
    (payment : Payment) (refund : ℤ) :
    (recordRefunded id driverId payment refund).eval w =
      (.ok (payment.afterRefund (payment.splitRefund refund) w.now row),
        w.withRefund id driverId payment refund) := by
  unfold recordRefunded
  simp only [Program.bind_eq]
  rw [assertTransition_of_mem (statusAfterRefund_mem _ _), Program.ret_bind,
    Service.eval_bind_ok (writePayment_eval h _ _), recordRefund,
    Service.eval_bind_ok (recordGroup_eval _ _)]
  rfl

/-- `markRefunded` does nothing on a refunded payment. -/
theorem markRefunded_eval_of_refunded (h : w.db.payments.get? id = some payment)
    (hs : payment.status = .refunded) (refundAmount : Option ℤ) :
    (markRefunded id driverId refundAmount).eval w = (.ok payment, w) := by
  unfold markRefunded
  simp only [Program.bind_eq]
  rw [Service.eval_bind_ok (findUniqueOrThrow_payment_eval h), if_pos hs]
  rfl

/-- From a refundable status `markRefunded` records the refund: row and ledger. -/
theorem markRefunded_eval_of_refundable (h : w.db.payments.get? id = some payment)
    (hs : payment.status.refundable = true) (refundAmount : Option ℤ) :
    ∃ updated, (markRefunded id driverId refundAmount).eval w =
      (.ok updated, w.withRefund id driverId payment (refundAmount.getD payment.amountTotal)) := by
  have hr : payment.status ≠ .refunded := by
    intro hr
    simp [PaymentStatus.refundable, PaymentStatus.transitions, hr] at hs
  unfold markRefunded
  simp only [Program.bind_eq]
  rw [Service.eval_bind_ok (findUniqueOrThrow_payment_eval h), if_neg hr]
  by_cases hp : payment.status = .refundPending
  · rw [if_pos hp, recordRefunded_eval driverId h]
    exact ⟨_, rfl⟩
  have ht : PaymentStatus.refundPending ∈ payment.status.transitions := by
    simpa [PaymentStatus.refundable, hp] using hs
  have hrow : (w.withPayment id fun p => { p with status := .refundPending }).db.payments.get? id
      = some { payment with status := .refundPending } := by simp [h]
  rw [if_neg hp, assertTransition_of_mem ht, Program.ret_bind,
    Service.eval_bind_ok (writePayment_eval h _ _), recordRefunded_eval driverId hrow]
  refine ⟨_, Prod.ext rfl ?_⟩
  -- the second write sets every column that the first one set
  rw [World.withRefund, World.withRefund, withPayment_withPayment]
  rfl

/-- From any other status `markRefunded` throws and writes nothing. -/
theorem markRefunded_eval_of_refused (h : w.db.payments.get? id = some payment)
    (hr : payment.status ≠ .refunded) (hs : payment.status.refundable = false)
    (refundAmount : Option ℤ) :
    (markRefunded id driverId refundAmount).eval w =
      (.error (.invalidPaymentTransition payment.status .refundPending), w) := by
  obtain ⟨hp, ht⟩ : payment.status ≠ .refundPending ∧
      PaymentStatus.refundPending ∉ payment.status.transitions := by
    simpa [PaymentStatus.refundable] using hs
  unfold markRefunded
  simp only [Program.bind_eq]
  rw [Service.eval_bind_ok (findUniqueOrThrow_payment_eval h), if_neg hr, if_neg hp,
    assertTransition_of_notMem ht]
  rfl

end Helpers

/-! ### A payment of 10.20, fare 10.00 and fee 0.20 -/

/-- A payment of 10.20 that has been captured and marked paid. -/
def samplePayment : Payment where
  amountTotal := 1020
  fareAmount := 1000
  platformFeeAmount := 20
  currency := "EUR"
  balanced := by decide
  fare_nonneg := by decide
  fee_nonneg := by decide
  bookingId := 0
  rideId := 0
  riderId := 5
  stripePaymentIntentId := some 0
  status := .paid

/-- The booking that was paid with it. -/
def sampleBooking : Booking where
  rideId := 0
  passengerId := 5
  seatsBooked := 1
  totalPrice := 1020
  status := .driverPending
  stripePaymentIntentId := some 0
  paymentAmount := some 1020
  paymentCapturedAt := some 0

/-- The ride of the booking. -/
def sampleRide : Ride where
  driverId := 7
  totalSeats := 3
  availableSeats := 2
  status := .published
  departureAt := 0

end Deliivo
