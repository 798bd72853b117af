import Deliivo.Payout.Settle
import Deliivo.Store.History

/-!
# Debits and credits of a payment at settlement

Every function that writes a payment's ledger entries writes a balanced group, except for the one
that records a transfer, which debits the driver and credits nobody. Over a history without
failures a payment's debits therefore exceed its credits by what payouts have paid on it.

## Main definitions

* `LedgerStep`: the calls of a history
* `ledgerImbalanceFires`: the check of the daily reconciliation
* `LedgerStep.pays`, `paidAlong`: what a payout, and a history of calls, pays on a payment

## Main results

* `imbalance_step`: what one call adds to the imbalance
* `imbalance_after`: what a history adds to it
* `ledger_balanced_iff`: debits equal credits if and only if no payout of the history paid anything
-/

namespace Deliivo

open History

/-! ## The check -/

/-- The `LEDGER_IMBALANCE` check of `runDailyReconciliation`, on payments that are paid out or
refunded: debits and credits differ by more than one cent. -/
def ledgerImbalanceFires (ledger : List LedgerEntry) (paymentId : ℕ) : Bool :=
  decide (1 < |ledgerTotal ledger paymentId .debit - ledgerTotal ledger paymentId .credit|)

/-! ## Histories -/

/-- The calls that a payment's life is made of; the amount of a partial refund is not negative. -/
inductive LedgerStep
  | markPaymentPending (paymentId : ℕ)
  | markPaymentPaid (paymentId driverId : ℕ)
  | recordProviderFeeExpense (subject : LedgerSubject) (feeAmount : ℤ) (currency : String)
  | markHeldInEscrow (paymentId : ℕ)
  | markPayoutEligible (paymentId : ℕ)
  | markRefunded (paymentId driverId : ℕ) (refundAmount : Option ℕ)
  | processDriverPayout (mockMode : Bool) (driverId : ℕ)

/-- A payout that reports `FAILED` is a failure, although it returns. -/
def PayoutResult.succeeded : PayoutResult → Bool
  | .noEligiblePayments | .completed _ _ _ => true
  | .failed _ _ => false

/-- The call of a step; it returns whether it succeeded. -/
def LedgerStep.service : LedgerStep → Service Bool
  | .markPaymentPending paymentId => do
    let _ ← Deliivo.markPaymentPending paymentId
    return true
  | .markPaymentPaid paymentId driverId => do
    let _ ← Deliivo.markPaymentPaid paymentId driverId
    return true
  | .recordProviderFeeExpense subject feeAmount currency => do
    Deliivo.recordProviderFeeExpense subject feeAmount currency
    return true
  | .markHeldInEscrow paymentId => do
    let _ ← Deliivo.markHeldInEscrow paymentId
    return true
  | .markPayoutEligible paymentId => do
    let _ ← Deliivo.markPayoutEligible paymentId
    return true
  | .markRefunded paymentId driverId refundAmount => do
    let _ ← Deliivo.markRefunded paymentId driverId (refundAmount.map Int.ofNat)
    return true
  | .processDriverPayout mockMode driverId => do
    let result ← Deliivo.processDriverPayout mockMode driverId
    return result.succeeded

/-- The world after a step. -/
def ledgerStep (w : World) (x : LedgerStep) : World := (x.service.eval w).2

/-- A step that does not fail. -/
def LedgerStep.Succeeds (w : World) (x : LedgerStep) : Prop := (x.service.eval w).1 = .ok true

/-- What a step pays on the payment `p`: its net fare, if the step is a payout that selects it. -/
def LedgerStep.pays (p : ℕ) (w : World) : LedgerStep → ℤ
  | .processDriverPayout _ driverId => paidOn (payablePayments w.db driverId) p
  | _ => 0

/-- What the payouts of a history pay on the payment `p`. -/
def paidAlong (p : ℕ) : World → List LedgerStep → ℤ
  | _, [] => 0
  | w, x :: steps => x.pays p w + paidAlong p (ledgerStep w x) steps

/-! ## One step -/

section Step

variable {w : World} (p : ℕ)

theorem imbalance_withRefund {paymentId driverId : ℕ} {payment : Payment} {refund : ℤ}
    (hr : 0 ≤ refund) :
    ledgerImbalance (w.withRefund paymentId driverId payment refund).db.ledger p =
      ledgerImbalance w.db.ledger p := by
  have hfare : payment.fareAmount ≤ payment.amountTotal := by
    have := payment.balanced
    have := payment.fee_nonneg
    omega
  have htotal : (payment.splitRefund refund).total = refund :=
    (resolveRefundSplit_total _ _ _).trans (max_eq_right hr)
  simp only [World.withRefund, withEntries_ledger, withPayment_ledger, ledgerImbalance_append]
  rw [ledgerImbalance_refund _ _ _ htotal (resolveRefundSplit_fee_nonneg hfare), add_zero]

theorem imbalance_markRefunded (paymentId driverId : ℕ) (refundAmount : Option ℕ) :
    ledgerImbalance ((markRefunded paymentId driverId (refundAmount.map Int.ofNat)).eval w).2.db.ledger
      p = ledgerImbalance w.db.ledger p := by
  cases h : w.db.payments.get? paymentId with
  | none =>
    unfold markRefunded
    simp only [Program.bind_eq]
    rw [Service.eval_bind_error (findUniqueOrThrow_payment_eval_none h)]
  | some payment =>
    by_cases hr : payment.status = .refunded
    · rw [markRefunded_eval_of_refunded driverId h hr]
    by_cases hs : payment.status.refundable = true
    · obtain ⟨updated, heval⟩ := markRefunded_eval_of_refundable driverId h hs
        (refundAmount.map Int.ofNat)
      have hnonneg : 0 ≤ (refundAmount.map Int.ofNat).getD payment.amountTotal := by
        cases refundAmount with
        | none =>
          have := payment.balanced
          have := payment.fare_nonneg
          have := payment.fee_nonneg
          simp only [Option.map_none, Option.getD_none]
          omega
        | some n => exact Int.natCast_nonneg n
      rw [heval, imbalance_withRefund p hnonneg]
    · rw [markRefunded_eval_of_refused driverId h hr (by simpa using hs)]

theorem imbalance_markPaymentPaid (paymentId driverId : ℕ) :
    ledgerImbalance ((markPaymentPaid paymentId driverId).eval w).2.db.ledger p =
      ledgerImbalance w.db.ledger p := by
  cases h : w.db.payments.get? paymentId with
  | none =>
    unfold markPaymentPaid
    simp only [Program.bind_eq]
    rw [Service.eval_bind_error (findUniqueOrThrow_payment_eval_none h)]
  | some payment =>
    by_cases ht : PaymentStatus.paid ∈ payment.status.transitions
    · obtain ⟨updated, w', group, heval, hledger⟩ := markPaymentPaid_eval_ok driverId h ht
      rw [heval, hledger, ledgerImbalance_append,
        ledgerImbalance_paymentReceived _ _ _ payment.balanced payment.fee_nonneg, add_zero]
    · rw [markPaymentPaid_eval_refused driverId h ht]

theorem imbalance_recordProviderFeeExpense (subject : LedgerSubject) (fee : ℤ)
    (currency : String) :
    ledgerImbalance ((recordProviderFeeExpense subject fee currency).eval w).2.db.ledger p =
      ledgerImbalance w.db.ledger p := by
  unfold recordProviderFeeExpense
  split_ifs
  · rw [recordGroup_eval, withEntries_ledger, ledgerImbalance_append,
      ledgerImbalance_providerFeeExpense, add_zero]
  · rfl

/-- The part of a payout that moves money debits every selected payment, if it succeeds. -/
theorem imbalance_payOut {driverId batchId : ℕ} {driver : Option User}
    {selected : List (ℕ × Payment)} (hnd : (selected.map Prod.fst).Nodup)
    (hready : w.ReadyFor .transferCreated selected)
    (hbatch : ∃ b, w.db.payoutBatches.get? batchId = some b) {result : PayoutResult}
    (h : ((payOut driverId batchId driver selected).eval w).1 = .ok result)
    (hs : result.succeeded = true) :
    ledgerImbalance ((payOut driverId batchId driver selected).eval w).2.db.ledger p =
      ledgerImbalance w.db.ledger p + paidOn selected p := by
  -- the catch block does not report success
  have hcatch : ∀ (e : Err) (x : World),
      ((failPayout driverId batchId selected e).eval x).1 ≠ .ok result := by
    intro e x hfail
    unfold failPayout at hfail
    simp only [Program.bind_eq, ← Program.bind_assoc] at hfail
    have := Service.eval_bind_ret_fst hfail
    simp [this, PayoutResult.succeeded] at hs
  unfold payOut at h ⊢
  simp only [Program.bind_eq] at h ⊢
  cases htransfer : (transferPayout driverId batchId driver (payoutTotal selected)).eval w with
  | mk r w₁ =>
    cases r with
    | error e =>
      have hbody := Service.eval_bind_error (f := fun id => (settlePayout driverId batchId
        (.stripe id) selected).bind fun _ => pure (PayoutResult.completed batchId (.stripe id)
          (payoutTotal selected))) htransfer
      rw [Service.eval, Program.eval_tryCatch_error hbody] at h
      exact absurd h (hcatch e w₁)
    | ok id =>
      have hdb : w₁.db = w.db := by
        have := transferPayout_db w driverId batchId driver (payoutTotal selected)
        rwa [htransfer] at this
      have hready₁ : w₁.ReadyFor .transferCreated selected := fun s hs => by
        rw [hdb]
        exact hready s hs
      obtain ⟨l, w₂, hsettle, -, -, -, -, himb⟩ := settlePayout_straight driverId batchId
        (.stripe id) hnd hready₁ (by rw [hdb]; exact hbatch)
      have hbody : Service.eval ((transferPayout driverId batchId driver
          (payoutTotal selected)).bind fun id => (settlePayout driverId batchId
            (.stripe id) selected).bind fun _ => pure (PayoutResult.completed batchId (.stripe id)
              (payoutTotal selected))) w = (.ok (.completed batchId (.stripe id)
                (payoutTotal selected)), w₂) := by
        rw [Service.eval_bind_ok htransfer, Service.eval_bind_ok hsettle.eval]
        rfl
      rw [Service.eval, Program.eval_tryCatch_ok hbody, himb p, hdb]

/-- A payout that succeeds debits every payment it selected. -/
theorem imbalance_processDriverPayout {mockMode : Bool} {driverId : ℕ} {result : PayoutResult}
    (h : ((processDriverPayout mockMode driverId).eval w).1 = .ok result)
    (hs : result.succeeded = true) :
    ledgerImbalance ((processDriverPayout mockMode driverId).eval w).2.db.ledger p =
      ledgerImbalance w.db.ledger p + paidOn (payablePayments w.db driverId) p := by
  have hnd : ((payablePayments w.db driverId).map Prod.fst).Nodup := Table.nodup_filter _ _
  have hready := payablePayments_readyFor w driverId
  unfold processDriverPayout at h ⊢
  simp only [Program.bind_eq] at h ⊢
  rw [Service.eval_bind_ok (selectPayable_straight w driverId).eval] at h ⊢
  cases hsel : payablePayments w.db driverId with
  | nil => simp [paidOn]
  | cons first rest =>
    rw [hsel] at h
    simp only at h ⊢
    rw [← hsel] at h ⊢
    -- the batch changes neither the payments nor the ledger
    obtain ⟨batchId, w₁, hbatch, hs₁, hd₁, hp₁, hu₁, hb₁⟩ :=
      createPayoutBatch_straight w driverId first.2.currency (payablePayments w.db driverId)
    have hready₁ : w₁.ReadyFor .transferCreated (payablePayments w.db driverId) := fun s hs => by
      rw [hp₁]
      exact hready s hs
    cases mockMode with
    | true =>
      simp only [if_true, payoutSelectedMock, Program.bind_eq] at h ⊢
      obtain ⟨l, w₂, hsettle, -, -, -, -, himb⟩ := settlePayout_straight driverId batchId
        (.mock batchId) hnd hready₁ hb₁
      rw [Service.eval_bind_ok hbatch.eval, Service.eval_bind_ok hsettle.eval]
      rw [← hd₁, ← himb p]
      rfl
    | false =>
      simp only [Bool.false_eq_true, if_false, payoutSelected, Program.bind_eq] at h ⊢
      rw [Service.eval_bind_ok (Service.straight_findUnique users driverId w).eval] at h ⊢
      cases haccount : ((users.get w.db).get? driverId).bind User.stripeAccountId with
      | none =>
        simp only [haccount] at h
        obtain rfl := Except.ok.inj h
        simp [PayoutResult.succeeded] at hs
      | some account =>
        simp only [haccount] at h ⊢
        split_ifs at h ⊢
        · rw [Service.eval_bind_ok hbatch.eval,
            Service.eval_bind_ok (Service.straight_findUnique users driverId w₁).eval] at h ⊢
          rw [imbalance_payOut p hnd hready₁ hb₁ h hs, hd₁]
        · obtain rfl := Except.ok.inj h
          simp [PayoutResult.succeeded] at hs

/-- **What a call adds to a payment's imbalance is what it pays on the payment.** -/
theorem imbalance_step {x : LedgerStep} (hx : x.Succeeds w) :
    ledgerImbalance (ledgerStep w x).db.ledger p =
      ledgerImbalance w.db.ledger p + x.pays p w := by
  unfold ledgerStep
  cases x with
  | markPaymentPending id | markHeldInEscrow id | markPayoutEligible id =>
    simp only [LedgerStep.service, LedgerStep.pays, Program.bind_eq, add_zero]
    rw [Program.pure_eq, Service.eval_bind_ret_snd]
    exact congrArg (ledgerImbalance · p) (markStatus_ledger _ _ _ _)
  | markPaymentPaid id driverId =>
    simp only [LedgerStep.service, LedgerStep.pays, Program.bind_eq, add_zero]
    rw [Program.pure_eq, Service.eval_bind_ret_snd, imbalance_markPaymentPaid]
  | recordProviderFeeExpense subject fee currency =>
    simp only [LedgerStep.service, LedgerStep.pays, Program.bind_eq, add_zero]
    rw [Program.pure_eq, Service.eval_bind_ret_snd, imbalance_recordProviderFeeExpense]
  | markRefunded id driverId amount =>
    simp only [LedgerStep.service, LedgerStep.pays, Program.bind_eq, add_zero]
    rw [Program.pure_eq, Service.eval_bind_ret_snd, imbalance_markRefunded]
  | processDriverPayout mockMode driverId =>
    unfold LedgerStep.Succeeds at hx
    simp only [LedgerStep.service, LedgerStep.pays, Program.bind_eq, Program.pure_eq] at hx ⊢
    rw [Service.eval_bind_ret_snd]
    cases h : (processDriverPayout mockMode driverId).eval w with
    | mk r w' =>
      cases r with
      | error e => simp [Service.eval_bind_error h] at hx
      | ok result =>
        rw [Service.eval_bind_ok h] at hx
        have hres : ((processDriverPayout mockMode driverId).eval w).1 = .ok result := by rw [h]
        rw [← imbalance_processDriverPayout p hres (Except.ok.inj hx), h]

theorem pays_nonneg (x : LedgerStep) (w : World) : 0 ≤ x.pays p w := by
  cases x with
  | processDriverPayout mockMode driverId =>
    refine List.sum_nonneg fun y hy => ?_
    obtain ⟨s, -, rfl⟩ := List.mem_map.mp hy
    exact le_max_left _ _
  | _ => exact le_rfl

end Step

/-! ## Histories -/

section History

variable (p : ℕ)

/-- **A history without failures adds to a payment's imbalance what it pays on the payment.** -/
theorem imbalance_after {w : World} {steps : List LedgerStep}
    (h : Each ledgerStep (fun w x => x.Succeeds w) w steps) :
    ledgerImbalance (after ledgerStep w steps).db.ledger p =
      ledgerImbalance w.db.ledger p + paidAlong p w steps := by
  induction steps generalizing w with
  | nil => simp [paidAlong]
  | cons x steps ih =>
    rw [after_cons, ih h.2, imbalance_step p h.1, paidAlong]
    ring

theorem paidAlong_nonneg (w : World) (steps : List LedgerStep) : 0 ≤ paidAlong p w steps := by
  induction steps generalizing w with
  | nil => exact le_rfl
  | cons x steps ih => exact add_nonneg (pays_nonneg p x w) (ih _)

theorem paidAlong_eq_zero_iff (w : World) (steps : List LedgerStep) :
    paidAlong p w steps = 0 ↔ Each ledgerStep (fun w x => x.pays p w = 0) w steps := by
  induction steps generalizing w with
  | nil => simp [paidAlong, Each]
  | cons x steps ih =>
    have hx := pays_nonneg p x w
    have hrest := paidAlong_nonneg p (ledgerStep w x) steps
    rw [paidAlong, Each, ← ih]
    omega

/-- **After a history without failures a payment's debits equal its credits if and only if none of
its payouts paid anything, and the daily check fires if and only if they paid more than a cent.** -/
theorem ledger_balanced_iff (w : World) (steps : List LedgerStep)
    (hstart : ledgerImbalance w.db.ledger p = 0)
    (hsteps : Each ledgerStep (fun w x => x.Succeeds w) w steps) :
    let ledger := (after ledgerStep w steps).db.ledger
    (ledgerTotal ledger p .debit = ledgerTotal ledger p .credit ↔
        Each ledgerStep (fun w x => x.pays p w = 0) w steps) ∧
      (ledgerImbalanceFires ledger p = true ↔ 1 < paidAlong p w steps) := by
  have himb := imbalance_after p hsteps
  have hnonneg := paidAlong_nonneg p w steps
  rw [hstart, zero_add, ledgerImbalance] at himb
  refine ⟨?_, ?_⟩
  · rw [← paidAlong_eq_zero_iff, ← himb, sub_eq_zero]
  · rw [ledgerImbalanceFires, himb, decide_eq_true_iff, abs_of_nonneg hnonneg]

/-! ### Two lives of a payment of 10.20 -/

/-- A world in which the sample payment waits to be paid, and its driver can be paid. -/
def pendingWorld : World where
  db := {
    rides := .single 0 sampleRide
    bookings := .single 0 sampleBooking
    payments := .single 0 { samplePayment with status := .paymentPending }
    users := .single 7 { stripeAccountId := some 0, stripeOnboardingComplete := true } }

set_option maxRecDepth 1024 in
/-- A payment that is paid, held, eligible and paid out in full, without any failure, ends with
debits of 20.20 against credits of 10.20, and the daily check fires. -/
theorem paid_out_payment_is_unbalanced :
    let steps : List LedgerStep := [.markPaymentPaid 0 7, .markHeldInEscrow 0,
      .markPayoutEligible 0, .processDriverPayout false 7]
    let w := after ledgerStep pendingWorld steps
    Each ledgerStep (fun w x => x.Succeeds w) pendingWorld steps ∧
      ledgerImbalance pendingWorld.db.ledger 0 = 0 ∧
      (w.db.payments.get? 0).map (·.status) = some .payoutCompleted ∧
      ledgerTotal w.db.ledger 0 .debit = 2020 ∧ ledgerTotal w.db.ledger 0 .credit = 1020 ∧
      ledgerImbalanceFires w.db.ledger 0 = true :=
  ⟨⟨rfl, rfl, rfl, rfl, trivial⟩, rfl, rfl, rfl, rfl, rfl⟩

/-- A payment that is paid and refunded in full ends balanced. -/
theorem refunded_payment_is_balanced :
    let steps : List LedgerStep := [.markPaymentPaid 0 7, .markRefunded 0 7 none]
    let w := after ledgerStep pendingWorld steps
    (w.db.payments.get? 0).map (·.status) = some .refunded ∧
      ledgerTotal w.db.ledger 0 .debit = ledgerTotal w.db.ledger 0 .credit :=
  ⟨rfl, (ledger_balanced_iff 0 pendingWorld [.markPaymentPaid 0 7, .markRefunded 0 7 none] rfl
    ⟨rfl, rfl, trivial⟩).1.mpr ⟨rfl, rfl, trivial⟩⟩

end History

end Deliivo
