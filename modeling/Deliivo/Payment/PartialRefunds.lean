import Deliivo.Payment.Spec
import Deliivo.Store.History

/-!
# Several partial refunds of one payment

`markRefunded` apportions every refund against the gross charge, rounds, and caps what the payment has
refunded of its fare and of its fee, each by itself. The shares of the fee that are rounded up can sum
to more than the fee, and then the cap takes away what the fare has not been charged with.

**The refunded amounts of a payment add up as long as it is not refunded in full, and it is refunded in
full only when nothing is left to pay the driver, exactly if the fee's shares of the refunds sum to at
most the fee** (`partialRefunds_add_up_iff`).

## Main definitions

* `refundNext`: one call, with the sum of the refunds that have been recorded
* `RefundsAddUp`: what is to hold after each call
* `PartlyRefunded`: the invariant of a payment that is not refunded in full

## Main results

* `partlyRefunded_next`: one call on such a payment
* `partialRefunds_add_up_iff`
-/

namespace Deliivo

/-! ## The calls -/

/-- What the ledger has debited the driver's account of a payment with. -/
def driverDebits (ledger : List LedgerEntry) (paymentId : ℕ) : ℤ :=
  ledger.tally (fun e => e.isOf paymentId .debit && e.accountType == .driver) LedgerEntry.amount

/-- One call of `markRefunded`, next to the sum of the refunds whose calls have returned. -/
def refundNext (paymentId driverId : ℕ) (s : World × ℤ) (refund : ℤ) : World × ℤ :=
  match (markRefunded paymentId driverId (some refund)).eval s.1 with
  | (.ok _, w) => (w, s.2 + refund)
  | (.error _, w) => (w, s.2)

/-- The records of a payment that is not refunded in full add up to the refunds; one that is leaves
nothing to pay the driver. -/
def RefundsAddUp (paymentId : ℕ) (s : World × ℤ) : Prop :=
  ∃ p, s.1.db.payments.get? paymentId = some p ∧
    (p.status ≠ .refunded →
      p.refundedFareAmount + p.refundedFeeAmount = s.2 ∧
      p.refundedFareAmount ≤ p.fareAmount ∧
      p.refundedFeeAmount ≤ p.platformFeeAmount ∧
      driverDebits s.1.db.ledger paymentId = p.refundedFareAmount) ∧
    (p.status = .refunded → netFareAmount p = 0)

/-- A payment of which nothing has been refunded. -/
structure World.Unrefunded (w : World) (paymentId : ℕ) (p : Payment) : Prop where
  row : w.db.payments.get? paymentId = some p
  fare : p.refundedFareAmount = 0
  fee : p.refundedFeeAmount = 0
  debits : driverDebits w.db.ledger paymentId = 0
  status : p.status ≠ .refunded

/-- The fee's share of a refund. -/
def Payment.feeShare (p : Payment) (refund : ℤ) : ℤ := (p.splitRefund refund).feeRefundAmount

/-! ## What one refund is made of -/

section Split

variable (p : Payment) {refund : ℤ}

theorem fareAmount_le_amountTotal : p.fareAmount ≤ p.amountTotal := by
  have := p.balanced
  have := p.fee_nonneg
  omega

theorem splitRefund_add (hpos : 0 < refund) :
    (p.splitRefund refund).fareRefundAmount + p.feeShare refund = refund :=
  (resolveRefundSplit_total p.amountTotal p.fareAmount refund).trans (max_eq_right hpos.le)

theorem fareShare_nonneg : 0 ≤ (p.splitRefund refund).fareRefundAmount :=
  resolveRefundSplit_fare_nonneg p.fare_nonneg

theorem feeShare_nonneg : 0 ≤ p.feeShare refund :=
  resolveRefundSplit_fee_nonneg (fareAmount_le_amountTotal p)

theorem driverDebits_refund (group : ℕ) (subject : LedgerSubject) (split : RefundSplit) :
    driverDebits (refundEntries group subject refund split) subject.paymentId =
      split.fareRefundAmount := by
  unfold driverDebits refundEntries
  split_ifs <;> simp [LedgerEntry.isOf]

end Split

/-! ## One call -/

section Call

variable {paymentId driverId : ℕ} {s : World × ℤ} {p : Payment} {refund : ℤ}

/-- A payment that is not refunded in full, and whose records add up. -/
structure PartlyRefunded (paymentId : ℕ) (s : World × ℤ) (p : Payment) : Prop where
  row : s.1.db.payments.get? paymentId = some p
  refundable : p.status.refundable = true
  total : p.refundedFareAmount + p.refundedFeeAmount = s.2
  fare_le : p.refundedFareAmount ≤ p.fareAmount
  fee_le : p.refundedFeeAmount ≤ p.platformFeeAmount
  debits : driverDebits s.1.db.ledger paymentId = p.refundedFareAmount

theorem PartlyRefunded.addUp (h : PartlyRefunded paymentId s p) : RefundsAddUp paymentId s := by
  refine ⟨p, h.row, fun _ => ⟨h.total, h.fare_le, h.fee_le, h.debits⟩, fun hrefunded => ?_⟩
  have hrefundable := h.refundable
  rw [hrefunded] at hrefundable
  cases hrefundable

/-- A payment that is refunded in full stays as it is. -/
theorem refundNext_of_refunded (hrow : s.1.db.payments.get? paymentId = some p)
    (hstatus : p.status = .refunded) :
    refundNext paymentId driverId s refund = (s.1, s.2 + refund) := by
  unfold refundNext
  rw [markRefunded_eval_of_refunded driverId hrow hstatus]

/-- Where no refund is possible the call throws. -/
theorem refundNext_of_refused (hrow : s.1.db.payments.get? paymentId = some p)
    (hstatus : p.status ≠ .refunded) (hrefused : p.status.refundable = false) :
    refundNext paymentId driverId s refund = s := by
  unfold refundNext
  rw [markRefunded_eval_of_refused driverId hrow hstatus hrefused]

/-- **One call**: the row and the driver's account once a refund has been recorded. -/
theorem partlyRefunded_next (h : PartlyRefunded paymentId s p) (driverId : ℕ) (refund : ℤ) :
    (refundNext paymentId driverId s refund).1.db.payments.get? paymentId =
        some (p.afterRefund (p.splitRefund refund) s.1.now p) ∧
      driverDebits (refundNext paymentId driverId s refund).1.db.ledger paymentId =
        p.refundedFareAmount + (p.splitRefund refund).fareRefundAmount ∧
      (refundNext paymentId driverId s refund).2 = s.2 + refund := by
  obtain ⟨updated, heval⟩ := markRefunded_eval_of_refundable driverId h.row h.refundable (some refund)
  have hnext : refundNext paymentId driverId s refund =
      (s.1.withRefund paymentId driverId p refund, s.2 + refund) := by
    unfold refundNext
    rw [heval]
    rfl
  rw [hnext]
  refine ⟨?_, ?_, rfl⟩
  · simp [World.withRefund, h.row]
  · have hentries := @driverDebits_refund refund
      (s.1.withPayment paymentId
        (p.afterRefund (p.splitRefund refund) s.1.now)).db.freshId (p.subject paymentId driverId)
      (p.splitRefund refund)
    rw [World.withRefund, withEntries_ledger, withPayment_ledger]
    rw [driverDebits, List.tally_append, ← driverDebits, h.debits]
    exact congrArg (p.refundedFareAmount + ·) hentries

/-- Where a refund leaves a payment. -/
theorem statusAfterRefund_cases (p : Payment) (split : RefundSplit) :
    (p.statusAfterRefund split = .payoutEligible ∧
        (p.refundedWith split).total < p.amountTotal ∧
        (p.refundedWith split).fareRefundAmount < p.fareAmount) ∨
      (p.statusAfterRefund split = .refunded ∧
        (p.amountTotal ≤ (p.refundedWith split).total ∨
          p.fareAmount ≤ (p.refundedWith split).fareRefundAmount)) := by
  unfold Payment.statusAfterRefund
  dsimp only
  split_ifs with hpartial
  · left
    exact ⟨rfl, hpartial.1, by omega⟩
  · right
    refine ⟨rfl, ?_⟩
    omega

end Call

/-! ## Sequences of calls -/

section Sequences

variable {paymentId driverId : ℕ} {s : World × ℤ} {p : Payment}

/-- Nothing more happens to a payment that is refunded in full. -/
theorem addUp_of_refunded (hrow : s.1.db.payments.get? paymentId = some p)
    (hstatus : p.status = .refunded) (hnet : netFareAmount p = 0) (refunds : List ℤ) :
    History.Always (refundNext paymentId driverId) (RefundsAddUp paymentId) s refunds := by
  have haddUp : RefundsAddUp paymentId s := ⟨p, hrow, fun h => absurd hstatus h, fun _ => hnet⟩
  induction refunds generalizing s with
  | nil => exact haddUp
  | cons refund refunds ih =>
    refine ⟨haddUp, ?_⟩
    rw [refundNext_of_refunded hrow hstatus]
    exact ih hrow ⟨p, hrow, fun h => absurd hstatus h, fun _ => hnet⟩

/-- Nor to one that cannot be refunded. -/
theorem addUp_of_refused (hrow : s.1.db.payments.get? paymentId = some p)
    (hstatus : p.status ≠ .refunded) (hrefused : p.status.refundable = false)
    (haddUp : RefundsAddUp paymentId s) (refunds : List ℤ) :
    History.Always (refundNext paymentId driverId) (RefundsAddUp paymentId) s refunds := by
  induction refunds with
  | nil => exact haddUp
  | cons refund refunds ih =>
    refine ⟨haddUp, ?_⟩
    rw [refundNext_of_refused hrow hstatus hrefused]
    exact ih

theorem sum_feeShares_nonneg (p : Payment) (refunds : List ℤ) : 0 ≤ (refunds.map p.feeShare).sum := by
  refine List.sum_nonneg fun share hshare => ?_
  obtain ⟨refund, -, rfl⟩ := List.mem_map.mp hshare
  exact feeShare_nonneg p

/-- The fee's shares are what the refunds exceed the fare's by. -/
theorem sum_feeShares_le (p : Payment) {refunds : List ℤ} (hpos : ∀ refund ∈ refunds, 0 < refund) :
    (refunds.map p.feeShare).sum ≤ refunds.sum := by
  induction refunds with
  | nil => exact le_rfl
  | cons refund refunds ih =>
    have hrest := ih fun r hr => hpos r (List.mem_cons_of_mem _ hr)
    have hadd := splitRefund_add p (hpos refund List.mem_cons_self)
    have hfare := @fareShare_nonneg p refund
    rw [List.map_cons, List.sum_cons, List.sum_cons]
    omega

/-- **The induction**: from a payment whose records add up, they go on to exactly if the fee has room
for its shares of what is to come. -/
theorem partlyRefunded_always_iff {refunds : List ℤ} (h : PartlyRefunded paymentId s p)
    (hpos : ∀ refund ∈ refunds, 0 < refund) (hsum : s.2 + refunds.sum ≤ p.amountTotal) :
    History.Always (refundNext paymentId driverId) (RefundsAddUp paymentId) s refunds ↔
      p.refundedFeeAmount + (refunds.map p.feeShare).sum ≤ p.platformFeeAmount := by
  induction refunds generalizing s p with
  | nil => exact iff_of_true h.addUp (by simpa using h.fee_le)
  | cons refund refunds ih =>
    obtain ⟨hrow, hdebits, htotal⟩ := partlyRefunded_next h driverId refund
    have hrefund := hpos refund List.mem_cons_self
    have hrest : ∀ r ∈ refunds, 0 < r := fun r hr => hpos r (List.mem_cons_of_mem _ hr)
    have hadd := splitRefund_add p hrefund
    have hfareShare := @fareShare_nonneg p refund
    have hshares := sum_feeShares_nonneg p refunds
    have hsharesLe := sum_feeShares_le p hrest
    have hbalanced := p.balanced
    have hdone := h.total
    rw [List.sum_cons] at hsum
    rw [List.map_cons, List.sum_cons]
    set s' := refundNext paymentId driverId s refund with hs'
    set p' := p.afterRefund (p.splitRefund refund) s.1.now p with hp'
    have hfare' : p'.refundedFareAmount =
        min p.fareAmount (p.refundedFareAmount + (p.splitRefund refund).fareRefundAmount) := rfl
    have hfee' : p'.refundedFeeAmount =
        min p.platformFeeAmount (p.refundedFeeAmount + p.feeShare refund) := rfl
    have hstatus' : p'.status = p.statusAfterRefund (p.splitRefund refund) := rfl
    have htotals : (p.refundedWith (p.splitRefund refund)).total = s'.2 := by
      show p.refundedFareAmount + (p.splitRefund refund).fareRefundAmount +
        (p.refundedFeeAmount + p.feeShare refund) = s'.2
      omega
    have hfares : (p.refundedWith (p.splitRefund refund)).fareRefundAmount =
        p.refundedFareAmount + (p.splitRefund refund).fareRefundAmount := rfl
    by_cases hroom : p.refundedFeeAmount + p.feeShare refund ≤ p.platformFeeAmount
    · obtain ⟨hstatus, -, hleft⟩ | ⟨hstatus, hfull⟩ :=
        statusAfterRefund_cases p (p.splitRefund refund)
      · -- the payment is not refunded in full, and its records add up again
        have hnext : PartlyRefunded paymentId s' p' := by
          rw [hfares] at hleft
          refine ⟨hrow, ?_, ?_, ?_, ?_, ?_⟩
          · rw [hstatus', hstatus]
            rfl
          · rw [hfare', hfee', min_eq_right hleft.le, min_eq_right hroom]
            omega
          · exact min_le_left _ _
          · exact min_le_left _ _
          · rw [hdebits, hfare', min_eq_right hleft.le]
        have hiff := ih hnext hrest (by
          show s'.2 + refunds.sum ≤ p.amountTotal
          omega)
        rw [hfee', min_eq_right hroom] at hiff
        refine (and_iff_right h.addUp).trans (hiff.trans ?_)
        rw [← add_assoc]
        exact Iff.rfl
      · -- it is, and the fare is used up
        have hused : p.fareAmount ≤
            p.refundedFareAmount + (p.splitRefund refund).fareRefundAmount := by
          rw [htotals, hfares] at hfull
          omega
        have hnet : netFareAmount p' = 0 := by
          unfold netFareAmount
          rw [hfare', min_eq_left hused]
          exact max_eq_left (sub_nonpos.mpr le_rfl)
        refine iff_of_true ⟨h.addUp, ?_⟩ (by omega)
        exact addUp_of_refunded hrow (hstatus'.trans hstatus) hnet refunds
    · -- the cap of the fee takes away what the fare has not been charged with
      refine iff_of_false (fun halways => ?_) (by omega)
      obtain ⟨q, hq, hpartly, hfull⟩ := halways.2.head
      obtain rfl : p' = q := Option.some.inj (hrow.symm.trans hq)
      have hunder : p.refundedFareAmount + (p.splitRefund refund).fareRefundAmount <
          p.fareAmount := by omega
      rw [hfare', min_eq_right hunder.le, hfee', min_eq_left (not_le.mp hroom).le] at hpartly
      by_cases hrefunded : p'.status = .refunded
      · have hnet := hfull hrefunded
        have hgross : p'.fareAmount = p.fareAmount := rfl
        unfold netFareAmount at hnet
        rw [hgross, hfare', min_eq_right hunder.le] at hnet
        omega
      · obtain ⟨htotal', -⟩ := hpartly hrefunded
        rw [← hs'] at htotal'
        omega

/-- **Partial refunds add up exactly if the fee has room for its shares of them**, each rounded by
itself; where the status of the payment allows no refund, nothing is refunded. -/
theorem partialRefunds_add_up_iff (paymentId driverId : ℕ) (w : World) (p : Payment)
    (hw : w.Unrefunded paymentId p) (refunds : List ℤ) (hpos : ∀ refund ∈ refunds, 0 < refund)
    (hsum : refunds.sum ≤ p.amountTotal) :
    History.Always (refundNext paymentId driverId) (RefundsAddUp paymentId) (w, 0) refunds ↔
      p.status.refundable = false ∨ (refunds.map p.feeShare).sum ≤ p.platformFeeAmount := by
  cases hrefundable : p.status.refundable with
  | false =>
    refine iff_of_true (addUp_of_refused hw.row hw.status hrefundable ?_ refunds) (Or.inl rfl)
    refine ⟨p, hw.row, fun _ => ?_, fun h => absurd h hw.status⟩
    rw [hw.fare, hw.fee]
    exact ⟨rfl, p.fare_nonneg, p.fee_nonneg, hw.debits⟩
  | true =>
    have hpartly : PartlyRefunded paymentId (w, 0) p := by
      refine ⟨hw.row, hrefundable, ?_, ?_, ?_, ?_⟩
      · rw [hw.fare, hw.fee]
        rfl
      · exact hw.fare.trans_le p.fare_nonneg
      · exact hw.fee.trans_le p.fee_nonneg
      · exact hw.debits.trans hw.fare.symm
    rw [partlyRefunded_always_iff hpartly hpos ((zero_add refunds.sum).trans_le hsum), hw.fee,
      zero_add]
    simp

end Sequences

/-! ## A charge of 6.00, fare 4.00 and fee 2.00 -/

section Runs

/-- A charge with a fee of half the fare. -/
private def halfAgain : Payment where
  amountTotal := 600
  fareAmount := 400
  platformFeeAmount := 200
  currency := "EUR"
  balanced := by decide
  fare_nonneg := by decide
  fee_nonneg := by decide
  bookingId := 7
  rideId := 1
  riderId := 5
  status := .heldInEscrow

private def halfAgainWorld : World where
  db := { payments := ⟨[(3, halfAgain)], by simp⟩ }

private theorem unrefunded_halfAgain : halfAgainWorld.Unrefunded 3 halfAgain :=
  ⟨rfl, rfl, rfl, rfl, nofun⟩

/-- A refund of half the charge and one of a quarter take exactly the fee's part from the fee. -/
theorem refunds_of_half_and_quarter_add_up :
    History.Always (refundNext 3 9) (RefundsAddUp 3) (halfAgainWorld, 0) [300, 150] :=
  (partialRefunds_add_up_iff 3 9 halfAgainWorld halfAgain unrefunded_halfAgain [300, 150]
    (by decide) (by decide)).mpr (Or.inr (by decide))

/-- Three refunds of a third: the last one closes the payment with a cent of the fare left. -/
theorem refunds_of_a_third_do_not_add_up :
    ([200, 200, 200] : List ℤ).sum ≤ halfAgain.amountTotal ∧
      ¬ History.Always (refundNext 3 9) (RefundsAddUp 3) (halfAgainWorld, 0) [200, 200, 200] := by
  refine ⟨by decide, fun h => ?_⟩
  obtain ⟨p, hp, -, hfull⟩ := h.last
  have hrow : ((History.after (refundNext 3 9) (halfAgainWorld, 0)
      [200, 200, 200]).1.db.payments.get? 3).map (fun p => (p.status, netFareAmount p)) =
      some (.refunded, 1) := by decide
  rw [hp, Option.map_some, Option.some.injEq, Prod.mk.injEq] at hrow
  have hnet := hfull hrow.1
  rw [hrow.2] at hnet
  cases hnet

end Runs

end Deliivo
