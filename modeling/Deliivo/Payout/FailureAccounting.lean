import Deliivo.Payout.Settle
import Deliivo.Store.History

/-!
# What a failing payout does to the driver's balance

A payout is exact if it changes the driver's ledger balance by minus what Stripe really
transferred. The catch block compensates every payment of the batch wherever the failure was, so a
failing payout is exact only when nothing is compensated and the ledger had been debited what was
transferred.

Steps are counted from the transfer: step `0` is the transfer, the next `2 * n` move the `n`
payments to `TRANSFER_CREATED`, the next `n` debit the driver.

## Main definitions

* `PayoutExact`: the balance has changed by minus what was transferred
* `reversed`: what the catch block credits under given replies
* `FaultsHarmless`: the exact condition on the replies

## Main results

* `payOut_exact_iff`: the `try` block and its `catch`
* `processDriverPayout_exact_iff`: the whole call
-/

namespace Deliivo

/-- The driver's balance has changed by minus what Stripe has transferred to them. -/
def PayoutExact (driverId : ℕ) (w w' : World) : Prop :=
  getDriverBalance w'.db.ledger driverId =
    getDriverBalance w.db.ledger driverId -
      (w'.stripe.transferredTo driverId - w.stripe.transferredTo driverId)

section Replies

variable (o : ℕ → Reply)

/-- What reversals of the amounts `nets` credit if the first is written at step `k`. -/
def reversalsFrom : ℕ → List ℤ → ℤ
  | _, [] => 0
  | k, x :: nets => (if o k = .ok then x else 0) + reversalsFrom (k + 1) nets

/-- What a catch block that starts at step `k` credits: it first writes the batch and its items. -/
def reversed (k : ℕ) (nets : List ℤ) : ℤ :=
  if o k = .ok ∧ o (k + 1) = .ok then reversalsFrom o (k + 2) nets else 0

/-- The first of the `steps` steps from `k` on that does not take place is the `q`-th. -/
def FirstFault (k steps q : ℕ) : Prop :=
  q < steps ∧ (∀ j < q, o (k + j) = .ok) ∧ o (k + q) ≠ .ok

/-- The exact condition on the replies to a payout of `nets` whose transfer is step `k`: at the
first failure nothing is compensated, and the debits written so far are what was transferred. -/
def FaultsHarmless (k : ℕ) (nets : List ℤ) : Prop :=
  ∀ q, FirstFault o k (5 * nets.length + 3) q →
    reversed o (k + q + 1) nets = 0 ∧
      (nets.take (q - (2 * nets.length + 1))).sum =
        if q = 0 ∧ o k = .refused then 0 else nets.sum

variable {o} {k : ℕ} {nets : List ℤ}

theorem reversalsFrom_nonneg (h : ∀ x ∈ nets, 0 ≤ x) (k : ℕ) : 0 ≤ reversalsFrom o k nets := by
  induction nets generalizing k with
  | nil => exact le_rfl
  | cons x nets ih =>
    have hx := h x List.mem_cons_self
    have hrest := ih (fun y hy => h y (List.mem_cons_of_mem _ hy)) (k + 1)
    unfold reversalsFrom
    split_ifs <;> omega

theorem reversed_nonneg (h : ∀ x ∈ nets, 0 ≤ x) (k : ℕ) : 0 ≤ reversed o k nets := by
  unfold reversed
  split_ifs
  · exact reversalsFrom_nonneg h _
  · exact le_rfl

theorem reversalsFrom_eq_zero (h : ∀ x ∈ nets, x = 0) (k : ℕ) : reversalsFrom o k nets = 0 := by
  induction nets generalizing k with
  | nil => rfl
  | cons x nets ih =>
    unfold reversalsFrom
    rw [h x List.mem_cons_self, ih fun y hy => h y (List.mem_cons_of_mem _ hy)]
    simp

theorem reversed_eq_zero (h : ∀ x ∈ nets, x = 0) (k : ℕ) : reversed o k nets = 0 := by
  unfold reversed
  split_ifs
  · exact reversalsFrom_eq_zero h _
  · rfl

/-- Either all of some steps take place or one is the first that does not. -/
theorem firstFault_or (k steps : ℕ) :
    (∀ j < steps, o (k + j) = .ok) ∨ ∃ q, FirstFault o k steps q := by
  induction steps with
  | zero => exact Or.inl fun j hj => absurd hj (Nat.not_lt_zero _)
  | succ steps ih =>
    rcases ih with hall | ⟨q, hq, hbefore, hbad⟩
    · by_cases h : o (k + steps) = .ok
      · refine Or.inl fun j hj => ?_
        rcases Nat.lt_succ_iff_lt_or_eq.mp hj with hj | rfl
        · exact hall j hj
        · exact h
      · exact Or.inr ⟨steps, Nat.lt_succ_self _, hall, h⟩
    · exact Or.inr ⟨q, hq.trans (Nat.lt_succ_self _), hbefore, hbad⟩

theorem FirstFault.unique {steps q q' : ℕ} (h : FirstFault o k steps q)
    (h' : FirstFault o k steps q') : q = q' := by
  rcases lt_trichotomy q q' with hlt | heq | hlt
  · exact absurd (h'.2.1 q hlt) h.2.2
  · exact heq
  · exact absurd (h.2.1 q' hlt) h'.2.2

/-- The condition is about the first failure, if there is one. -/
theorem faultsHarmless_iff {q : ℕ} (h : FirstFault o k (5 * nets.length + 3) q) :
    FaultsHarmless o k nets ↔
      reversed o (k + q + 1) nets = 0 ∧
        (nets.take (q - (2 * nets.length + 1))).sum =
          if q = 0 ∧ o k = .refused then 0 else nets.sum :=
  ⟨fun hh => hh q h, fun hh _ hq' => h.unique hq' ▸ hh⟩

theorem sum_take_le (h : ∀ x ∈ nets, 0 ≤ x) (i : ℕ) : (nets.take i).sum ≤ nets.sum := by
  have hsplit : (nets.take i).sum + (nets.drop i).sum = nets.sum := by
    rw [← List.sum_append, List.take_append_drop]
  have hdrop : 0 ≤ (nets.drop i).sum :=
    List.sum_nonneg fun x hx => h x (List.mem_of_mem_drop hx)
  omega

/-- Amounts that are not negative and sum to nothing are all nothing. -/
theorem eq_zero_of_sum_nonpos (h : ∀ x ∈ nets, 0 ≤ x) (hs : nets.sum ≤ 0) :
    ∀ x ∈ nets, x = 0 := by
  intro x hx
  have hle : x ≤ nets.sum := List.single_le_sum h x hx
  have := h x hx
  omega

end Replies

/-! ## The catch block -/

section Catch

variable (o : ℕ → Reply) (driverId batchId : ℕ)

/-- A reversal credits the driver if it is written; otherwise it is logged and has no effect. -/
theorem reverse_run (s : ℕ × Payment) (k : ℕ) (w : World) :
    ∃ w', (Program.tryCatch
          (recordPayoutFailureReversal (s.2.subject s.1 driverId) (netFareAmount s.2))
          fun _ => Program.ret ()).run world o k w = (.ok (), k + 1, w') ∧
      w'.stripe = w.stripe ∧
      getDriverBalance w'.db.ledger driverId =
        getDriverBalance w.db.ledger driverId + if o k = .ok then netFareAmount s.2 else 0 := by
  have hrun := recordGroup_straight w fun group =>
    payoutFailureReversalEntries group (s.2.subject s.1 driverId) (netFareAmount s.2)
  rw [Program.run_tryCatch, recordPayoutFailureReversal]
  by_cases h : o k = .ok
  · rw [hrun.run_single_ok h]
    refine ⟨_, rfl, rfl, ?_⟩
    rw [withEntries_ledger, getDriverBalance_append, getDriverBalance_payoutFailureReversal, if_pos h]
    simp [Payment.subject]
  · rw [hrun.run_single_fault h]
    exact ⟨w, rfl, rfl, by simp [h]⟩

theorem reverseAll_run (selected : List (ℕ × Payment)) (k : ℕ) (w : World) :
    ∃ w', (Program.forEach selected fun p => Program.tryCatch
          (recordPayoutFailureReversal (p.2.subject p.1 driverId) (netFareAmount p.2))
          fun _ => Program.ret ()).run world o k w = (.ok (), k + selected.length, w') ∧
      w'.stripe = w.stripe ∧
      getDriverBalance w'.db.ledger driverId =
        getDriverBalance w.db.ledger driverId + reversalsFrom o k (netFares selected) := by
  induction selected generalizing k w with
  | nil => exact ⟨w, rfl, rfl, by simp [netFares, reversalsFrom]⟩
  | cons s selected ih =>
    obtain ⟨w₁, hrun₁, hs₁, hb₁⟩ := reverse_run o driverId s k w
    obtain ⟨w', hrun, hs, hb⟩ := ih (k + 1) w₁
    refine ⟨w', ?_, hs.trans hs₁, ?_⟩
    · rw [Program.forEach_cons, Program.run_bind, hrun₁, Program.resume_ok, hrun,
        List.length_cons, Nat.add_right_comm, Nat.add_assoc]
    · rw [hb, hb₁]
      simp only [netFares, List.map_cons, reversalsFrom]
      ring

/-- The catch block credits the driver what its replies let it reverse, and moves no money. -/
theorem failPayout_run (selected : List (ℕ × Payment)) (reason : Err) (k : ℕ) {w : World}
    (hbatch : ∃ b, w.db.payoutBatches.get? batchId = some b) :
    ∃ w', ((failPayout driverId batchId selected reason).run world o k w).2.2 = w' ∧
      w'.stripe = w.stripe ∧
      getDriverBalance w'.db.ledger driverId =
        getDriverBalance w.db.ledger driverId + reversed o k (netFares selected) := by
  obtain ⟨b, hb⟩ := hbatch
  obtain ⟨w₁, hrun₁, hs₁, hd₁, -, -⟩ := writeBatch_straight hb fun b => { b with status := .failed }
  obtain ⟨w₂, hrun₂, hs₂, hd₂⟩ := writeItems_straight w₁ batchId .failed
  have htwo := hrun₁.bind (f := fun _ => writeItems batchId .failed) hrun₂
  unfold failPayout
  simp only [Program.bind_eq]
  rw [← Program.bind_assoc, Program.run_bind]
  by_cases h : o k = .ok ∧ o (k + 1) = .ok
  · have hok : ∀ j < ([w] ++ [w₁]).length, o (k + j) = .ok := by
      intro j hj
      rcases Nat.lt_succ_iff_lt_or_eq.mp hj with hj | rfl
      · obtain rfl : j = 0 := by simpa using hj
        exact h.1
      · exact h.2
    obtain ⟨w₃, hrun₃, hs₃, hb₃⟩ := reverseAll_run o driverId selected (k + 2) w₂
    rw [htwo.run_ok hok, Program.resume_ok, Program.run_bind]
    refine ⟨w₃, ?_, hs₃.trans (hs₂.trans hs₁), ?_⟩
    · exact congrArg (fun r => (Program.resume world o _ r).2.2) hrun₃
    · rw [hb₃, hd₂, hd₁, reversed, if_pos h]
  · -- one of the two writes fails, and nothing is reversed
    have hfault : ∃ j, j < 2 ∧ (∀ i < j, o (k + i) = .ok) ∧ o (k + j) ≠ .ok := by
      by_cases h0 : o k = .ok
      · exact ⟨1, by omega, fun i hi => by
          obtain rfl : i = 0 := by omega
          exact h0, fun h1 => h ⟨h0, h1⟩⟩
      · exact ⟨0, by omega, by simp, h0⟩
    obtain ⟨j, hj, hbefore, hbad⟩ := hfault
    rw [htwo.run_fault (j := j) (by simpa using hj) hbefore hbad, reversed, if_neg h, add_zero]
    refine ⟨_, rfl, ?_⟩
    obtain rfl | rfl : j = 0 ∨ j = 1 := by omega
    · exact ⟨rfl, rfl⟩
    · exact ⟨hs₁, congrArg (getDriverBalance · driverId) hd₁⟩

end Catch

/-! ## The transfer -/

section Transfer

variable (o : ℕ → Reply) (k : ℕ) (w : World) (transfer : Transfer)

/-- The world once Stripe has made a transfer. -/
def World.withTransfer : World :=
  { w with stripe := { w.stripe with
    transfers := w.stripe.transfers.insert w.stripe.transfers.nextKey transfer } }

theorem transferredTo_withTransfer :
    (w.withTransfer transfer).stripe.transferredTo transfer.driverId =
      w.stripe.transferredTo transfer.driverId + transfer.amount := by
  simp [Stripe.transferredTo, World.withTransfer]

theorem createTransfer_run_ok (ho : o k = .ok) (hpos : 0 < transfer.amount) :
    (createTransfer transfer).run world o k w =
      (.ok w.stripe.transfers.nextKey, k + 1, w.withTransfer transfer) := by
  simp [createTransfer, Program.perform, world, Call.exec, ho, Stripe.createTransfer, hpos,
    World.withTransfer]

theorem createTransfer_run_lost (ho : o k = .lost) (hpos : 0 < transfer.amount) :
    (createTransfer transfer).run world o k w =
      (.error .unavailable, k + 1, w.withTransfer transfer) := by
  simp [createTransfer, Program.perform, world, Call.exec, ho, Stripe.createTransfer, hpos,
    World.withTransfer]

/-- A transfer that the environment or Stripe refuses moves nothing. -/
theorem createTransfer_run_refused (h : o k = .refused ∨ transfer.amount ≤ 0) :
    ∃ e, (createTransfer transfer).run world o k w = (.error e, k + 1, w) := by
  by_cases hr : o k = .refused
  · exact ⟨.unavailable, by simp [createTransfer, Program.perform, world, Call.exec, hr]⟩
  · have hle : ¬ 0 < transfer.amount := not_lt.mpr (h.resolve_left hr)
    refine ⟨if o k = .ok then .stripe else .stripe, ?_⟩
    cases ho : o k with
    | refused => exact absurd ho hr
    | ok | lost =>
      simp [createTransfer, Program.perform, world, Call.exec, ho, Stripe.createTransfer, hle]

end Transfer

/-! ## The `try` block and its `catch` -/

section PayOut

variable (o : ℕ → Reply) (k : ℕ) (driverId batchId account : ℕ)

/-- **The part of a payout that moves money is exact if and only if its failures are harmless.** -/
theorem payOut_exact_iff {driver : Option User} (haccount : driver.bind User.stripeAccountId =
    some account) {selected : List (ℕ × Payment)} (hnd : (selected.map Prod.fst).Nodup) {w : World}
    (hready : w.ReadyFor .transferCreated selected)
    (hbatch : ∃ b, w.db.payoutBatches.get? batchId = some b) :
    PayoutExact driverId w ((payOut driverId batchId driver selected).run world o k w).2.2 ↔
      FaultsHarmless o k (netFares selected) := by
  set nets := netFares selected with hnets
  have hlen : nets.length = selected.length := netFares_length selected
  have hnonneg : ∀ x ∈ nets, 0 ≤ x := fun x hx => netFares_nonneg hx
  set B := getDriverBalance w.db.ledger driverId with hB
  set transfer : Transfer :=
    { amount := nets.sum, destination := account, payoutBatchId := batchId, driverId } with htransfer
  have hrun : (payOut driverId batchId driver selected).run world o k w =
      Program.recover world o (failPayout driverId batchId selected)
        (Program.resume world o (fun id => (settlePayout driverId batchId (.stripe id) selected).bind
            fun _ => .ret (.completed batchId (.stripe id) nets.sum))
          ((createTransfer transfer).run world o k w)) := by
    unfold payOut transferPayout
    rw [haccount, Program.run_tryCatch]
    simp only [Program.bind_eq]
    rw [Program.run_bind]
    rfl
  rw [hrun]
  by_cases href : o k = .refused ∨ nets.sum ≤ 0
  · -- no transfer: the catch block starts in the world before it
    obtain ⟨e, htr⟩ := createTransfer_run_refused o k w transfer href
    obtain ⟨w', hfail, hs', hb'⟩ := failPayout_run o driverId batchId selected e (k + 1) hbatch
    rw [← hnets] at hb'
    rw [htr, Program.resume_error, Program.recover_error, hfail, PayoutExact, hs', hb']
    by_cases hr : o k = .refused
    · have hfirst : FirstFault o k (5 * nets.length + 3) 0 := ⟨by omega, by simp, by simp [hr]⟩
      rw [faultsHarmless_iff hfirst]
      simp only [Nat.add_zero, Nat.zero_sub, List.take_zero, List.sum_nil, hr, if_true, and_true]
      constructor <;> intro h <;> omega
    · have hzero := eq_zero_of_sum_nonpos hnonneg (href.resolve_left hr)
      have hsum : nets.sum = 0 := List.sum_eq_zero hzero
      refine iff_of_true ?_ fun q _ => ⟨reversed_eq_zero hzero _, ?_⟩
      · rw [reversed_eq_zero hzero]
        ring
      · rw [List.sum_eq_zero fun x hx => hzero x (List.mem_of_mem_take hx), hsum, ite_self]
  obtain ⟨hr, hpos⟩ := not_or.mp href
  rw [not_le] at hpos
  have hmoved : (w.withTransfer transfer).stripe.transferredTo driverId =
    w.stripe.transferredTo driverId + nets.sum := transferredTo_withTransfer w transfer
  have hB₁ : getDriverBalance (w.withTransfer transfer).db.ledger driverId = B := rfl
  cases ho : o k with
  | refused => exact absurd ho hr
  | lost =>
    -- the money is gone, and the catch block credits the driver on top of it
    obtain ⟨w', hfail, hs', hb'⟩ := failPayout_run o driverId batchId selected .unavailable (k + 1)
      (w := w.withTransfer transfer) hbatch
    have hfirst : FirstFault o k (5 * nets.length + 3) 0 := ⟨by omega, by simp, by simp [ho]⟩
    have hrev := reversed_nonneg (o := o) hnonneg (k + 1)
    rw [← hnets, hB₁] at hb'
    rw [createTransfer_run_lost o k w transfer ho hpos, Program.resume_error,
      Program.recover_error, hfail, PayoutExact, hs', hb', hmoved, faultsHarmless_iff hfirst]
    refine iff_of_false (fun h => by omega) fun h => ?_
    have hdebits := h.2
    simp only [Nat.zero_sub, List.take_zero, List.sum_nil, ho, reduceCtorEq, and_false,
      if_false] at hdebits
    omega
  | ok =>
    obtain ⟨l, w', hsettle, hl, hat, hs', hb', -⟩ := settlePayout_straight driverId batchId
      (.stripe w.stripe.transfers.nextKey) hnd (w := w.withTransfer transfer) hready hbatch
    have hfull := hsettle.bind (f := fun _ => Program.ret (PayoutResult.completed batchId
      (.stripe w.stripe.transfers.nextKey) nets.sum)) (.ret _ _)
    rw [List.append_nil] at hfull
    rw [← hnets, hB₁] at hb'
    rw [createTransfer_run_ok o k w transfer ho hpos, Program.resume_ok]
    rcases firstFault_or (o := o) (k + 1) l.length with hall | ⟨q, hq, hbefore, hbad⟩
    · rw [hfull.run_ok hall, Program.recover_ok, PayoutExact]
      refine iff_of_true ?_ fun q hq => absurd ?_ hq.2.2
      · rw [hb', hs', hmoved]
        omega
      · cases q with
        | zero => exact ho
        | succ q =>
          rw [← Nat.add_assoc, Nat.add_right_comm]
          exact hall q (by have := hq.1; omega)
    · have hfirst : FirstFault o k (5 * nets.length + 3) (q + 1) := by
        refine ⟨by omega, fun j hj => ?_, ?_⟩
        · cases j with
          | zero => exact ho
          | succ j =>
            rw [← Nat.add_assoc, Nat.add_right_comm]
            exact hbefore j (Nat.lt_of_succ_lt_succ hj)
        · rwa [← Nat.add_assoc, Nat.add_right_comm]
      have hx := hat q hq
      obtain ⟨w'', hfail, hs'', hb''⟩ := failPayout_run o driverId batchId selected .unavailable
        (k + 1 + q + 1) hx.batch
      rw [← hnets, hx.balance, hB₁, ← hnets, ← hlen] at hb''
      have htake := sum_take_le hnonneg (q - 2 * nets.length)
      have hrev := reversed_nonneg (o := o) hnonneg (k + 1 + q + 1)
      rw [hfull.run_fault hq hbefore hbad, Program.recover_error, hfail, PayoutExact, hs'', hb'',
        hx.stripe, hmoved, faultsHarmless_iff hfirst, show k + (q + 1) + 1 = k + 1 + q + 1 by omega,
        show q + 1 - (2 * nets.length + 1) = q - 2 * nets.length by omega,
        if_neg fun h => Nat.succ_ne_zero q h.1]
      constructor <;> intro h <;> omega

end PayOut

/-! ## The whole call -/

section Whole

variable (o : ℕ → Reply) (n : ℕ) (w : World) (driverId : ℕ)

/-- The steps before the transfer take place, there is something to pay, and the driver can be
paid. -/
def ReachesTransfer : Prop :=
  (∀ j < 4, o (n + j) = .ok) ∧ payablePayments w.db driverId ≠ [] ∧
    ∃ user, w.db.users.get? driverId = some user ∧ user.stripeAccountId.isSome = true ∧
      user.stripeOnboardingComplete = true

/-- The exact condition on a call whose first step meets the reply `o n`. -/
def PayoutFaultsHarmless : Prop :=
  ReachesTransfer o n w driverId →
    FaultsHarmless o (n + 4) (netFares (payablePayments w.db driverId))

theorem payoutExact_refl : PayoutExact driverId w w := by
  simp [PayoutExact]

/-- **A payout is exact if and only if its failures are harmless.** -/
theorem processDriverPayout_exact_iff :
    PayoutExact driverId w ((processDriverPayout false driverId).run world o n w).2.2 ↔
      PayoutFaultsHarmless o n w driverId := by
  set selected := payablePayments w.db driverId with hselected
  unfold processDriverPayout
  simp only [Program.bind_eq]
  rw [Program.run_bind]
  have hexact := payoutExact_refl w driverId
  have hselect := selectPayable_straight w driverId
  by_cases h0 : o n = .ok
  swap
  · rw [hselect.run_single_fault h0]
    exact iff_of_true hexact fun h => absurd (h.1 0 (by omega)) h0
  rw [hselect.run_single_ok h0, Program.resume_ok, ← hselected]
  cases hsel : selected with
  | nil => exact iff_of_true hexact fun h => absurd (hselected.symm.trans hsel) h.2.1
  | cons first rest =>
    simp only [Bool.false_eq_true, if_false]
    rw [← hsel]
    unfold payoutSelected
    simp only [Program.bind_eq]
    have huser := Service.straight_findUnique users driverId w
    rw [Program.run_bind]
    by_cases h1 : o (n + 1) = .ok
    swap
    · rw [huser.run_single_fault h1]
      exact iff_of_true hexact fun h => absurd (h.1 1 (by omega)) h1
    rw [huser.run_single_ok h1, Program.resume_ok]
    -- the two refusals before the batch exists
    have hno : ¬ (∃ user, w.db.users.get? driverId = some user ∧
        user.stripeAccountId.isSome = true ∧ user.stripeOnboardingComplete = true) →
        PayoutFaultsHarmless o n w driverId := fun h hr => absurd hr.2.2 h
    rw [show (users.get w.db).get? driverId = w.db.users.get? driverId from rfl]
    cases huser' : w.db.users.get? driverId with
    | none => exact iff_of_true hexact (hno (by simp [huser']))
    | some user =>
      cases haccount : user.stripeAccountId with
      | none =>
        simp only [Option.bind_some, haccount]
        exact iff_of_true hexact (hno (by simp [huser', haccount]))
      | some account =>
        simp only [Option.bind_some, haccount, Option.any_some]
        by_cases hon : user.stripeOnboardingComplete = true
        swap
        · rw [if_neg hon]
          exact iff_of_true hexact (hno (by simp [huser', hon]))
        rw [if_pos hon, Program.run_bind]
        obtain ⟨batchId, w₁, hbatch, hs₁, hd₁, hp₁, hu₁, hb₁⟩ :=
          createPayoutBatch_straight w driverId first.2.currency selected
        by_cases h2 : o (n + 1 + 1) = .ok
        swap
        · rw [hbatch.run_single_fault h2]
          exact iff_of_true hexact fun h => absurd (h.1 2 (by omega)) h2
        rw [hbatch.run_single_ok h2, Program.resume_ok, Program.run_bind]
        have huser₁ := Service.straight_findUnique users driverId w₁
        have hexact₁ : ∀ x, PayoutExact driverId w₁ x ↔ PayoutExact driverId w x := by
          intro x
          rw [PayoutExact, PayoutExact, hs₁, hd₁]
        by_cases h3 : o (n + 1 + 1 + 1) = .ok
        swap
        · rw [huser₁.run_single_fault h3]
          exact iff_of_true ((hexact₁ _).mp (payoutExact_refl w₁ driverId))
            fun h => absurd (h.1 3 (by omega)) h3
        rw [huser₁.run_single_ok h3, Program.resume_ok, ← hexact₁]
        have hready : w₁.ReadyFor .transferCreated selected := by
          intro s hs
          rw [hp₁]
          exact payablePayments_readyFor w driverId s hs
        have hfound : ((users.get w₁.db).get? driverId).bind User.stripeAccountId =
            some account := by
          show (w₁.db.users.get? driverId).bind _ = _
          rw [hu₁, huser', Option.bind_some, haccount]
        have hreach : ReachesTransfer o n w driverId := by
          refine ⟨fun j hj => ?_, by simp [← hselected, hsel], user, huser', by simp [haccount], hon⟩
          interval_cases j <;> assumption
        rw [PayoutFaultsHarmless, forall_prop_of_true hreach]
        exact payOut_exact_iff o (n + 4) driverId batchId account hfound
          (Table.nodup_filter _ _) hready hb₁

end Whole

/-! ## Calls and retries -/

section Retries

open History

/-- The world after a payout call that meets the replies `o`. -/
def payoutStep (driverId : ℕ) (w : World) (o : ℕ → Reply) : World :=
  ((processDriverPayout false driverId).run world o 0 w).2.2

/-- **Over any sequence of payout calls, the driver's balance has at every point changed by minus
what was transferred exactly when the failures of every call are harmless.** -/
theorem payouts_exact_iff (driverId : ℕ) (w : World) (calls : List (ℕ → Reply)) :
    Always (payoutStep driverId) (PayoutExact driverId w) w calls ↔
      Each (payoutStep driverId) (fun w o => PayoutFaultsHarmless o 0 w driverId) w calls := by
  refine always_iff_each (I := fun _ => True) (fun _ _ _ => trivial) (fun x o _ hx => ?_) trivial
    (payoutExact_refl w driverId) calls
  rw [← processDriverPayout_exact_iff, ← payoutStep]
  unfold PayoutExact at *
  omega

/-! ### A driver owed 10.00, and a transfer that is refused -/

/-- A world in which the sample payment is eligible and its driver can be paid. -/
def eligibleWorld : World where
  db := {
    rides := .single 0 sampleRide
    bookings := .single 0 sampleBooking
    payments := .single 0 { samplePayment with status := .payoutEligible }
    users := .single 7 { stripeAccountId := some 0, stripeOnboardingComplete := true }
    ledger := paymentReceivedEntries 0 (samplePayment.subject 0 7) 1020 1000 20 }

/-- Nothing is transferred, and yet the driver's balance rises from 10.00 to 20.00. -/
theorem refused_transfer_credits_driver :
    let w := payoutStep 7 eligibleWorld fun k => if k = 4 then .refused else .ok
    w.stripe.transferredTo 7 = 0 ∧ getDriverBalance eligibleWorld.db.ledger 7 = 1000 ∧
      getDriverBalance w.db.ledger 7 = 2000 ∧ ¬ PayoutExact 7 eligibleWorld w := by
  unfold PayoutExact
  decide

end Retries

end Deliivo
