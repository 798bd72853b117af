import Deliivo.Payment.Spec
import Deliivo.Payout.Service

/-!
# The statements that follow a transfer

`settlePayout` runs straight: its two passes over the payments succeed because the selected rows
are eligible and different, so that each pass finds them as the pass before has left them. Only
the pass that records the transfer touches the driver's account.

## Main results

* `markAll_straight`, `recordAll_straight`: one pass
* `settlePayout_straight`: all of them, with the driver's balance before every statement
-/

namespace Deliivo

/-! ## A pass over the payments -/

/-- Two worlds agree outside the payments. -/
structure World.SameButPayments (w x : World) : Prop where
  ledger : x.db.ledger = w.db.ledger
  batches : x.db.payoutBatches = w.db.payoutBatches
  stripe : x.stripe = w.stripe

theorem World.SameButPayments.refl (w : World) : w.SameButPayments w := ⟨rfl, rfl, rfl⟩

theorem World.SameButPayments.trans {w x y : World} (h : w.SameButPayments x)
    (h' : x.SameButPayments y) : w.SameButPayments y :=
  ⟨h'.ledger.trans h.ledger, h'.batches.trans h.batches, h'.stripe.trans h.stripe⟩

theorem sameButPayments_withPayment (w : World) (id : ℕ) (f : Payment → Payment) :
    w.SameButPayments (w.withPayment id f) := ⟨rfl, rfl, rfl⟩

/-- The payments of a list are there, in a status from which `target` is allowed. -/
def World.ReadyFor (w : World) (target : PaymentStatus) (selected : List (ℕ × Payment)) : Prop :=
  ∀ s ∈ selected, ∃ p, w.db.payments.get? s.1 = some p ∧ target ∈ p.status.transitions

/-- One pass of a transition helper over payments that are ready for it: two statements a payment,
and all of them are in the target status afterwards. -/
theorem markAll_straight {target : PaymentStatus} {selected : List (ℕ × Payment)}
    (hnd : (selected.map Prod.fst).Nodup) {w : World} (hready : w.ReadyFor target selected) :
    ∃ l w', Program.Straight world .ok .unavailable (Program.forEach selected fun p => do
        let _ ← markStatus target (fun _ p => p) p.1) w l () w' ∧
      l.length = 2 * selected.length ∧ (∀ x ∈ l, w.SameButPayments x) ∧ w.SameButPayments w' ∧
      ∀ s ∈ selected, ∃ p, w'.db.payments.get? s.1 = some p ∧ p.status = target := by
  -- the pass has more to say than the claim: rows outside the list stay as they are
  suffices h : ∃ l w', Program.Straight world .ok .unavailable (Program.forEach selected fun p => do
        let _ ← markStatus target (fun _ p => p) p.1) w l () w' ∧
      l.length = 2 * selected.length ∧ (∀ x ∈ l, w.SameButPayments x) ∧ w.SameButPayments w' ∧
      (∀ s ∈ selected, ∃ p, w'.db.payments.get? s.1 = some p ∧ p.status = target) ∧
      ∀ id ∉ selected.map Prod.fst, w'.db.payments.get? id = w.db.payments.get? id by
    obtain ⟨l, w', hrun, hlen, hl, hw', hdone, -⟩ := h
    exact ⟨l, w', hrun, hlen, hl, hw', hdone⟩
  induction selected generalizing w with
  | nil => exact ⟨[], w, .ret _ _, rfl, by simp, .refl w, by simp, fun _ _ => rfl⟩
  | cons s selected ih =>
    rw [List.map_cons, List.nodup_cons] at hnd
    obtain ⟨p, hp, ht⟩ := hready s List.mem_cons_self
    have hone := (markStatus_straight hp ht fun _ p => p).bind
      (f := fun _ => Program.ret ()) (.ret () _)
    set w₁ := w.withPayment s.1 fun p => { p with status := target } with hw₁
    have hother : ∀ id, id ≠ s.1 → w₁.db.payments.get? id = w.db.payments.get? id :=
      fun id hid => Table.get?_modify_ne _ _ hid
    have hready₁ : w₁.ReadyFor target selected := by
      intro q hq
      have hne : q.1 ≠ s.1 := fun heq => hnd.1 (heq ▸ List.mem_map_of_mem hq)
      rw [hother _ hne]
      exact hready q (List.mem_cons_of_mem _ hq)
    obtain ⟨l, w', hrun, hlen, hl, hw', hdone, hframe⟩ := ih hnd.2 hready₁
    have hsame : w.SameButPayments w₁ := sameButPayments_withPayment _ _ _
    refine ⟨[w, w] ++ l, w', hone.bind hrun, ?_, ?_, hsame.trans hw', ?_, ?_⟩
    · simp only [List.length_append, List.length_cons, List.length_nil, hlen]
      ring
    · intro x hx
      rcases List.mem_append.mp hx with hx | hx
      · obtain rfl : x = w := by simpa using hx
        exact .refl _
      · exact hsame.trans (hl x hx)
    · intro q hq
      rcases List.mem_cons.mp hq with rfl | hq
      · refine ⟨{ p with status := target }, ?_, rfl⟩
        rw [hframe _ hnd.1, hw₁, withPayment_payments, Table.get?_modify_self, hp]
        rfl
      · exact hdone q hq
    · intro id hid
      rw [List.map_cons, List.mem_cons, not_or] at hid
      rw [hframe id hid.2, hother id hid.1]

/-! ## Before the transfer -/

section Before

variable (w : World) (driverId : ℕ)

theorem payablePayments_readyFor : w.ReadyFor .transferCreated (payablePayments w.db driverId) := by
  intro s hs
  obtain ⟨hp, hP⟩ := Table.mem_filter_iff.mp hs
  simp only [Bool.and_eq_true, beq_iff_eq] at hP
  exact ⟨s.2, hp, by rw [hP.1.1]; decide⟩

theorem selectPayable_straight : (selectPayable driverId).Straight w [w]
    (payablePayments w.db driverId) w :=
  Service.straight_transact rfl

/-- Creating the batch leaves the payments, the ledger and Stripe alone. -/
theorem createPayoutBatch_straight (currency : String) (selected : List (ℕ × Payment)) :
    ∃ batchId w', (createPayoutBatch driverId currency selected).Straight w [w] batchId w' ∧
      w'.stripe = w.stripe ∧ w'.db.ledger = w.db.ledger ∧ w'.db.payments = w.db.payments ∧
      w'.db.users = w.db.users ∧ ∃ b, w'.db.payoutBatches.get? batchId = some b := by
  refine ⟨_, _, Service.straight_transact rfl, rfl, rfl, rfl, rfl, ?_⟩
  have hfresh : w.db.payoutBatches.get? w.db.freshId = none :=
    Table.get?_of_nextKey_le (Db.le_freshId (by simp [Db.idBounds]))
  exact ⟨_, (Table.get?_insert hfresh _ _).trans (if_pos rfl)⟩

/-- A transfer changes Stripe's books only. -/
theorem transferPayout_db (batchId : ℕ) (driver : Option User) (total : ℤ) :
    ((transferPayout driverId batchId driver total).eval w).2.db = w.db := by
  unfold transferPayout
  cases driver.bind User.stripeAccountId with
  | none => rfl
  | some account =>
    by_cases h : 0 < total <;>
      simp [Service.eval, createTransfer, Program.perform, world, Call.exec, Stripe.createTransfer, h]

end Before

/-! ## The pass that records the transfer -/

/-- The net fares of the selected payments. -/
def netFares (selected : List (ℕ × Payment)) : List ℤ := selected.map fun s => netFareAmount s.2

@[simp] theorem netFares_length (selected : List (ℕ × Payment)) :
    (netFares selected).length = selected.length := List.length_map ..

theorem netFares_nonneg {selected : List (ℕ × Payment)} {x : ℤ} (h : x ∈ netFares selected) :
    0 ≤ x := by
  obtain ⟨s, -, rfl⟩ := List.mem_map.mp h
  exact le_max_left _ _

/-- What a payout of the selected payments pays on the payment `p`. -/
def paidOn (selected : List (ℕ × Payment)) (p : ℕ) : ℤ :=
  selected.tally (fun s => s.1 == p) fun s => netFareAmount s.2

/-- The pass that records the transfer: one statement a payment, each debiting the driver. -/
theorem recordAll_straight (driverId : ℕ) (selected : List (ℕ × Payment)) (w : World) :
    ∃ l w', Program.Straight world .ok .unavailable (Program.forEach selected fun p =>
        recordTransfer (p.2.subject p.1 driverId) (netFareAmount p.2)) w l () w' ∧
      l.length = selected.length ∧
      (∀ (j : ℕ) (hj : j < l.length),
        l[j].stripe = w.stripe ∧ l[j].db.payoutBatches = w.db.payoutBatches ∧
        getDriverBalance l[j].db.ledger driverId =
          getDriverBalance w.db.ledger driverId - ((netFares selected).take j).sum) ∧
      w'.stripe = w.stripe ∧ w'.db.payoutBatches = w.db.payoutBatches ∧
      w'.db.payments = w.db.payments ∧
      getDriverBalance w'.db.ledger driverId =
        getDriverBalance w.db.ledger driverId - (netFares selected).sum ∧
      ∀ p, ledgerImbalance w'.db.ledger p = ledgerImbalance w.db.ledger p + paidOn selected p := by
  induction selected generalizing w with
  | nil => exact ⟨[], w, .ret _ _, rfl, fun j hj => absurd hj (Nat.not_lt_zero _), rfl, rfl, rfl,
      by simp [netFares], by simp [paidOn]⟩
  | cons s selected ih =>
    have hone := recordGroup_straight w fun group =>
      transferEntries group (s.2.subject s.1 driverId) (netFareAmount s.2)
    set w₁ := w.withEntries (transferEntries w.db.freshId (s.2.subject s.1 driverId)
      (netFareAmount s.2)) with hw₁
    -- one transfer takes what it pays off the balance of the driver
    have hbal : getDriverBalance w₁.db.ledger driverId =
        getDriverBalance w.db.ledger driverId - netFareAmount s.2 := by
      rw [hw₁, withEntries_ledger, getDriverBalance_append, getDriverBalance_transfer]
      simp only [Payment.subject, if_true]
      ring
    obtain ⟨l, w', hrun, hlen, hl, hs', hb', hp', hbal', himb'⟩ := ih w₁
    refine ⟨w :: l, w', hone.bind hrun, by simp [hlen], fun j hj => ?_, hs', hb', hp', ?_,
      fun p => ?_⟩
    · cases j with
      | zero => exact ⟨rfl, rfl, by simp⟩
      | succ j =>
        obtain ⟨hs, hb, hd⟩ := hl j (by simpa using hj)
        refine ⟨hs, hb, ?_⟩
        rw [List.getElem_cons_succ, hd, hbal]
        simp only [netFares, List.map_cons, List.take_succ_cons, List.sum_cons]
        ring
    · rw [hbal', hbal]
      simp only [netFares, List.map_cons, List.sum_cons]
      ring
    · rw [himb', hw₁, withEntries_ledger, ledgerImbalance_append, ledgerImbalance_transfer]
      simp only [paidOn, List.tally_cons, Payment.subject, beq_iff_eq]
      exact add_assoc _ _ _

/-! ## All statements -/

/-- A world in which a batch exists, Stripe's books are those of `w` and a driver's balance is
`balance`. -/
structure World.AccountAt (w : World) (driverId batchId : ℕ) (balance : ℤ) (x : World) : Prop where
  stripe : x.stripe = w.stripe
  batch : ∃ b, x.db.payoutBatches.get? batchId = some b
  balance : getDriverBalance x.db.ledger driverId = balance

theorem writeBatch_straight {w : World} {batchId : ℕ} {b : PayoutBatch}
    (h : w.db.payoutBatches.get? batchId = some b) (f : PayoutBatch → PayoutBatch) :
    ∃ w', (writeBatch batchId f).Straight w [w] () w' ∧ w'.stripe = w.stripe ∧
      w'.db.ledger = w.db.ledger ∧ w'.db.payments = w.db.payments ∧
      w'.db.payoutBatches.get? batchId = some (f b) := by
  have hrun : (sqlOrThrow (update payoutBatches batchId f)).Straight w [w] (f b) _ :=
    Service.straight_sqlOrThrow (by simp [update, payoutBatches, h])
  refine ⟨_, hrun.bind (.ret () _), rfl, rfl, rfl, ?_⟩
  simp [update, payoutBatches, h]

theorem writeItems_straight (w : World) (batchId : ℕ) (status : PayoutStatus) :
    ∃ w', (writeItems batchId status).Straight w [w] () w' ∧ w'.stripe = w.stripe ∧
      w'.db.ledger = w.db.ledger :=
  ⟨_, (Service.straight_sql _ w).bind (.ret () _), rfl, rfl⟩

/-- **After its transfer a payout runs straight**, in five statements a payment and two for the
batch; before the `j`-th of them the first `j - 2 * n` of the `n` payments have been debited. -/
theorem settlePayout_straight (driverId batchId : ℕ) (transfer : TransferRef)
    {selected : List (ℕ × Payment)} (hnd : (selected.map Prod.fst).Nodup) {w : World}
    (hready : w.ReadyFor .transferCreated selected)
    (hbatch : ∃ b, w.db.payoutBatches.get? batchId = some b) :
    ∃ l w', (settlePayout driverId batchId transfer selected).Straight w l () w' ∧
      l.length = 5 * selected.length + 2 ∧
      (∀ (j : ℕ) (hj : j < l.length), w.AccountAt driverId batchId
        (getDriverBalance w.db.ledger driverId -
          ((netFares selected).take (j - 2 * selected.length)).sum) l[j]) ∧
      w'.stripe = w.stripe ∧
      getDriverBalance w'.db.ledger driverId =
        getDriverBalance w.db.ledger driverId - (netFares selected).sum ∧
      ∀ p, ledgerImbalance w'.db.ledger p = ledgerImbalance w.db.ledger p + paidOn selected p := by
  obtain ⟨b, hb⟩ := hbatch
  obtain ⟨l₁, w₁, hrun₁, hlen₁, hl₁, hw₁, hdone₁⟩ := markAll_straight hnd hready
  obtain ⟨l₂, w₂, hrun₂, hlen₂, hl₂, hs₂, hb₂, hp₂, hbal₂, himb₂⟩ :=
    recordAll_straight driverId selected w₁
  have hbatch₂ : w₂.db.payoutBatches.get? batchId = some b := by rw [hb₂, hw₁.batches, hb]
  obtain ⟨w₃, hrun₃, hs₃, hd₃, hp₃, hb₃⟩ := writeBatch_straight hbatch₂ fun b =>
    { b with status := .completed, stripeTransferId := some transfer }
  have hready₃ : w₃.ReadyFor .payoutCompleted selected := by
    intro s hs
    obtain ⟨p, hp, hst⟩ := hdone₁ s hs
    exact ⟨p, by rw [hp₃, hp₂, hp], by simp [hst, PaymentStatus.transitions]⟩
  obtain ⟨l₄, w₄, hrun₄, hlen₄, hl₄, hw₄, -⟩ := markAll_straight hnd hready₃
  obtain ⟨w₅, hrun₅, hs₅, hd₅⟩ := writeItems_straight w₄ batchId .completed
  -- the balance before each group of statements
  set B := getDriverBalance w.db.ledger driverId
  set m := selected.length
  have hall : ∀ i, m ≤ i → ((netFares selected).take i).sum = (netFares selected).sum := by
    intro i hi
    rw [List.take_of_length_le (by simpa using hi)]
  have hbal₁ : getDriverBalance w₁.db.ledger driverId = B := by rw [hw₁.ledger]
  have hbal₂' : getDriverBalance w₂.db.ledger driverId = B - (netFares selected).sum := by
    rw [hbal₂, hbal₁]
  have hbal₃ : getDriverBalance w₃.db.ledger driverId = B - (netFares selected).sum := by
    rw [hd₃, hbal₂']
  have hstripe₂ : w₂.stripe = w.stripe := hs₂.trans hw₁.stripe
  refine ⟨l₁ ++ (l₂ ++ ([w₂] ++ (l₄ ++ [w₄]))), w₅,
    hrun₁.bind (hrun₂.bind (hrun₃.bind (hrun₄.bind hrun₅))), ?_, ?_, ?_, ?_, fun p => ?_⟩
  · simp only [List.length_append, List.length_singleton, hlen₁, hlen₂, hlen₄]
    omega
  · intro j hj
    rw [List.getElem_append]
    split_ifs with h₁
    · have hx := hl₁ _ (List.getElem_mem h₁)
      refine ⟨hx.stripe, ⟨b, by rw [hx.batches, hb]⟩, ?_⟩
      rw [hx.ledger, show j - 2 * m = 0 by omega]
      simp [B]
    rw [List.getElem_append]
    split_ifs with h₂
    · obtain ⟨hs, hbt, hd⟩ := hl₂ _ h₂
      refine ⟨hs.trans hw₁.stripe, ⟨b, by rw [hbt, hw₁.batches, hb]⟩, ?_⟩
      rw [hd, hbal₁, hlen₁]
    have hlate : m ≤ j - 2 * m := by omega
    rw [hall _ hlate]
    rw [List.getElem_append]
    split_ifs with h₃
    · rw [List.getElem_singleton]
      exact ⟨hstripe₂, ⟨b, hbatch₂⟩, hbal₂'⟩
    rw [List.getElem_append]
    split_ifs with h₄
    · have hx := hl₄ _ (List.getElem_mem h₄)
      exact ⟨hx.stripe.trans (hs₃.trans hstripe₂), ⟨_, by rw [hx.batches, hb₃]⟩,
        by rw [hx.ledger, hbal₃]⟩
    · rw [List.getElem_singleton]
      exact ⟨hw₄.stripe.trans (hs₃.trans hstripe₂), ⟨_, by rw [hw₄.batches, hb₃]⟩,
        by rw [hw₄.ledger, hbal₃]⟩
  · rw [hs₅, hw₄.stripe, hs₃, hstripe₂]
  · rw [hd₅, hw₄.ledger, hbal₃]
  · rw [hd₅, hw₄.ledger, hd₃, himb₂, hw₁.ledger]

end Deliivo
