import Deliivo.Dispute.Settlement
import Deliivo.Domain.Pool
import Deliivo.Domain.Preserves
import Deliivo.Payment.Frame
import Deliivo.Payment.Spec
import Deliivo.Program.Confined
import Deliivo.Reconciliation.Hourly
import Deliivo.Trip.Completion

/-!
# Changes of a payment's status and the transition table

`PAYMENT_TRANSITIONS` is checked by the payment helpers only, each of which reads the row first and
writes it in a second statement. The other writers decide on a row that they have read and check
nothing; all of them but the settlement of disputes write a status that the table allows from the
one they have read.

**Every change of a status follows the table** along every interleaving in which the writers find a
payment in the status they have read, and settlements find it in one from which the table leads to
what they write (`status_changes_follow_table`).

## Main definitions

* `FollowsTable`: what a step may do to the statuses
* `StatusOp`, `statusPool`: the calls, next to each other
* `StatusStep`: the condition on their steps

## Main results

* `statusCall_writePayment`: what a write of a payment does, and how it is reported
* `opsConfined_status`: every step of the calls changes no status or reports what it has written
* `status_changes_follow_table`
-/

namespace Deliivo

open Program (Logged Pool Move)

/-! ## The table -/

/-- From `d` to `d'` every payment stays in its status or moves along the table. -/
def FollowsTable (d d' : Db) : Prop :=
  ∀ id p, d.payments.get? id = some p → ∃ p', d'.payments.get? id = some p' ∧
    (p'.status = p.status ∨ p'.status ∈ p.status.transitions)

/-- Where a settlement is to find a payment that it writes into status `written`. -/
def settledFrom : PaymentStatus → List PaymentStatus
  | .refundPending => [.paid, .heldInEscrow, .payoutEligible]
  | .refunded => [.refundPending]
  | .payoutEligible => [.heldInEscrow, .transferCreated, .refundPending]
  | _ => []

theorem mem_transitions_of_mem_settledFrom {current written : PaymentStatus}
    (h : current ∈ settledFrom written) : written ∈ current.transitions := by
  cases written <;> simp only [settledFrom, List.mem_cons, List.not_mem_nil, or_false] at h
  · rcases h with rfl | rfl | rfl <;> decide
  · rcases h with rfl | rfl | rfl <;> decide
  · rcases h with rfl
    decide

/-! ## The calls -/

/-- The calls that run next to each other. -/
inductive StatusOp
  | markPaymentPaid (paymentId driverId : ℕ)
  | markHeldInEscrow (paymentId : ℕ)
  | markPayoutEligible (paymentId : ℕ)
  | markRefunded (paymentId driverId : ℕ) (refundAmount : Option ℤ)
  | markTransferCreated (paymentId : ℕ)
  | markPayoutCompleted (paymentId : ℕ)
  | checkAndMarkEligible (delayMs : ℕ)
  | processDriverPayout (mockMode : Bool) (driverId : ℕ)
  | reconcile (recent : ℕ → Bool)
  | adminForceComplete (bookingId : ℕ)
  | settleDispute (input : SettlementInput)

def StatusOp.program : StatusOp → Service Unit
  | .markPaymentPaid paymentId driverId => do let _ ← Deliivo.markPaymentPaid paymentId driverId
  | .markHeldInEscrow paymentId => do let _ ← Deliivo.markHeldInEscrow paymentId
  | .markPayoutEligible paymentId => do let _ ← Deliivo.markPayoutEligible paymentId
  | .markRefunded paymentId driverId refundAmount => do
    let _ ← Deliivo.markRefunded paymentId driverId refundAmount
  | .markTransferCreated paymentId => do let _ ← Deliivo.markTransferCreated paymentId
  | .markPayoutCompleted paymentId => do let _ ← Deliivo.markPayoutCompleted paymentId
  | .checkAndMarkEligible delayMs => Deliivo.checkAndMarkEligible delayMs
  | .processDriverPayout mockMode driverId => do
    let _ ← Deliivo.processDriverPayout mockMode driverId
  | .reconcile recent => do let _ ← runHourlyReconciliation recent
  | .adminForceComplete bookingId => adminForceCompleteBooking bookingId
  | .settleDispute input => Deliivo.settleDispute input

/-- Whether the call is a settlement, which checks no transition. -/
def StatusOp.settles : StatusOp → Bool
  | .settleDispute _ => true
  | _ => false

/-- Anything else that goes on: all of the world but the payments. -/
def besidesPayments (w' w : World) : World :=
  { w' with db := { w'.db with payments := w.db.payments } }

/-- The calls, next to each other. -/
abbrev statusPool := servicePool StatusOp.program besidesPayments

/-- The condition on the steps: a write finds the payment in the status that its call last read, and
a write of a settlement finds it in the status that it writes or in one from which the table leads
there. -/
def StatusStep (op : StatusOp) (_tid : ℕ) (x : LoggedWorld) (_reply : Reply)
    (events : List Event) : Prop :=
  ∀ id read written p, .paymentWritten id read written ∈ events →
    x.state.db.payments.get? id = some p →
    if op.settles then p.status = written ∨ p.status ∈ settledFrom written else p.status = read

/-! ## Single steps -/

section Steps

/-- What a step may do that writes no payment. -/
abbrev paymentsFrame : Frame := .ofDb Db.payments

/-- A step keeps the statuses, or reports what it has written: by a settlement, or along the table
from the status that was read. -/
def StatusCall (op : StatusOp) {β : Type} (c : Call β) : Prop :=
  ∀ i w id p, w.db.payments.get? id = some p →
    ∃ p', (c.exec i w).2.2.db.payments.get? id = some p' ∧
      (p'.status = p.status ∨ ∃ read, .paymentWritten id read p'.status ∈ (c.exec i w).2.1 ∧
        (op.settles = true ∨ p'.status ∈ read.transitions))

variable {op : StatusOp} {α : Type}

theorem statusCall_of_leaves {β : Type} {c : Call β} (h : c.Leaves paymentsFrame) :
    StatusCall op c := by
  intro i w id p hp
  refine ⟨p, ?_, Or.inl rfl⟩
  have hsame : (c.exec i w).2.2.db.payments = w.db.payments := (h.exec i w).1
  rw [hsame]
  exact hp

theorem statusIssues_of_leaves {p : Service α} (h : p.Leaves paymentsFrame) :
    p.Issues fun {_} c => StatusCall op c :=
  h.mono fun _ hc => statusCall_of_leaves hc

/-- **A write of a payment** changes the status of that payment only, and reports it. -/
theorem statusCall_writePayment {paymentId : ℕ} {read : PaymentStatus}
    {f : Ctx → Payment → Payment}
    (hf : op.settles = true ∨ ∀ ctx p, (f ctx p).status ∈ read.transitions) :
    (writePayment paymentId read f).Issues fun {_} c => StatusCall op c := by
  refine (Program.issues_perform _).mpr ?_
  intro i w id p hp
  cases i with
  | refused | lost => exact ⟨p, hp, Or.inl rfl⟩
  | ok =>
    simp only [Call.exec]
    cases hbody : Tx.atomic (Program.perform (update payments paymentId
        (f ⟨w.now, w.db.freshId⟩))) w.db with
    | error e => exact ⟨p, hp, Or.inl rfl⟩
    | ok r =>
      obtain ⟨written, d'⟩ := r
      obtain ⟨row, hrow, rfl, rfl⟩ := Service.atomic_update hbody
      show ∃ p', (w.db.payments.modify paymentId _).get? id = some p' ∧ _
      rw [Table.get?_modify]
      split_ifs with hid
      · subst hid
        obtain rfl : row = p := Option.some.inj (hrow.symm.trans hp)
        refine ⟨f ⟨w.now, w.db.freshId⟩ row, by rw [hp]; rfl, Or.inr ⟨read, ?_, ?_⟩⟩
        · exact List.mem_cons_self
        · exact hf.imp_right fun h => h _ _
      · exact ⟨p, hp, Or.inl rfl⟩

/-! ### The payment helpers -/

theorem status_markStatus {target : PaymentStatus} {f : Ctx → Payment → Payment}
    (paymentId : ℕ) :
    (markStatus target f paymentId).Issues fun {_} c => StatusCall op c := by
  refine (statusIssues_of_leaves (leaves_sqlOrThrow (leaves_findUniqueOrThrow _))).bind
    fun payment => ?_
  by_cases ht : target ∈ payment.status.transitions
  · rw [assertTransition_of_mem ht]
    exact statusCall_writePayment (Or.inr fun _ _ => ht)
  · rw [assertTransition_of_notMem ht]
    trivial

theorem leaves_recordGroup (entries : ℕ → List LedgerEntry) :
    (recordGroup entries).Leaves paymentsFrame :=
  LedgerApart.recordGroup (fun _ _ => rfl) entries

theorem status_markPaymentPaid (paymentId driverId : ℕ) :
    (markPaymentPaid paymentId driverId).Issues fun {_} c => StatusCall op c := by
  refine (statusIssues_of_leaves (leaves_sqlOrThrow (leaves_findUniqueOrThrow _))).bind
    fun payment => ?_
  by_cases ht : PaymentStatus.paid ∈ payment.status.transitions
  · rw [assertTransition_of_mem ht]
    refine (statusCall_writePayment (Or.inr fun _ _ => ht)).bind fun updated => ?_
    refine (statusIssues_of_leaves (leaves_recordGroup _)).bind fun _ => ?_
    refine (statusIssues_of_leaves (leaves_transaction fun ctx => ?_)).bind fun _ => trivial
    exact (Program.issues_command _).mpr fun _ _ => rfl
  · rw [assertTransition_of_notMem ht]
    trivial

theorem status_recordRefunded (paymentId driverId : ℕ) (payment : Payment) (amount : ℤ) :
    (recordRefunded paymentId driverId payment amount).Issues fun {_} c => StatusCall op c := by
  have ht := statusAfterRefund_mem payment (payment.splitRefund amount)
  unfold recordRefunded
  simp only [assertTransition_of_mem ht]
  refine Program.Issues.bind (Program.issues_ret ()) fun _ => ?_
  refine (statusCall_writePayment (Or.inr fun _ _ => ht)).bind fun updated => ?_
  exact (statusIssues_of_leaves (leaves_recordGroup _)).bind fun _ => trivial

theorem status_markRefunded (paymentId driverId : ℕ) (amount : Option ℤ) :
    (markRefunded paymentId driverId amount).Issues fun {_} c => StatusCall op c := by
  refine (statusIssues_of_leaves (leaves_sqlOrThrow (leaves_findUniqueOrThrow _))).bind
    fun payment => ?_
  split_ifs with hdone hpending
  · trivial
  · exact status_recordRefunded _ _ _ _
  · by_cases ht : PaymentStatus.refundPending ∈ payment.status.transitions
    · rw [assertTransition_of_mem ht]
      refine (statusCall_writePayment (Or.inr fun _ _ => ht)).bind fun _ => ?_
      exact status_recordRefunded _ _ _ _
    · rw [assertTransition_of_notMem ht]
      trivial

/-! ### Eligibility and payouts -/

theorem status_processOutboxEvents (batchSize : ℕ) :
    (processOutboxEvents batchSize).Issues fun {_} c => StatusCall op c := by
  -- an outbox row's own status is no payment's
  have hstatus : ∀ id f, (writeOutboxStatus id f).Issues fun {_} c => StatusCall op c := by
    intro id f
    refine Program.Issues.bind ?_ fun _ => trivial
    refine statusIssues_of_leaves ((Program.issues_perform _).mpr ⟨fun ctx => ?_, fun _ _ _ => ?_⟩)
    · exact (Program.issues_perform _).mpr fun _ _ => rfl
    · trivial
  have hnote : ∀ events, StatusCall op (.note events) := fun events =>
    statusCall_of_leaves (c := .note events) fun _ _ => trivial
  refine Program.Issues.bind (statusIssues_of_leaves ?_) fun events => ?_
  · refine (Program.issues_perform _).mpr ⟨fun ctx => ?_, fun _ _ _ => trivial⟩
    exact Program.Issues.bind ((Program.issues_command _).mpr (leaves_findMany _)) fun _ => trivial
  refine Program.Issues.forEach fun event => (hstatus _ _).bind fun _ => ?_
  cases hh : outboxHandler event.2 with
  | none => exact hstatus _ _
  | some handler =>
    refine Program.Issues.tryCatch (Program.Issues.bind (Program.Issues.bind (Program.Issues.tryCatch
      ?_ fun e => ?_) fun _ => ?_) fun _ => hstatus _ _) fun _ => ?_
    · -- of the handlers, two move a payment, each through its guarded write
      unfold outboxHandler at hh
      split at hh
      · obtain rfl := Option.some.inj hh
        split
        · exact (status_markStatus _).bind fun _ => trivial
        · trivial
      · obtain rfl := Option.some.inj hh
        split
        · exact (status_markStatus _).bind fun _ => trivial
        · trivial
      · cases hh
    · exact ((Program.issues_command _).mpr (hnote _)).bind fun _ => trivial
    · exact (Program.issues_command _).mpr (hnote _)
    · dsimp only
      split_ifs with hretries
      · exact hstatus _ _
      · exact hstatus _ _

/-- What a command of a call may answer. -/
abbrev StatusAnswers {β : Type} (c : Call β) (b : β) : Prop := Pool.Answers statusPool c b

/-- The check writes the payments that it has selected as held. -/
theorem status_checkAndMarkEligible (delayMs : ℕ) :
    Program.Emits (fun {_} c b => StatusAnswers c b) (fun {_} c => StatusCall op c) (fun _ => True)
      (checkAndMarkEligible delayMs) := by
  refine (status_processOutboxEvents 50).emits.bind fun _ _ => ?_
  refine Program.Emits.bind (Q := fun eligible => ∀ e ∈ eligible, e.2.status = .heldInEscrow)
    (Program.emits_perform ?_ fun eligible hanswer e he => ?_) fun eligible hheld => ?_
  · exact statusCall_of_leaves ((Program.issues_perform _).mp
      (leaves_transaction fun _ => (Program.issues_command _).mpr fun _ _ => rfl))
  · obtain ⟨w, d, hbody⟩ := answers_transact hanswer
    obtain ⟨rfl, rfl⟩ := Prod.mk.injEq .. ▸ Except.ok.inj hbody
    have hmem : e ∈ heldPastDelay w.db delayMs w.now := he
    have hsel := (Table.mem_filter_iff.mp hmem).2
    simp only [Bool.and_eq_true, beq_iff_eq] at hsel
    exact hsel.1.1
  · refine Program.Emits.forEach fun e he => Program.Issues.emits ?_
    refine (statusCall_writePayment (Or.inr fun ctx p => ?_)).bind fun _ => trivial
    rw [hheld e he]
    show PaymentStatus.payoutEligible ∈ PaymentStatus.transitions .heldInEscrow
    decide

theorem status_settlePayout (driverId batchId : ℕ) (transfer : TransferRef)
    (selected : List (ℕ × Payment)) :
    (settlePayout driverId batchId transfer selected).Issues fun {_} c => StatusCall op c := by
  refine Program.Issues.bind (Program.Issues.forEach fun p => ?_) fun _ => ?_
  · exact (status_markStatus p.1).bind fun _ => trivial
  refine (Program.Issues.forEach fun p => statusIssues_of_leaves (leaves_recordGroup _)).bind
    fun _ => ?_
  refine Program.Issues.bind (statusIssues_of_leaves ?_) fun _ => ?_
  · exact (leaves_sqlOrThrow fun _ _ => rfl).bind fun _ => trivial
  refine Program.Issues.bind (Program.Issues.forEach fun p => ?_) fun _ => ?_
  · exact (status_markStatus p.1).bind fun _ => trivial
  refine statusIssues_of_leaves ?_
  exact (leaves_sql fun _ _ => rfl).bind fun _ => trivial

theorem status_failPayout (driverId batchId : ℕ) (selected : List (ℕ × Payment)) (reason : Err) :
    (failPayout driverId batchId selected reason).Leaves paymentsFrame := by
  refine Program.Issues.bind ?_ fun _ => ?_
  · exact (leaves_sqlOrThrow fun _ _ => rfl).bind fun _ => trivial
  refine Program.Issues.bind ?_ fun _ => ?_
  · exact (leaves_sql fun _ _ => rfl).bind fun _ => trivial
  refine Program.Issues.bind (Program.Issues.forEach fun p => ?_) fun _ => trivial
  exact (leaves_recordGroup _).tryCatch fun _ => trivial

theorem leaves_createPayoutBatch (driverId : ℕ) (currency : String)
    (selected : List (ℕ × Payment)) :
    (createPayoutBatch driverId currency selected).Leaves paymentsFrame :=
  leaves_transaction fun _ => ((Program.issues_command _).mpr fun _ _ => rfl).bind fun _ => trivial

theorem status_payoutSelected (driverId : ℕ) (currency : String)
    (selected : List (ℕ × Payment)) :
    (payoutSelected driverId currency selected).Issues fun {_} c => StatusCall op c := by
  refine (statusIssues_of_leaves (leaves_sql (leaves_findUnique _))).bind fun driver => ?_
  split
  · trivial
  · split_ifs with honboarded
    · refine (statusIssues_of_leaves (leaves_createPayoutBatch _ _ _)).bind fun batchId => ?_
      refine (statusIssues_of_leaves (leaves_sql (leaves_findUnique _))).bind fun driver => ?_
      refine Program.Issues.tryCatch (Program.Issues.bind ?_ fun transfer => ?_) fun e => ?_
      · unfold transferPayout
        split
        · refine (Program.issues_perform _).mpr (statusCall_of_leaves ⟨fun _ _ _ _ => rfl, ?_⟩)
          exact fun _ _ _ => trivial
        · trivial
      · exact (status_settlePayout _ _ _ _).bind fun _ => trivial
      · exact statusIssues_of_leaves (status_failPayout _ _ _ _)
    · trivial

theorem status_processDriverPayout (mockMode : Bool) (driverId : ℕ) :
    (processDriverPayout mockMode driverId).Issues fun {_} c => StatusCall op c := by
  refine Program.Issues.bind ((Program.issues_perform _).mpr (statusCall_of_leaves ?_))
    fun selected => ?_
  · exact ⟨fun _ => (Program.issues_command _).mpr fun _ _ => rfl, fun _ _ _ => trivial⟩
  · cases selected with
    | nil => trivial
    | cons first rest =>
      dsimp only
      split_ifs with hmock
      · refine (statusIssues_of_leaves (leaves_createPayoutBatch _ _ _)).bind fun batchId => ?_
        exact (status_settlePayout _ _ _ _).bind fun _ => trivial
      · exact status_payoutSelected _ _ _

/-! ### Reconciliation, support and disputes -/

theorem leaves_issue_payments (issue : ReconciliationIssue) :
    (createIssue issue).Leaves paymentsFrame := leaves_sql fun _ _ => rfl

/-- A repair is along the table. -/
theorem status_reconcilePayment (paymentId : ℕ) (payment : Payment) :
    (reconcilePayment paymentId payment).Issues fun {_} c => StatusCall op c := by
  unfold reconcilePayment
  split
  · trivial
  · refine (statusIssues_of_leaves (leaves_retrievePaymentIntent _)).bind fun intent => ?_
    split_ifs with hexpected
    · trivial
    · split
      · next repair hfind =>
        have hmem := List.mem_of_find?_eq_some hfind
        have hmatch := List.find?_some hfind
        obtain rfl : repair = ⟨.succeeded, .paymentPending, .paid⟩ := by
          simpa [safeRepairs] using hmem
        simp only [Bool.and_eq_true, beq_iff_eq] at hmatch
        refine (statusCall_writePayment (Or.inr fun _ _ => ?_)).bind fun _ => ?_
        · rw [← hmatch.2]
          show PaymentStatus.paid ∈ PaymentStatus.transitions .paymentPending
          decide
        · exact (statusIssues_of_leaves (leaves_issue_payments _)).bind fun _ => trivial
      · exact (statusIssues_of_leaves (leaves_issue_payments _)).bind fun _ => trivial

theorem status_reconcilePayments (selected : List (ℕ × Payment)) :
    (reconcilePayments selected).Issues fun {_} c => StatusCall op c := by
  induction selected with
  | nil => trivial
  | cons payment rest ih =>
    refine Program.Issues.bind ?_ fun result => ih.bind fun _ => trivial
    exact (status_reconcilePayment _ _).tryCatch fun _ => trivial

theorem leaves_completeRideIfLast_payments (rideId bookingId : ℕ) :
    (completeRideIfLast rideId bookingId).Leaves Db.payments := by
  refine ((Program.issues_command _).mpr fun _ _ => rfl).bind fun remaining => ?_
  split_ifs with hlast
  · exact ((Program.issues_perform _).mpr fun _ _ => rfl).bind fun _ => trivial
  · trivial

/-- A forced completion makes eligible a payment that it has read as held. -/
theorem statusCall_forceComplete (bookingId now : ℕ) (view : ForceView) :
    StatusCall op (.transact (fun _ => forceComplete bookingId now view)
      fun _ => view.events bookingId) := by
  intro i w id p hp
  cases i with
  | refused | lost => exact ⟨p, hp, Or.inl rfl⟩
  | ok =>
    simp only [Call.exec]
    cases hbody : (forceComplete bookingId now view).atomic w.db with
    | error e => exact ⟨p, hp, Or.inl rfl⟩
    | ok r =>
      obtain ⟨u, d'⟩ := r
      obtain ⟨written, d₁, hbooking, hrest⟩ := Tx.atomic_bind.mp hbody
      obtain ⟨row, -, -, rfl⟩ := Service.atomic_update hbooking
      obtain ⟨u', d₂, hride, hpay⟩ := Tx.atomic_bind.mp hrest
      -- booking and ride are written before the payment
      have hsame := Tx.Leaves.atomic
        (leaves_completeRideIfLast_payments view.booking.rideId bookingId) hride
      have hp₂ : d₂.payments.get? id = some p := by
        rw [hsame]
        exact hp
      show ∃ p', d'.payments.get? id = some p' ∧ (_ ∨ ∃ read, _ ∈ view.events bookingId ∧ _)
      cases hheld : view.heldPayment with
      | none =>
        rw [hheld] at hpay
        obtain ⟨-, rfl⟩ := Prod.mk.injEq .. ▸ Except.ok.inj hpay
        exact ⟨p, hp₂, Or.inl rfl⟩
      | some paymentId =>
        rw [hheld] at hpay
        obtain ⟨q, d₃, hupdate, hret⟩ := Tx.atomic_bind.mp hpay
        obtain ⟨-, rfl⟩ := Prod.mk.injEq .. ▸ Except.ok.inj hret
        obtain ⟨row', -, -, rfl⟩ := Service.atomic_update hupdate
        show ∃ p', (d₂.payments.modify paymentId _).get? id = some p' ∧ _
        rw [Table.get?_modify]
        split_ifs with hid
        · subst hid
          -- the payment that was held when it was read
          refine ⟨{ p with status := .payoutEligible, payoutEligibleAt := some now },
            by rw [hp₂]; rfl, Or.inr ⟨.heldInEscrow, ?_, Or.inr ?_⟩⟩
          · rw [ForceView.events, hheld]
            exact List.mem_cons_of_mem _ List.mem_cons_self
          · show PaymentStatus.payoutEligible ∈ PaymentStatus.transitions .heldInEscrow
            decide
        · exact ⟨p, hp₂, Or.inl rfl⟩

theorem status_adminForceComplete (bookingId : ℕ) :
    (adminForceCompleteBooking bookingId).Issues fun {_} c => StatusCall op c := by
  refine (statusIssues_of_leaves (leaves_sql fun _ _ => rfl)).bind fun found => ?_
  cases found with
  | none => trivial
  | some view =>
    dsimp only
    split_ifs with hactive hride hdispute
    · trivial
    · trivial
    · trivial
    · refine ((Program.issues_command _).mpr (statusCall_of_leaves (c := .clock) trivial)).bind
        fun now => ?_
      refine ((Program.issues_perform _).mpr (statusCall_forceComplete bookingId now view)).bind
        fun _ => ?_
      exact statusIssues_of_leaves leaves_notify

theorem status_writeBooking (bookingId : ℕ) (f : Booking → Booking) :
    (writeBooking bookingId f).Issues fun {_} c => StatusCall op c := by
  refine ((Program.issues_perform _).mpr (statusCall_of_leaves ?_)).bind fun _ => trivial
  exact ⟨fun ctx => (Program.issues_perform _).mpr fun _ _ => rfl, fun _ _ _ => trivial⟩

theorem status_closeDispute (disputeId now : ℕ) (status : DisputeStatus) :
    (closeDispute disputeId now status).Issues fun {_} c => StatusCall op c := by
  refine (statusIssues_of_leaves (leaves_sqlOrThrow fun _ _ => rfl)).bind fun _ => ?_
  exact statusIssues_of_leaves (leaves_notify.bind fun _ => leaves_notify.bind fun _ =>
    leaves_notify)

section Settlement

variable (hop : op.settles = true)

include hop

theorem status_writeSettledPayment (payment : Option (ℕ × Payment)) (f : Payment → Payment) :
    (writeSettledPayment payment f).Issues fun {_} c => StatusCall op c := by
  cases payment with
  | none => trivial
  | some payment => exact (statusCall_writePayment (Or.inl hop)).bind fun _ => trivial

theorem status_makeRefund (view : DisputeView) (now : ℕ) (resolution : Resolution)
    (refunding : Refunding) :
    (makeRefund view now resolution refunding).Issues fun {_} c => StatusCall op c := by
  refine Program.Issues.bind ?_ fun _ => Program.Issues.bind ?_ fun refundId => ?_
  · exact (status_writeBooking _ _).bind fun _ => status_writeSettledPayment hop _ _
  · unfold refundAtStripe
    split
    · refine (statusIssues_of_leaves ?_).bind fun _ => trivial
      exact leaves_refundPaymentIntent (fun _ _ => rfl) _ _
    · trivial
  · refine (status_writeBooking _ _).bind fun _ => ?_
    split
    · exact (statusIssues_of_leaves (leaves_recordGroup _)).bind fun _ =>
        status_writeSettledPayment hop _ _
    · trivial

theorem status_settleRefund (view : DisputeView) (now : ℕ) (resolution : Resolution)
    (refunding : Refunding) :
    (settleRefund view now resolution refunding).Issues fun {_} c => StatusCall op c := by
  unfold settleRefund
  split_ifs with hmakes
  · exact (status_makeRefund hop _ _ _ _).bind fun _ => status_writeSettledPayment hop _ _
  · exact status_writeSettledPayment hop _ _

theorem status_settleDispute (input : SettlementInput) :
    (settleDispute input).Issues fun {_} c => StatusCall op c := by
  refine Program.Issues.bind (statusIssues_of_leaves (leaves_transaction fun ctx => ?_))
    fun found => ?_
  · exact ((Program.issues_command _).mpr fun _ _ => rfl).bind fun _ => trivial
  obtain ⟨found, now⟩ := found
  cases found with
  | none => trivial
  | some view =>
    dsimp only
    split_ifs with hsettleable
    · unfold settleViewed
      split
      · exact status_closeDispute _ _ _
      · refine Program.Issues.bind ?_ fun _ => status_closeDispute _ _ _
        unfold settlePayoutResolution
        by_cases hrefunded : view.booking.existingRefund = true ∧
            100 ≤ view.booking.refundPercent.getD 0
        · rw [if_pos hrefunded]
          trivial
        · rw [if_neg hrefunded]
          exact (status_writeSettledPayment hop _ _).bind fun _ => status_writeBooking _ _
      · exact (status_settleRefund hop _ _ _ _).bind fun _ => status_closeDispute _ _ _
      · exact (status_settleRefund hop _ _ _ _).bind fun _ => status_closeDispute _ _ _
    · trivial

end Settlement

/-- Every step of the calls changes no status or reports what it has written. -/
theorem opsConfined_status : Pool.OpsConfined statusPool fun op {_} c => StatusCall op c := by
  intro op
  cases op with
  | markPaymentPaid paymentId driverId =>
    exact (status_markPaymentPaid paymentId driverId).emits_discard
  | markHeldInEscrow paymentId =>
    exact (status_markStatus paymentId).emits_discard
  | markPayoutEligible paymentId =>
    exact (status_markStatus paymentId).emits_discard
  | markRefunded paymentId driverId refundAmount =>
    exact (status_markRefunded paymentId driverId refundAmount).emits_discard
  | markTransferCreated paymentId =>
    exact (status_markStatus paymentId).emits_discard
  | markPayoutCompleted paymentId =>
    exact (status_markStatus paymentId).emits_discard
  | checkAndMarkEligible delayMs => exact status_checkAndMarkEligible delayMs
  | processDriverPayout mockMode driverId =>
    exact (status_processDriverPayout mockMode driverId).emits_discard
  | reconcile recent =>
    refine Program.Issues.emits_discard ?_
    refine (statusIssues_of_leaves (leaves_sql (leaves_findMany _))).bind fun selected => ?_
    exact status_reconcilePayments selected
  | adminForceComplete bookingId => exact (status_adminForceComplete bookingId).emits
  | settleDispute input => exact (status_settleDispute rfl input).emits

end Steps

/-! ## Whole runs -/

/-- The pool before any call has been started. -/
def statusStart (w : World) : Pool Call Err Event World StatusOp := { now := { state := w } }

/-- **Every change of a payment's status follows the table** along every interleaving in which each
write finds the payment in the status that its call last read, and each write of a settlement finds
it in one from which the table leads to what it writes. -/
theorem status_changes_follow_table (w : World) (moves : List (Move StatusOp Reply World))
    (hmoves : History.Each (Pool.step statusPool)
      (Pool.Meets statusPool StatusStep fun _ _ => True) (statusStart w) moves) :
    History.Each (Pool.step statusPool)
      (fun p move => FollowsTable p.now.state.db (p.step statusPool move).now.state.db)
      (statusStart w) moves := by
  refine Pool.each_of_confined (R := fun x y => FollowsTable x.state.db y.state.db)
    opsConfined_status (fun x id p hp => ⟨p, hp, Or.inl rfl⟩) ?_
    (fun d x _ id p hp => ⟨p, hp, Or.inl rfl⟩) (fun t ht => absurd ht List.not_mem_nil) hmoves
  intro op tid β c i x b es s hcall hexec hcond id p hp
  obtain ⟨rfl, rfl, rfl⟩ : (c.exec i x.state).1 = b ∧ (c.exec i x.state).2.1 = es ∧
      (c.exec i x.state).2.2 = s := by
    have heq := Option.some.inj hexec
    rw [heq]
    exact ⟨rfl, rfl, rfl⟩
  obtain ⟨p', hp', hsame | ⟨read, hmem, hlegal⟩⟩ := hcall i x.state id p hp
  · exact ⟨p', hp', Or.inl hsame⟩
  · refine ⟨p', hp', ?_⟩
    have hfound := hcond id read p'.status p hmem hp
    by_cases hop : op.settles = true
    · rw [if_pos hop] at hfound
      exact hfound.imp Eq.symm mem_transitions_of_mem_settledFrom
    · rw [if_neg hop] at hfound
      rw [hfound]
      exact Or.inr (hlegal.resolve_left hop)

/-! ## Runs -/

section Runs

private def paymentIn (status : PaymentStatus) : Payment where
  toPaymentSplit := samplePayment.toPaymentSplit
  bookingId := 7
  rideId := 1
  riderId := 2
  status

/-- A completed booking with its payment and a dispute. -/
private def heldForDispute (status : PaymentStatus) : World where
  db := {
    rides := ⟨[(1, {
      driverId := 9, totalSeats := 3, availableSeats := 2, status := .completed,
      departureAt := 100 })], by simp⟩
    bookings := ⟨[(7, {
      rideId := 1, passengerId := 2, seatsBooked := 1, totalPrice := 1020,
      status := .completed })], by simp⟩
    payments := ⟨[(3, paymentIn status)], by simp⟩
    disputes := ⟨[(4, { bookingId := 7 })], by simp⟩ }

/-- A payment that has been paid is moved to escrow. -/
theorem escrow_follows_table :
    History.Each (Pool.step statusPool)
      (fun p move => FollowsTable p.now.state.db (p.step statusPool move).now.state.db)
      (statusStart (heldForDispute .paid)) [.start (.markHeldInEscrow 3), .step 0 .ok, .step 0 .ok] := by
  refine status_changes_follow_table _ _ ⟨trivial, ?_, ?_, trivial⟩
  · rintro op rest ⟨⟩ b es s ⟨⟩ id read written p hmem
    cases hmem
  · rintro op rest ⟨⟩ b es s ⟨⟩ id read written p hmem hp
    obtain ⟨rfl, rfl, rfl⟩ : id = 3 ∧ read = (paymentIn .paid).status ∧ written = .heldInEscrow := by
      simpa using hmem
    obtain rfl := Option.some.inj hp
    rfl

/-- The settlement of a dispute for the driver, after the driver has been paid. -/
private def settledAfterPayout : List (Move StatusOp Reply World) :=
  [.start (.settleDispute { disputeId := 4, resolution := .payout }), .step 0 .ok, .step 0 .ok]

/-- A refund between the read and the write of the worker that moves a payment to escrow. -/
private def escrowAfterRefund : List (Move StatusOp Reply World) :=
  [.start (.markHeldInEscrow 3), .start (.markRefunded 3 9 none), .step 0 .ok, .step 1 .ok,
    .step 1 .ok, .step 1 .ok, .step 0 .ok]

/-- A settlement moves a payment that has been paid out back to `PAYOUT_ELIGIBLE`, and a write that
rests on a read from before a refund moves a refunded payment to `HELD_IN_ESCROW`. -/
theorem final_statuses_left :
    ¬ History.Each (Pool.step statusPool)
        (fun p move => FollowsTable p.now.state.db (p.step statusPool move).now.state.db)
        (statusStart (heldForDispute .payoutCompleted)) settledAfterPayout ∧
      ¬ History.Each (Pool.step statusPool)
        (fun p move => FollowsTable p.now.state.db (p.step statusPool move).now.state.db)
        (statusStart (heldForDispute .paid)) escrowAfterRefund := by
  constructor
  · rintro ⟨-, -, h, -⟩
    obtain ⟨p', hp', hmoved⟩ := h 3 (paymentIn .payoutCompleted) rfl
    obtain rfl := Option.some.inj hp'
    exact absurd hmoved (by decide)
  · rintro ⟨-, -, -, -, -, -, h, -⟩
    obtain ⟨p', hp', hmoved⟩ := h 3 _ rfl
    obtain rfl := Option.some.inj hp'
    exact absurd hmoved (by decide)

end Runs

end Deliivo
