import Deliivo.Domain.Leaves
import Deliivo.Payment.Service
import Deliivo.Stripe.Client

/-!
# What the payment service leaves alone

The payment helpers write payments, the ledger and the outbox, and nothing else.

## Main results

* `leaves_markStatus`, `leaves_markPaymentPaid`, `leaves_markBookingPaymentPaid`
* `leaves_markRefunded`, `leaves_markBookingPaymentRefunded`
-/

namespace Deliivo

variable {φ : Type} {get : Db → φ} {F : Frame}

/-- Writing the ledger does not change the part `get` of the database. -/
def LedgerApart (get : Db → φ) : Prop := ∀ d l, get { d with ledger := l } = get d

theorem LedgerApart.recordGroup (hl : LedgerApart F.db) (entries : ℕ → List LedgerEntry) :
    (Deliivo.recordGroup entries).Leaves F :=
  leaves_transaction fun _ => (Program.issues_command _).mpr fun _ _ => hl _ _

theorem leaves_assertTransition (current target : PaymentStatus) :
    (assertTransition current target).Leaves F := by
  unfold assertTransition
  split_ifs <;> trivial

/-- Writing the refunds does not change the part `keep` of Stripe. -/
def RefundsApart {ψ : Type} (keep : Stripe → ψ) : Prop :=
  ∀ s r, keep { s with refunds := r } = keep s

theorem leaves_refundPaymentIntent (hr : RefundsApart F.stripe) (paymentIntent : ℕ) (amount : ℤ) :
    (refundPaymentIntent paymentIntent amount).Leaves F := by
  refine leaves_stripe fun s b s' h => ?_
  unfold Stripe.createRefund at h
  split_ifs at h with haccepts
  obtain ⟨-, rfl⟩ := Prod.mk.injEq .. ▸ Except.ok.inj h
  exact hr _ _

theorem leaves_retrievePaymentIntent (paymentIntent : ℕ) :
    (retrievePaymentIntent paymentIntent).Leaves F := by
  refine leaves_stripe fun s b s' h => ?_
  cases hi : s.intents.get? paymentIntent with
  | none => simp [hi] at h
  | some intent =>
    simp only [hi, Except.ok.injEq, Prod.mk.injEq] at h
    rw [h.2]

/-- Changing a row of the payments that stays with its booking does not change the part `get`. -/
def PaymentWritesApart (get : Db → φ) : Prop :=
  ∀ (d : Db) (id : ℕ) (f : Payment → Payment), (∀ p, (f p).bookingId = p.bookingId) →
    get { d with payments := d.payments.modify id f } = get d

theorem PaymentWritesApart.of_apart (hp : payments.Apart get) : PaymentWritesApart get :=
  fun _ _ _ _ => hp _ _

section Payments

variable (hp : PaymentWritesApart F.db)
  (hw : ∀ paymentId read written, F.events (.paymentWritten paymentId read written))

include hp hw

theorem leaves_writePayment (paymentId : ℕ) (read : PaymentStatus) {f : Ctx → Payment → Payment}
    (hf : ∀ ctx p, (f ctx p).bookingId = p.bookingId) :
    (writePayment paymentId read f).Leaves F := by
  refine (Program.issues_perform _).mpr ⟨fun ctx => (Program.issues_perform _).mpr ?_, ?_⟩
  · exact fun _ d => hp d paymentId (f ctx) (hf ctx)
  intro payment e he
  rw [List.mem_singleton.mp he]
  exact hw _ _ _

theorem leaves_markStatus (target : PaymentStatus) {f : Ctx → Payment → Payment}
    (hf : ∀ ctx p, (f ctx p).bookingId = p.bookingId) (paymentId : ℕ) :
    (markStatus target f paymentId).Leaves F := by
  refine (leaves_sqlOrThrow (leaves_findUniqueOrThrow _)).bind fun payment => ?_
  refine (leaves_assertTransition _ _).bind fun _ => ?_
  exact leaves_writePayment hp hw _ _ fun _ _ => hf _ _

variable (hl : LedgerApart F.db)

include hl

theorem leaves_recordRefunded (paymentId driverId : ℕ) (payment : Payment) (amount : ℤ) :
    (recordRefunded paymentId driverId payment amount).Leaves F := by
  refine (leaves_assertTransition _ _).bind fun _ => ?_
  refine (leaves_writePayment hp hw _ _ (by intros; rfl)).bind fun updated => ?_
  exact (hl.recordGroup _).bind fun _ => trivial

theorem leaves_markRefunded (paymentId driverId : ℕ) (amount : Option ℤ) :
    (markRefunded paymentId driverId amount).Leaves F := by
  refine (leaves_sqlOrThrow (leaves_findUniqueOrThrow _)).bind fun payment => ?_
  split_ifs with hdone hpending
  · trivial
  · exact leaves_recordRefunded hp hw hl _ _ _ _
  · refine (leaves_assertTransition _ _).bind fun _ => ?_
    refine (leaves_writePayment hp hw _ _ (by intros; rfl)).bind fun _ => ?_
    exact leaves_recordRefunded hp hw hl _ _ _ _

theorem leaves_markBookingPaymentRefunded (bookingId driverId : ℕ) (amount : Option ℤ) :
    (markBookingPaymentRefunded bookingId driverId amount).Leaves F := by
  refine (leaves_sql (leaves_findFirst _)).bind fun found => ?_
  cases found with
  | none => trivial
  | some found => exact (leaves_markRefunded hp hw hl _ _ _).bind fun _ => trivial

variable (ho : outbox.Apart F.db)

include ho

theorem leaves_markPaymentPaid (paymentId driverId : ℕ) :
    (markPaymentPaid paymentId driverId).Leaves F := by
  refine (leaves_sqlOrThrow (leaves_findUniqueOrThrow _)).bind fun payment => ?_
  refine (leaves_assertTransition _ _).bind fun _ => ?_
  refine (leaves_writePayment hp hw _ _ (by intros; rfl)).bind fun updated => ?_
  refine (hl.recordGroup _).bind fun _ => ?_
  refine (leaves_transaction fun ctx => ?_).bind fun _ => trivial
  exact (Program.issues_command _).mpr (ho.create _ _)

theorem leaves_markBookingPaymentPaid (bookingId driverId : ℕ) :
    (markBookingPaymentPaid bookingId driverId).Leaves F := by
  refine (leaves_sql (leaves_findFirst _)).bind fun found => ?_
  cases found with
  | none => trivial
  | some found =>
    dsimp only
    split
    · refine (leaves_markStatus hp hw _ (by intros; rfl) _).bind fun _ => ?_
      exact (leaves_markPaymentPaid hp hw hl ho _ _).bind fun _ => trivial
    · exact (leaves_markPaymentPaid hp hw hl ho _ _).bind fun _ => trivial
    · trivial

end Payments

end Deliivo
