import Deliivo.Domain.World
import Deliivo.Store.Tally

/-!
# Stripe

What the services rely on of Stripe. Cancelling a PaymentIntent fails once it has succeeded,
refunds are accepted up to the captured amount, and a declined intent stays payable.

## Main definitions

* `Stripe.refundedOf`: what has been refunded of an intent
* `refundPaymentIntent`, `cancelPaymentIntent`, `retrievePaymentIntent`, `createTransfer`
-/

namespace Deliivo

/-- `toMinorCurrencyUnits`: the amount to ask Stripe for; nothing for a negative amount. -/
def toMinorCurrencyUnits (amount : ℤ) : ℤ := max 0 amount

/-- A refund of an intent that has not failed. -/
def StripeRefund.standsFor (refund : StripeRefund) (paymentIntent : ℕ) : Bool :=
  refund.paymentIntent == paymentIntent && !refund.failed

/-- What has been refunded of an intent so far, by the refunds that have not failed. -/
def Stripe.refundedOf (s : Stripe) (paymentIntent : ℕ) : ℤ :=
  s.refunds.rows.tally (fun r => r.2.standsFor paymentIntent) fun r => r.2.amount

/-- Whether Stripe accepts a refund: the intent has captured money, and of it at least `amount`
has not been refunded. -/
def Stripe.acceptsRefund (s : Stripe) (paymentIntent : ℕ) (amount : ℤ) : Bool :=
  match s.intents.get? paymentIntent with
  | some intent =>
    intent.status == .succeeded && decide (0 < amount) &&
      decide (s.refundedOf paymentIntent + amount ≤ intent.amount)
  | none => false

/-- Stripe's books with a refund added. -/
def Stripe.withRefund (s : Stripe) (paymentIntent : ℕ) (amount : ℤ) : Stripe :=
  { s with refunds := s.refunds.insert s.refunds.nextKey { paymentIntent, amount } }

/-- Stripe's books after a refund has failed. -/
def Stripe.failRefund (s : Stripe) (refund : ℕ) : Stripe :=
  { s with refunds := s.refunds.modify refund fun r => { r with failed := true } }

/-- The refunds that Stripe has been asked for since it stood at `s`. -/
def Stripe.refundsSince (s s' : Stripe) : List StripeRefund :=
  (s'.refunds.rows.drop s.refunds.rows.length).map Prod.snd

/-- `refunds.create`; the id of the refund is returned. -/
def Stripe.createRefund (paymentIntent : ℕ) (amount : ℤ) (s : Stripe) : Except Err (ℕ × Stripe) :=
  if s.acceptsRefund paymentIntent amount then
    .ok (s.refunds.nextKey, s.withRefund paymentIntent amount)
  else
    .error .stripe

/-- `refundPaymentIntent`, with an amount given. -/
def refundPaymentIntent (paymentIntent : ℕ) (amountMinor : ℤ) : Service ℕ :=
  Program.perform (.stripe (Stripe.createRefund paymentIntent amountMinor) fun _ => [])

/-- `cancelPaymentIntent`: an intent that has succeeded cannot be canceled. -/
def cancelPaymentIntent (paymentIntent : ℕ) : Service Unit :=
  Program.perform (.stripe
    (fun s => match s.intents.get? paymentIntent with
      | none => .error .stripe
      | some intent =>
        if intent.status = .succeeded then .error .stripe
        else
          .ok ((), { s with intents := s.intents.modify paymentIntent fun i =>
            { i with status := .canceled } }))
    fun _ => [])

/-- `paymentIntents.retrieve`. -/
def retrievePaymentIntent (paymentIntent : ℕ) : Service Intent :=
  Program.perform (.stripe
    (fun s => match s.intents.get? paymentIntent with
      | none => .error .stripe
      | some intent => .ok (intent, s))
    fun _ => [])

/-- `transfers.create`: Stripe refuses an amount that is not positive. -/
def Stripe.createTransfer (transfer : Transfer) (s : Stripe) : Except Err (ℕ × Stripe) :=
  if 0 < transfer.amount then
    .ok (s.transfers.nextKey, { s with transfers := s.transfers.insert s.transfers.nextKey transfer })
  else
    .error .stripe

def createTransfer (transfer : Transfer) : Service ℕ :=
  Program.perform (.stripe (Stripe.createTransfer transfer)
    fun _ => [.transferCreated transfer.payoutBatchId])

/-- What Stripe has transferred to a driver. -/
def Stripe.transferredTo (s : Stripe) (driverId : ℕ) : ℤ :=
  s.transfers.rows.tally (fun t => t.2.driverId == driverId) fun t => t.2.amount

section Refunds

variable (s : Stripe) (paymentIntent : ℕ) (amount : ℤ)

@[simp] theorem refundedOf_withRefund :
    (s.withRefund paymentIntent amount).refundedOf paymentIntent =
      s.refundedOf paymentIntent + amount := by
  simp [Stripe.refundedOf, Stripe.withRefund, StripeRefund.standsFor]

/-- What has been refunded is less by a refund that fails, unless it had failed before. -/
theorem refundedOf_failRefund {refund : ℕ} {r : StripeRefund} (hr : s.refunds.get? refund = some r) :
    (s.failRefund refund).refundedOf paymentIntent =
      s.refundedOf paymentIntent - if r.standsFor paymentIntent then r.amount else 0 := by
  have htally := List.tally_modify (P := fun row => row.2.standsFor paymentIntent)
    (v := fun row => row.2.amount) s.refunds.nodup (Table.mem_rows_iff.mpr hr)
    fun r => { r with failed := true }
  have hfailed : ({ r with failed := true } : StripeRefund).standsFor paymentIntent = false := by
    simp [StripeRefund.standsFor]
  rw [hfailed, if_neg Bool.false_ne_true, add_zero] at htally
  exact htally

/-- Nothing is known of a refund that is not there. -/
theorem failRefund_of_none {refund : ℕ} (hr : s.refunds.get? refund = none) :
    (s.failRefund refund).refundedOf paymentIntent = s.refundedOf paymentIntent := by
  rw [Stripe.failRefund, Table.modify_of_none hr]

@[simp] theorem withRefund_intents : (s.withRefund paymentIntent amount).intents = s.intents := rfl

theorem refundsSince_same {s s' : Stripe} (h : s'.refunds = s.refunds) :
    s.refundsSince s' = [] := by
  rw [Stripe.refundsSince, h, List.drop_length, List.map_nil]

theorem refundsSince_withRefund :
    s.refundsSince (s.withRefund paymentIntent amount) = [{ paymentIntent, amount }] := by
  have hnew : s.refunds.get? s.refunds.nextKey = none := Table.get?_of_nextKey_le le_rfl
  rw [Stripe.refundsSince, Stripe.withRefund, Table.insert_rows hnew, List.drop_left,
    List.map_singleton]

theorem acceptsRefund_pos {s : Stripe} {paymentIntent : ℕ} {amount : ℤ}
    (h : s.acceptsRefund paymentIntent amount = true) : 0 < amount := by
  unfold Stripe.acceptsRefund at h
  cases hi : s.intents.get? paymentIntent with
  | none => simp [hi] at h
  | some intent =>
    simp only [hi, Bool.and_eq_true, decide_eq_true_eq] at h
    exact h.1.2

/-- Converting to minor units never makes Stripe accept a refund that it would refuse. -/
theorem acceptsRefund_toMinorCurrencyUnits :
    s.acceptsRefund paymentIntent (toMinorCurrencyUnits amount) =
      s.acceptsRefund paymentIntent amount := by
  unfold toMinorCurrencyUnits
  rcases le_total 0 amount with h | h
  · rw [max_eq_right h]
  · rw [max_eq_left h, Bool.eq_iff_iff]
    refine iff_of_false (fun ha => lt_irrefl _ (acceptsRefund_pos ha)) fun ha => ?_
    exact absurd (acceptsRefund_pos ha) (not_lt.mpr h)

theorem refundPaymentIntent_eval_ok {w : World} {paymentIntent : ℕ} {amount : ℤ}
    (h : w.stripe.acceptsRefund paymentIntent amount = true) :
    (refundPaymentIntent paymentIntent amount).eval w =
      (.ok w.stripe.refunds.nextKey,
        { w with stripe := w.stripe.withRefund paymentIntent amount }) := by
  simp [Service.eval, refundPaymentIntent, Program.perform, world, Call.exec, Stripe.createRefund, h]

theorem refundPaymentIntent_eval_error {w : World} {paymentIntent : ℕ} {amount : ℤ}
    (h : w.stripe.acceptsRefund paymentIntent amount = false) :
    (refundPaymentIntent paymentIntent amount).eval w = (.error .stripe, w) := by
  simp [Service.eval, refundPaymentIntent, Program.perform, world, Call.exec, Stripe.createRefund, h]

end Refunds

end Deliivo
