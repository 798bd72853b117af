import Deliivo.Payment.Spec
import Deliivo.Store.History
import Deliivo.Webhook.Refund

/-!
# Recorded refunds and real refunds

A payment's refunds are made at Stripe and recorded in two places, the refunded amounts of its row
and the `REFUND_TO_RIDER` entries of the ledger. `markRefunded` adds what it is told to both and is
not told which refund it is about, so a refund that reaches it by more than one path is recorded
more than once, unless the status of the row stops it. A refund that Stripe has accepted may fail later;
what has been recorded of it stays.

The setting is one payment, its booking and its intent, and histories of local refunds, of refunds
that fail at Stripe and of webhook deliveries about Stripe's refunds of that intent.

## Main definitions

* `RefundCase`, `RefundCase.Linked`: the setting
* `RefundStep`, `RefundCase.step`: one local refund, one delivery, or one failure at Stripe
* `RefundsRecorded`: both records say what Stripe has refunded
* `RefundStep.Harmless`: the condition under which a step keeps that

## Main results

* `refundsRecorded_step`: a step keeps the records exact if and only if it is harmless
* `refunds_recorded_iff`: the records are exact in every state of a history if and only if every
  step of it is harmless
-/

namespace Deliivo

open History

/-! ## The setting -/

/-- A payment, its booking, the booking's driver and the intent it was paid through. -/
structure RefundCase where
  paymentId : ℕ
  bookingId : ℕ
  driverId : ℕ
  paymentIntent : ℕ

/-- The rows of a case are there and name each other; by the unique columns of the schema no other
row does; and Stripe refunds positive amounts. -/
structure RefundCase.Linked (c : RefundCase) (w : World) : Prop where
  payment : ∃ p, w.db.payments.get? c.paymentId = some p ∧ p.bookingId = c.bookingId
  payment_unique : ∀ id p, w.db.payments.get? id = some p → p.bookingId = c.bookingId →
    id = c.paymentId
  booking : ∃ b, w.db.bookings.get? c.bookingId = some b ∧
    b.paidThrough c.paymentIntent = true ∧
    ∃ ride, w.db.rides.get? b.rideId = some ride ∧ ride.driverId = c.driverId
  booking_unique : ∀ id b, w.db.bookings.get? id = some b → b.paidThrough c.paymentIntent = true →
    id = c.bookingId
  refunds_pos : ∀ id r, w.stripe.refunds.get? id = some r → 0 < r.amount

/-- Both records of a payment's refunds say what Stripe has refunded. -/
def RefundsRecorded (c : RefundCase) (w : World) : Prop :=
  ∃ p, w.db.payments.get? c.paymentId = some p ∧
    p.refundedFareAmount + p.refundedFeeAmount = w.stripe.refundedOf c.paymentIntent ∧
    ledgerTotalOf w.db.ledger c.paymentId .refundToRider = w.stripe.refundedOf c.paymentIntent

/-! ## Steps -/

/-- What can happen around the refunds of a payment. -/
inductive RefundStep
  /-- `refundPaymentIntent` and then `markBookingPaymentRefunded`, for the same amount. -/
  | refundLocally (amount : ℤ)
  /-- A delivery of `refund.created` or `refund.updated` about a refund that Stripe has made; that it has
  failed is told of one that has. -/
  | refundEvent (refund : ℕ) (status : RefundStatus)
  /-- A delivery of `charge.refunded`, as Stripe sends it after its first `count` refunds, when those of
  `failed` had failed. -/
  | chargeEvent (count : ℕ) (failed : List ℕ)
  /-- A refund that Stripe has accepted fails. -/
  | refundFails (refund : ℕ)
  deriving DecidableEq, Repr

/-- What Stripe had refunded of an intent after its first `count` refunds, when those of `failed` had
failed. -/
def Stripe.refundedAfter (s : Stripe) (paymentIntent count : ℕ) (failed : List ℕ) : ℤ :=
  ((s.refunds.filter fun _ r => r.paymentIntent == paymentIntent).take count).tally
    (fun r => !(r.2.failed && failed.contains r.1)) fun r => r.2.amount

/-- The `charge.refunded` object of an intent at that time. -/
def Stripe.chargeObject (s : Stripe) (paymentIntent count : ℕ) (failed : List ℕ) : ChargeObject where
  paymentIntent := some paymentIntent
  latestRefund := ((s.refunds.filter fun _ r => r.paymentIntent == paymentIntent).take
    count).getLast?.map Prod.fst
  amountRefunded := s.refundedAfter paymentIntent count failed
  refunded := (s.intents.get? paymentIntent).any fun i =>
    i.amount == s.refundedAfter paymentIntent count failed

/-- A local refund, as the services that refund a rider make it. -/
def refundLocally (c : RefundCase) (amount : ℤ) : Service Unit := do
  let _ ← refundPaymentIntent c.paymentIntent (toMinorCurrencyUnits amount)
  let _ ← markBookingPaymentRefunded c.bookingId c.driverId (some amount)

/-- The call that a step makes, if it makes one; deliveries are about what Stripe has done by then. -/
def RefundCase.service (c : RefundCase) (s : Stripe) : RefundStep → Service Unit
  | .refundLocally amount => refundLocally c amount
  | .refundEvent refund status =>
    match s.refunds.get? refund with
    | some r =>
      if r.paymentIntent = c.paymentIntent ∧ (status.isFailure = true → r.failed = true) then
        applyRefundUpdated ⟨refund, some c.paymentIntent, r.amount, status⟩
      else return ()
    | none => return ()
  | .chargeEvent count failed =>
    if 0 < s.refundedAfter c.paymentIntent count failed then
      applyChargeRefunded (s.chargeObject c.paymentIntent count failed)
    else return ()
  | .refundFails _ => return ()

/-- The world after a step, whether or not its call threw. -/
def RefundCase.step (c : RefundCase) (w : World) (x : RefundStep) : World :=
  match x with
  | .refundFails refund => { w with stripe := w.stripe.failRefund refund }
  | x => ((c.service w.stripe x).eval w).2

/-- Whether a delivery tells the payment service that money has gone back. -/
def RefundStep.marks (c : RefundCase) (s : Stripe) : RefundStep → Bool
  | .refundLocally _ => false
  | .refundEvent refund status =>
    status == .succeeded &&
      (s.refunds.get? refund).any fun r => r.paymentIntent == c.paymentIntent
  | .chargeEvent count failed =>
    decide (0 < s.refundedAfter c.paymentIntent count failed) &&
      (s.chargeObject c.paymentIntent count failed).refunded
  | .refundFails _ => false

/-- The condition on a step, in terms of the state before it. A local refund that Stripe accepts
finds the payment in a status from which it is recorded, and overdraws neither the fare nor the
fee. A delivery that tells of a refund finds the payment in a status from which it is not recorded
again. No refund of the intent fails, unless it has failed before. -/
def RefundStep.Harmless (c : RefundCase) (w : World) (x : RefundStep) : Prop :=
  ∀ p, w.db.payments.get? c.paymentId = some p →
    match x with
    | .refundLocally amount =>
      w.stripe.acceptsRefund c.paymentIntent amount = true →
        p.status.refundable = true ∧
        (p.refundedWith (p.splitRefund amount)).fareRefundAmount ≤ p.fareAmount ∧
        (p.refundedWith (p.splitRefund amount)).feeRefundAmount ≤ p.platformFeeAmount
    | .refundFails refund =>
      ∀ r, w.stripe.refunds.get? refund = some r → r.standsFor c.paymentIntent = false
    | x => x.marks c w.stripe = true → p.status.refundable = false

/-! ## What marking a refund does to the records -/

section Marking

variable {c : RefundCase} {w : World} {p : Payment} {amount : ℤ}

/-- The world after `markRefunded` of a case's payment. -/
def RefundCase.marked (c : RefundCase) (w : World) (p : Payment) (amount : ℤ) : World :=
  if p.status.refundable then w.withRefund c.paymentId c.driverId p amount else w

theorem markRefunded_world (hp : w.db.payments.get? c.paymentId = some p) (amount : ℤ) :
    ((markRefunded c.paymentId c.driverId (some amount)).eval w).2 = c.marked w p amount := by
  unfold RefundCase.marked
  by_cases hr : p.status = .refunded
  · rw [markRefunded_eval_of_refunded c.driverId hp hr, hr]
    rfl
  by_cases hs : p.status.refundable = true
  · obtain ⟨updated, h⟩ := markRefunded_eval_of_refundable c.driverId hp hs (some amount)
    rw [h, if_pos hs]
    rfl
  · have hs' : p.status.refundable = false := by simpa using hs
    rw [markRefunded_eval_of_refused c.driverId hp hr hs', if_neg hs]

theorem RefundCase.Linked.findPayment (hl : c.Linked w)
    (hp : w.db.payments.get? c.paymentId = some p) :
    (findPaymentOfBooking c.bookingId).answer w.db = some (c.paymentId, p) := by
  obtain ⟨q, hq, hb⟩ := hl.payment
  rw [hp] at hq
  cases hq
  refine Table.head?_filter_eq hp (by simpa using hb) fun j s hj hs => ?_
  exact hl.payment_unique j s hj (by simpa using hs)

theorem RefundCase.Linked.findBooking (hl : c.Linked w) :
    (findBookingOfIntent c.paymentIntent).answer w.db = some (c.bookingId, c.driverId) := by
  obtain ⟨b, hb, hthrough, ride, hride, hdriver⟩ := hl.booking
  have hfirst := Table.head?_filter_eq (P := fun _ b => b.paidThrough c.paymentIntent) hb hthrough
    fun j s hj hs => hl.booking_unique j s hj hs
  simp [findBookingOfIntent, hfirst, hride, hdriver]

theorem markBookingPaymentRefunded_world (hl : c.Linked w)
    (hp : w.db.payments.get? c.paymentId = some p) (amount : ℤ) :
    ((markBookingPaymentRefunded c.bookingId c.driverId (some amount)).eval w).2 =
      c.marked w p amount := by
  unfold markBookingPaymentRefunded
  simp only [Program.bind_eq]
  rw [Service.eval_bind_ok (Service.eval_sql _ w), hl.findPayment hp, ← markRefunded_world hp]
  exact Service.eval_bind_ret_snd _ _ _

theorem markIntentRefunded_world (hl : c.Linked w)
    (hp : w.db.payments.get? c.paymentId = some p) (amount : ℤ) :
    ((markIntentRefunded c.paymentIntent amount).eval w).2 = c.marked w p amount := by
  unfold markIntentRefunded
  simp only [Program.bind_eq]
  rw [Service.eval_bind_ok (Service.eval_sql _ w), hl.findBooking,
    ← markBookingPaymentRefunded_world hl hp]
  exact Service.eval_bind_ret_snd _ _ _

/-- Recording a refund of a positive amount adds it to the ledger, and to the row up to the fare
and the fee. -/
theorem refundsRecorded_withRefund {w' : World}
    (hp : w'.db.payments.get? c.paymentId = some p) :
    RefundsRecorded c (w'.withRefund c.paymentId c.driverId p amount) ↔
      min p.fareAmount (p.refundedWith (p.splitRefund amount)).fareRefundAmount +
          min p.platformFeeAmount (p.refundedWith (p.splitRefund amount)).feeRefundAmount =
        w'.stripe.refundedOf c.paymentIntent ∧
      ledgerTotalOf w'.db.ledger c.paymentId .refundToRider + amount =
        w'.stripe.refundedOf c.paymentIntent := by
  have hentries : ∀ group, ledgerTotalOf (refundEntries group (p.subject c.paymentId c.driverId)
      amount (p.splitRefund amount)) c.paymentId .refundToRider = amount :=
    fun group => ledgerTotalOf_refund group (p.subject c.paymentId c.driverId) amount _
  simp [RefundsRecorded, World.withRefund, hp, hentries, Payment.afterRefund]

end Marking

/-! ## One step -/

section Step

variable {c : RefundCase} {w : World} {p : Payment}

/-- The world with the bookings of an intent changed. -/
def World.withBookingsOf (w : World) (paymentIntent : ℕ) (f : Booking → Booking) : World :=
  { w with db := { w.db with
    bookings := w.db.bookings.modifyWhere
      (fun id _ => w.db.bookings.holds (fun _ b => b.paidThrough paymentIntent) id) f } }

/-- Copying refund data onto bookings leaves the rows of a case linked. -/
theorem RefundCase.Linked.withBookingsOf (hl : c.Linked w) {f : Booking → Booking}
    (hintent : ∀ b, (f b).stripePaymentIntentId = b.stripePaymentIntentId)
    (hride : ∀ b, (f b).rideId = b.rideId) (paymentIntent : ℕ) :
    c.Linked (w.withBookingsOf paymentIntent f) := by
  have hthrough : ∀ b i, (f b).paidThrough i = b.paidThrough i := by
    intro b i
    simp [Booking.paidThrough, hintent]
  obtain ⟨b, hb, hbt, ride, hr, hd⟩ := hl.booking
  refine ⟨hl.payment, hl.payment_unique, ?_, ?_, hl.refunds_pos⟩
  · simp only [World.withBookingsOf, Table.get?_modifyWhere, hb, Option.map_some,
      Option.some.injEq, exists_eq_left']
    split_ifs
    · exact ⟨(hthrough b _).trans hbt, ride, (hride b).symm ▸ hr, hd⟩
    · exact ⟨hbt, ride, hr, hd⟩
  · intro id b' hb' ht'
    simp only [World.withBookingsOf, Table.get?_modifyWhere, Option.map_eq_some_iff] at hb'
    obtain ⟨b₀, hb₀, rfl⟩ := hb'
    refine hl.booking_unique id b₀ hb₀ ?_
    split_ifs at ht'
    · exact (hthrough b₀ _).symm.trans ht'
    · exact ht'

/-- Marking a refund leaves the rows of a case linked. -/
theorem RefundCase.Linked.marked (hl : c.Linked w) (hp : w.db.payments.get? c.paymentId = some p)
    (amount : ℤ) : c.Linked (c.marked w p amount) := by
  unfold RefundCase.marked
  split_ifs
  · have hb : p.bookingId = c.bookingId := by
      obtain ⟨q, hq, hb⟩ := hl.payment
      rw [hp] at hq
      cases hq
      exact hb
    refine ⟨⟨p.afterRefund (p.splitRefund amount) w.now p, by simp [World.withRefund, hp], hb⟩,
      fun id q hq hqb => ?_, hl.booking, hl.booking_unique, hl.refunds_pos⟩
    by_contra hne
    have hq' : w.db.payments.get? id = some q := by
      simpa [World.withRefund, Table.get?_modify_ne _ _ hne] using hq
    exact hne (hl.payment_unique id q hq' hqb)
  · exact hl

/-- A refund made at Stripe leaves the rows of a case linked. -/
theorem RefundCase.Linked.withStripeRefund (hl : c.Linked w) {amount : ℤ} (hpos : 0 < amount) :
    c.Linked { w with stripe := w.stripe.withRefund c.paymentIntent amount } := by
  refine ⟨hl.payment, hl.payment_unique, hl.booking, hl.booking_unique, fun id r hr => ?_⟩
  rw [Stripe.withRefund, Table.get?_insert (Table.get?_of_nextKey_le le_rfl)] at hr
  split_ifs at hr with hid
  · cases hr
    exact hpos
  · exact hl.refunds_pos id r hr

/-- A refund that fails at Stripe leaves the rows of a case linked. -/
theorem RefundCase.Linked.failRefund (hl : c.Linked w) (refund : ℕ) :
    c.Linked { w with stripe := w.stripe.failRefund refund } := by
  refine ⟨hl.payment, hl.payment_unique, hl.booking, hl.booking_unique, fun id r hr => ?_⟩
  rw [Stripe.failRefund, Table.get?_modify] at hr
  split_ifs at hr with hid
  · obtain ⟨r₀, hr₀, rfl⟩ := Option.map_eq_some_iff.mp hr
    exact hl.refunds_pos id r₀ hr₀
  · exact hl.refunds_pos id r hr

/-- A world that differs from another at most in its bookings, and in which the case is linked. -/
structure RefundCase.SameBooks (c : RefundCase) (w w' : World) : Prop where
  payments : w'.db.payments = w.db.payments
  ledger : w'.db.ledger = w.db.ledger
  stripe : w'.stripe = w.stripe
  linked : c.Linked w'

theorem sameBooks_withBookingsOf (hl : c.Linked w) {f : Booking → Booking}
    (hintent : ∀ b, (f b).stripePaymentIntentId = b.stripePaymentIntentId)
    (hride : ∀ b, (f b).rideId = b.rideId) :
    c.SameBooks w (w.withBookingsOf c.paymentIntent f) :=
  ⟨rfl, rfl, rfl, hl.withBookingsOf hintent hride _⟩

theorem applyRefundUpdated_world (hl : c.Linked w) (hp : w.db.payments.get? c.paymentId = some p)
    (refund : ℕ) (amount : ℤ) (status : RefundStatus) :
    ∃ w', c.SameBooks w w' ∧
      ((applyRefundUpdated ⟨refund, some c.paymentIntent, amount, status⟩).eval w).2 =
        if status = .succeeded then c.marked w' p amount else w' := by
  have hsame := sameBooks_withBookingsOf hl (f := fun b =>
    { b with
      refundId := some refund
      refundAmount := some amount
      refundedAt := if status = .succeeded then some w.now else b.refundedAt })
    (fun _ => rfl) (fun _ => rfl)
  refine ⟨_, hsame, ?_⟩
  by_cases hs : status = .succeeded
  · rw [if_pos hs, ← markIntentRefunded_world hsame.linked (hsame.payments.symm ▸ hp)]
    subst hs
    rfl
  · rw [if_neg hs]
    simp only [applyRefundUpdated, if_neg hs]
    rfl

theorem applyChargeRefunded_world (hl : c.Linked w) (hp : w.db.payments.get? c.paymentId = some p)
    (charge : ChargeObject) (hc : charge.paymentIntent = some c.paymentIntent) :
    ∃ w', c.SameBooks w w' ∧
      ((applyChargeRefunded charge).eval w).2 =
        if charge.refunded then c.marked w' p charge.amountRefunded else w' := by
  have hsame := sameBooks_withBookingsOf hl (f := fun b =>
    { b with
      refundId := charge.latestRefund <|> b.refundId
      refundAmount := some charge.amountRefunded
      refundedAt := if charge.refunded then some w.now else b.refundedAt })
    (fun _ => rfl) (fun _ => rfl)
  refine ⟨_, hsame, ?_⟩
  unfold applyChargeRefunded
  rw [hc]
  by_cases hs : charge.refunded = true
  · rw [if_pos hs, ← markIntentRefunded_world hsame.linked (hsame.payments.symm ▸ hp)]
    simp only [hs, if_true]
    rfl
  · rw [if_neg hs]
    simp only [if_neg hs]
    rfl

/-- A delivery changes bookings, and marks the payment when it tells of money gone back. -/
theorem delivery_cases (hl : c.Linked w) (hp : w.db.payments.get? c.paymentId = some p)
    {x : RefundStep} (hx : ∀ amount, x ≠ .refundLocally amount)
    (hfails : ∀ refund, x ≠ .refundFails refund) :
    ∃ w' amount, 0 < amount ∧ c.SameBooks w w' ∧
      c.step w x = if x.marks c w.stripe then c.marked w' p amount else w' := by
  have hself : c.SameBooks w w := ⟨rfl, rfl, rfl, hl⟩
  cases x with
  | refundLocally amount => exact absurd rfl (hx amount)
  | refundFails refund => exact absurd rfl (hfails refund)
  | refundEvent refund status =>
    cases hr : w.stripe.refunds.get? refund with
    | none => exact ⟨w, 1, one_pos, hself, by simp [RefundCase.step, RefundCase.service,
        RefundStep.marks, hr]⟩
    | some r =>
      by_cases hi : r.paymentIntent = c.paymentIntent
      · by_cases htold : status.isFailure = true → r.failed = true
        · obtain ⟨w', hsame, hstep⟩ := applyRefundUpdated_world hl hp refund r.amount status
          refine ⟨w', r.amount, hl.refunds_pos _ _ hr, hsame, ?_⟩
          have hcall : c.service w.stripe (.refundEvent refund status) =
              applyRefundUpdated ⟨refund, some c.paymentIntent, r.amount, status⟩ := by
            simp only [RefundCase.service, hr]
            exact if_pos ⟨hi, htold⟩
          show ((c.service w.stripe (.refundEvent refund status)).eval w).2 = _
          rw [hcall, hstep]
          simp [RefundStep.marks, hr, hi]
        · -- no such delivery; one that tells of a failure would mark nothing
          have hnot : status ≠ .succeeded := by
            rintro rfl
            exact htold fun h => nomatch h
          exact ⟨w, 1, one_pos, hself, by simp [RefundCase.step, RefundCase.service,
            RefundStep.marks, hr, htold, hnot]⟩
      · exact ⟨w, 1, one_pos, hself, by simp [RefundCase.step, RefundCase.service,
          RefundStep.marks, hr, hi]⟩
  | chargeEvent count failed =>
    by_cases hpos : 0 < w.stripe.refundedAfter c.paymentIntent count failed
    · obtain ⟨w', hsame, hstep⟩ := applyChargeRefunded_world hl hp
        (w.stripe.chargeObject c.paymentIntent count failed) rfl
      refine ⟨w', _, hpos, hsame, ?_⟩
      show ((c.service w.stripe (.chargeEvent count failed)).eval w).2 = _
      rw [RefundCase.service, if_pos hpos, hstep]
      simp only [RefundStep.marks, hpos, decide_true, Bool.true_and]
      rfl
    · exact ⟨w, 1, one_pos, hself, by simp [RefundCase.step, RefundCase.service,
        RefundStep.marks, hpos]⟩

/-- A local refund is made at Stripe and then marked, or refused by Stripe and not marked. -/
theorem refundLocally_world (hl : c.Linked w) (hp : w.db.payments.get? c.paymentId = some p)
    (amount : ℤ) :
    c.step w (.refundLocally amount) =
      if w.stripe.acceptsRefund c.paymentIntent amount then
        c.marked { w with stripe := w.stripe.withRefund c.paymentIntent amount } p amount
      else w := by
  show ((refundLocally c amount).eval w).2 = _
  unfold refundLocally
  simp only [Program.bind_eq]
  have hminor := acceptsRefund_toMinorCurrencyUnits w.stripe c.paymentIntent amount
  by_cases ha : w.stripe.acceptsRefund c.paymentIntent amount = true
  · have htoMinor : toMinorCurrencyUnits amount = amount := max_eq_right (acceptsRefund_pos ha).le
    rw [if_pos ha, Service.eval_bind_ok (refundPaymentIntent_eval_ok (hminor.trans ha)), htoMinor]
    have hl' : c.Linked { w with stripe := w.stripe.withRefund c.paymentIntent amount } :=
      hl.withStripeRefund (acceptsRefund_pos ha)
    rw [← markBookingPaymentRefunded_world hl' hp]
    exact Service.eval_bind_ret_snd _ _ _
  · have ha' : w.stripe.acceptsRefund c.paymentIntent amount = false := by simpa using ha
    rw [if_neg ha, Service.eval_bind_error (refundPaymentIntent_eval_error (hminor.trans ha'))]

end Step

/-! ## Exactly the harmless steps keep the records -/

section Records

variable {c : RefundCase} {w : World}

theorem RefundCase.Linked.step (hl : c.Linked w) (x : RefundStep) : c.Linked (c.step w x) := by
  obtain ⟨p, hp, -⟩ := hl.payment
  by_cases hx : ∃ amount, x = .refundLocally amount
  · obtain ⟨amount, rfl⟩ := hx
    rw [refundLocally_world hl hp]
    split_ifs with ha
    · exact (hl.withStripeRefund (acceptsRefund_pos ha)).marked hp amount
    · exact hl
  by_cases hfails : ∃ refund, x = .refundFails refund
  · obtain ⟨refund, rfl⟩ := hfails
    exact hl.failRefund refund
  · obtain ⟨w', amount, -, hsame, hstep⟩ :=
      delivery_cases hl hp (not_exists.mp hx) (not_exists.mp hfails)
    rw [hstep]
    split_ifs
    · exact hsame.linked.marked (hsame.payments.symm ▸ hp) amount
    · exact hsame.linked

/-- A local refund that Stripe accepts keeps the records exact if and only if it is recorded, and
recorded in full. -/
theorem refundsRecorded_refundLocally (hl : c.Linked w) (h : RefundsRecorded c w) (amount : ℤ) :
    RefundsRecorded c (c.step w (.refundLocally amount)) ↔
      (RefundStep.refundLocally amount).Harmless c w := by
  obtain ⟨p, hp, hrow, hledger⟩ := h
  rw [refundLocally_world hl hp]
  simp only [RefundStep.Harmless, hp, Option.some.injEq, forall_eq']
  by_cases ha : w.stripe.acceptsRefund c.paymentIntent amount = true
  · have hpos := acceptsRefund_pos ha
    have hsplit : (p.splitRefund amount).fareRefundAmount +
        (p.splitRefund amount).feeRefundAmount = amount :=
      (resolveRefundSplit_total _ _ _).trans (max_eq_right hpos.le)
    rw [if_pos ha, RefundCase.marked]
    by_cases hs : p.status.refundable = true
    · set w' : World := { w with stripe := w.stripe.withRefund c.paymentIntent amount }
      have hp' : w'.db.payments.get? c.paymentId = some p := hp
      have hledger' : ledgerTotalOf w'.db.ledger c.paymentId .refundToRider =
        w.stripe.refundedOf c.paymentIntent := hledger
      have hrefunded : w'.stripe.refundedOf c.paymentIntent =
        w.stripe.refundedOf c.paymentIntent + amount := refundedOf_withRefund _ _ _
      -- recorded in full exactly if the cap of the row does not bite
      rw [if_pos hs, refundsRecorded_withRefund hp', hledger', hrefunded]
      simp only [ha, hs, true_and, forall_const, Payment.refundedWith]
      rw [and_true]
      constructor <;> intro hcap <;> omega
    · rw [if_neg hs]
      -- Stripe has refunded, and the row says nothing of it
      refine iff_of_false ?_ fun hh => hs (hh ha).1
      rintro ⟨q, hq, hrow', -⟩
      have hqp : q = p := Option.some.inj (hq.symm.trans hp)
      simp only [refundedOf_withRefund] at hrow'
      subst hqp
      omega
  · rw [if_neg ha]
    exact iff_of_true ⟨p, hp, hrow, hledger⟩ fun hacc => absurd hacc ha

/-- A refund that fails at Stripe keeps the records exact if and only if it had failed before, or is of
another intent: nothing takes it out of the records. -/
theorem refundsRecorded_refundFails (hl : c.Linked w) (h : RefundsRecorded c w) (refund : ℕ) :
    RefundsRecorded c (c.step w (.refundFails refund)) ↔
      (RefundStep.refundFails refund).Harmless c w := by
  obtain ⟨p, hp, hrow, hledger⟩ := h
  have hworld : c.step w (.refundFails refund) = { w with stripe := w.stripe.failRefund refund } := rfl
  rw [hworld]
  simp only [RefundStep.Harmless, hp, Option.some.injEq, forall_eq']
  cases hr : w.stripe.refunds.get? refund with
  | none =>
    have hsame := failRefund_of_none w.stripe c.paymentIntent hr
    refine iff_of_true ⟨p, hp, hrow.trans hsame.symm, hledger.trans hsame.symm⟩ ?_
    rintro r ⟨⟩
  | some r =>
    have hless := refundedOf_failRefund w.stripe c.paymentIntent hr
    have hpos := hl.refunds_pos refund r hr
    simp only [Option.some.injEq, forall_eq']
    by_cases hstands : r.standsFor c.paymentIntent = true
    · rw [if_pos hstands] at hless
      -- less is refunded at Stripe, and the ledger says what it said
      refine iff_of_false ?_ (by rw [hstands]; exact Bool.noConfusion)
      rintro ⟨q, -, -, hledger'⟩
      have hboth : w.stripe.refundedOf c.paymentIntent =
          (w.stripe.failRefund refund).refundedOf c.paymentIntent := hledger.symm.trans hledger'
      omega
    · rw [if_neg hstands, sub_zero] at hless
      exact iff_of_true ⟨p, hp, hrow.trans hless.symm, hledger.trans hless.symm⟩ (by simpa using hstands)

/-- A delivery keeps the records exact if and only if it records nothing. -/
theorem refundsRecorded_delivery (hl : c.Linked w) (h : RefundsRecorded c w) {x : RefundStep}
    (hx : ∀ amount, x ≠ .refundLocally amount) (hfails : ∀ refund, x ≠ .refundFails refund) :
    RefundsRecorded c (c.step w x) ↔ x.Harmless c w := by
  obtain ⟨p, hp, hrow, hledger⟩ := h
  obtain ⟨w', amount, hpos, hsame, hstep⟩ := delivery_cases hl hp hx hfails
  have hp' : w'.db.payments.get? c.paymentId = some p := hsame.payments.symm ▸ hp
  have hrec' : RefundsRecorded c w' :=
    ⟨p, hp', hsame.stripe.symm ▸ hrow, by rw [hsame.ledger, hsame.stripe, hledger]⟩
  have hharm : x.Harmless c w ↔ (x.marks c w.stripe = true → p.status.refundable = false) := by
    cases x with
    | refundLocally amount => exact absurd rfl (hx amount)
    | refundFails refund => exact absurd rfl (hfails refund)
    | refundEvent _ _ | chargeEvent _ _ =>
      simp only [RefundStep.Harmless, hp, Option.some.injEq, forall_eq']
  rw [hstep, hharm]
  -- the local refund has been recorded already: what a delivery records comes on top
  by_cases hm : x.marks c w.stripe = true
  · rw [if_pos hm, RefundCase.marked]
    by_cases hs : p.status.refundable = true
    · rw [if_pos hs, refundsRecorded_withRefund hp', hsame.stripe, hsame.ledger, hledger]
      exact iff_of_false (fun hh => by omega) fun hh => by simp [hs, hm] at hh
    · rw [if_neg hs]
      exact iff_of_true hrec' fun _ => by simpa using hs
  · rw [if_neg hm]
    exact iff_of_true hrec' fun hh => absurd hh hm

/-- **A step keeps the records exact if and only if it is harmless.** -/
theorem refundsRecorded_step (hl : c.Linked w) (h : RefundsRecorded c w) (x : RefundStep) :
    RefundsRecorded c (c.step w x) ↔ x.Harmless c w := by
  cases x with
  | refundLocally amount => exact refundsRecorded_refundLocally hl h amount
  | refundFails refund => exact refundsRecorded_refundFails hl h refund
  | refundEvent _ _ | chargeEvent _ _ =>
    refine refundsRecorded_delivery hl h ?_ ?_
    · rintro amount ⟨⟩
    · rintro refund ⟨⟩

/-- **Recorded refunds are real refunds in every state of a history exactly when each of its steps
is harmless.** -/
theorem refunds_recorded_iff (c : RefundCase) (w : World) (hl : c.Linked w)
    (h : RefundsRecorded c w) (steps : List RefundStep) :
    Always c.step (RefundsRecorded c) w steps ↔
      Each c.step (fun w x => x.Harmless c w) w steps :=
  always_iff_each (I := c.Linked) (fun _ x hl => hl.step x)
    (fun _ x hl h => refundsRecorded_step hl h x) hl h steps

/-! ### A payment of 10.20, fare 10.00 and fee 0.20 -/

/-- The case of the payment below. -/
def sampleCase : RefundCase where
  paymentId := 0
  bookingId := 0
  driverId := 7
  paymentIntent := 0

/-- The world in which it has been paid and nothing has been refunded. -/
def sampleWorld : World where
  db := {
    rides := .single 0 sampleRide
    bookings := .single 0 sampleBooking
    payments := .single 0 samplePayment
    ledger := paymentReceivedEntries 0 (samplePayment.subject 0 7) 1020 1000 20 }
  stripe := {
    intents := .single 0 { bookingId := some 0, amount := 1020, status := .succeeded } }

theorem sampleWorld_linked : sampleCase.Linked sampleWorld where
  payment := ⟨samplePayment, rfl, rfl⟩
  payment_unique id p hp _ := by
    by_contra hne
    simp [sampleWorld, show id ≠ 0 from hne] at hp
  booking := ⟨sampleBooking, rfl, rfl, sampleRide, rfl, rfl⟩
  booking_unique id b hb _ := by
    by_contra hne
    simp [sampleWorld, show id ≠ 0 from hne] at hb
  refunds_pos id r hr := by simp [sampleWorld] at hr

theorem sampleWorld_refundsRecorded : RefundsRecorded sampleCase sampleWorld :=
  ⟨samplePayment, rfl, rfl, rfl⟩

/-- One refund of half the charge, made locally and then delivered by Stripe, is recorded twice:
Stripe has refunded 5.10, the ledger says 10.20 and nothing is left of the driver's fare. One that
fails at Stripe stays recorded. -/
theorem refund_recorded_twice :
    sampleCase.Linked sampleWorld ∧ RefundsRecorded sampleCase sampleWorld ∧
      (let w := after sampleCase.step sampleWorld [.refundLocally 510, .refundEvent 0 .succeeded]
      w.stripe.refundedOf 0 = 510 ∧ ledgerTotalOf w.db.ledger 0 .refundToRider = 1020 ∧
        (w.db.payments.get? 0).map netFareAmount = some 0 ∧ ¬ RefundsRecorded sampleCase w) ∧
      let w := after sampleCase.step sampleWorld
        [.refundLocally 510, .refundFails 0, .refundEvent 0 .failed]
      w.stripe.refundedOf 0 = 0 ∧ ledgerTotalOf w.db.ledger 0 .refundToRider = 510 ∧
        ¬ RefundsRecorded sampleCase w := by
  refine ⟨sampleWorld_linked, sampleWorld_refundsRecorded, ⟨by decide, by decide, by decide, ?_⟩,
    by decide, by decide, ?_⟩
  · rintro ⟨p, -, -, hledger⟩
    revert hledger
    decide
  · rintro ⟨p, -, -, hledger⟩
    revert hledger
    decide

/-- A local refund on its own is harmless, and recorded exactly. -/
theorem refund_recorded_once :
    Always sampleCase.step (RefundsRecorded sampleCase) sampleWorld [.refundLocally 510] :=
  (refunds_recorded_iff sampleCase sampleWorld sampleWorld_linked sampleWorld_refundsRecorded
    [.refundLocally 510]).mpr
    ⟨fun p hp hacc => by
      obtain rfl : samplePayment = p := Option.some.inj hp
      decide, trivial⟩

end Records

end Deliivo
