import Deliivo.Dispute.Spec
import Deliivo.Store.History

/-!
# Money under dispute settlement

The rider and the driver can each have disputes on one booking, so settlements follow one another.
A settlement that closes the payment says that nothing is left for the driver. That is true if it
makes the refund itself, and takes what is left of the fare; it is false if the settlement has
skipped its refund because the booking shows one that was smaller or was never made.

## Main definitions

* `DisputeCase.step`: one settlement of a dispute of the booking
* `DisputeCase.Paid`, `BooksAgree`: the payment has been paid, and its books agree on its refunds
* `Conserves`: a refunded payment has been refunded in full, at Stripe too
* `KeepsOwed`: a settlement that skips its refund takes nothing from the driver
* `SettlementInput.Closes`, `SettlementInput.SettlesExactly`: the condition on a settlement that closes
  the payment, in terms of the state before it

## Main results

* `paymentStatus_eq_refunded_iff`: which settlements close the payment
* `conserves_step`: what one settlement keeps
* `disputes_conserve_iff`: what a sequence of settlements keeps
-/

namespace Deliivo

open History

/-! ## Settlements of one booking -/

/-- The call of a step: the settlements of other bookings are not part of a case. -/
def DisputeCase.service (c : DisputeCase) (d : Db) (input : SettlementInput) : Service Unit :=
  if (d.disputes.get? input.disputeId).any (·.bookingId == c.bookingId) then settleDispute input
  else return ()

/-- The world after a settlement, whether or not it threw. -/
def DisputeCase.step (c : DisputeCase) (w : World) (input : SettlementInput) : World :=
  ((c.service w.db input).eval w).2

/-- The payment of a case has been paid: a booking that names an intent shows that it was captured. -/
structure DisputeCase.Paid (c : DisputeCase) (w : World) : Prop where
  linked : c.Linked w
  captured : ∀ b, w.db.bookings.get? c.bookingId = some b → b.stripePaymentIntentId.isSome = true →
    b.paymentCapturedAt.isSome = true

/-- What the ledger says has been refunded of a payment has been refunded at Stripe, if the booking was
charged there. -/
def DisputeCase.RefundedAtStripe (c : DisputeCase) (w : World) : Prop :=
  ∀ b paymentIntent, w.db.bookings.get? c.bookingId = some b →
    b.stripePaymentIntentId = some paymentIntent →
      ledgerTotalOf w.db.ledger c.paymentId .refundToRider ≤ w.stripe.refundedOf paymentIntent

/-- What the driver can still be paid: a refunded payment is never paid out. -/
def Payment.owed (payment : Payment) : ℤ :=
  if payment.status = .refunded then 0 else netFareAmount payment

/-- Whether a settlement refunds the rider, wholly or in part. -/
def SettlementInput.refunds (input : SettlementInput) : Bool :=
  input.resolution == .refund || input.resolution == .split

/-- The refunds of a payment that its row and its ledger record are the same, what has been refunded of
the fare is not negative, and Stripe has made them. -/
def BooksAgree (c : DisputeCase) (w : World) : Prop :=
  (∀ p, w.db.payments.get? c.paymentId = some p → 0 ≤ p.refundedFareAmount ∧
    ledgerTotalOf w.db.ledger c.paymentId .refundToRider =
      p.refundedFareAmount + p.refundedFeeAmount) ∧
  c.RefundedAtStripe w

/-! ## The condition -/

/-- Whether a settlement of what was read goes through to its last writes as a refund: it is one,
and its refund is skipped or Stripe does not refuse it. -/
def SettlementInput.completes (input : SettlementInput) (view : DisputeView) (s : Stripe) : Bool :=
  input.refunds && view.dispute.status.settleable &&
    !(view.makesRefund (input.refunding view) &&
      view.refundRefused s (input.refunding view).amount)

section Step

variable {c : DisputeCase} {w : World} {p : Payment} {input : SettlementInput} {view : DisputeView}

/-- What a settlement of a dispute of the case reads. -/
structure DisputeCase.Reads (c : DisputeCase) (w : World) (p : Payment) (disputeId : ℕ)
    (view : DisputeView) : Prop where
  view_eq : viewDispute w.db disputeId = some view
  bookingId : view.bookingId = c.bookingId
  booking : w.db.bookings.get? c.bookingId = some view.booking
  payment : view.payment = some (c.paymentId, p)

/-- What every settlement leaves as it is: the rows of the case name each other, and the booking the
intent that it was paid by. -/
structure DisputeCase.Frame (c : DisputeCase) (w w' : World) : Prop where
  linked : c.Linked w'
  capture : ∀ b', w'.db.bookings.get? c.bookingId = some b' →
    ∃ b, w.db.bookings.get? c.bookingId = some b ∧
      b'.stripePaymentIntentId = b.stripePaymentIntentId ∧
      b'.paymentCapturedAt = b.paymentCapturedAt

section Frame

variable {w' : World}

theorem DisputeCase.Frame.refl (hl : c.Linked w) : c.Frame w w :=
  ⟨hl, fun b hb => ⟨b, hb, rfl, rfl⟩⟩

theorem DisputeCase.Frame.withPayment (h : c.Frame w w') {f : Payment → Payment}
    (hf : ∀ p, (f p).bookingId = p.bookingId) : c.Frame w (w'.withPayment c.paymentId f) :=
  ⟨h.linked.withPayment hf, h.capture⟩

theorem DisputeCase.Frame.withDispute (h : c.Frame w w') (id : ℕ) (f : Dispute → Dispute) :
    c.Frame w (w'.withDispute id f) :=
  ⟨⟨h.linked.payment, h.linked.payment_unique, h.linked.booking⟩, h.capture⟩

theorem DisputeCase.Frame.withEntries (h : c.Frame w w') (entries : List LedgerEntry) :
    c.Frame w (w'.withEntries entries) :=
  ⟨⟨h.linked.payment, h.linked.payment_unique, h.linked.booking⟩, h.capture⟩

theorem DisputeCase.Frame.withStripe (h : c.Frame w w') (s : Stripe) :
    c.Frame w { w' with stripe := s } :=
  ⟨h.linked.withStripe s, h.capture⟩

theorem DisputeCase.Frame.withBooking (h : c.Frame w w') {id : ℕ} (hid : id = c.bookingId)
    {f : Booking → Booking} (hride : ∀ b, (f b).rideId = b.rideId)
    (hcapture : ∀ b, (f b).stripePaymentIntentId = b.stripePaymentIntentId ∧
      (f b).paymentCapturedAt = b.paymentCapturedAt) : c.Frame w (w'.withBooking id f) := by
  subst hid
  refine ⟨h.linked.withBooking hride, fun b' hb' => ?_⟩
  obtain ⟨row, hrow, rfl⟩ : ∃ row, w'.db.bookings.get? c.bookingId = some row ∧ f row = b' := by
    simpa [World.withBooking] using hb'
  obtain ⟨b, hb, hintent, hcaptured⟩ := h.capture row hrow
  exact ⟨b, hb, (hcapture row).1.trans hintent, (hcapture row).2.trans hcaptured⟩

/-- The writes of a refund, made at Stripe between them. -/
theorem DisputeCase.Frame.refundSettled (hl : c.Linked w) (hid : view.bookingId = c.bookingId)
    (s : Stripe) (now : ℕ) (resolution : Resolution) (refunding : Refunding)
    (refundId : Option ℕ) :
    c.Frame w (World.refundSettled
      { w.refundAnnounced view c.paymentId resolution refunding with stripe := s }
      view now c.paymentId p refunding refundId) := by
  have hannounced : c.Frame w (w.refundAnnounced view c.paymentId resolution refunding) :=
    ((DisputeCase.Frame.refl hl).withBooking hid (f := refunding.writeOn resolution)
      (fun _ => rfl) fun _ => ⟨rfl, rfl⟩).withPayment fun _ => rfl
  have hmarked := (hannounced.withStripe s).withBooking hid
    (f := fun b => { b with refundId := refundId <|> b.refundId, refundedAt := some now })
    (fun _ => rfl) fun _ => ⟨rfl, rfl⟩
  exact (hmarked.withEntries _).withPayment fun _ => rfl

end Frame

theorem DisputeView.amount_pos {refunding : Refunding} (h : view.makesRefund refunding = true) :
    0 < refunding.amount := by
  simp only [DisputeView.makesRefund, Bool.and_eq_true, decide_eq_true_eq] at h
  exact h.1

/-- What Stripe refunds in a settlement. -/
def SettlementInput.refundMade (input : SettlementInput) (view : DisputeView) : ℤ :=
  if view.makesRefund (input.refunding view) then (input.refunding view).amount else 0

/-- What has been refunded of a payment once a settlement has made its refund, or skipped it. -/
def SettlementInput.refundedBy (input : SettlementInput) (view : DisputeView) (payment : Payment) :
    RefundSplit :=
  if view.makesRefund (input.refunding view) then
    payment.refundedWith (input.refunding view).split
  else
    ⟨payment.refundedFareAmount, payment.refundedFeeAmount⟩

/-- What a settlement that goes through as a refund leaves: the row, the ledger with the group of
its refund, and Stripe's books with the refund itself, if it made one. -/
structure SettledFrom (c : DisputeCase) (w : World) (input : SettlementInput) (view : DisputeView)
    (p : Payment) (w' : World) : Prop where
  frame : c.Frame w w'
  payment : ∃ row, w'.db.payments.get? c.paymentId = some row ∧
    row.toPaymentSplit = p.toPaymentSplit ∧
    row.status = (input.refunding view).paymentStatus input.resolution ∧
    (⟨row.refundedFareAmount, row.refundedFeeAmount⟩ : RefundSplit) = input.refundedBy view p
  ledger : ∃ group, w'.db.ledger = w.db.ledger ++
    if view.makesRefund (input.refunding view) then
      view.entries group c.paymentId p (input.refunding view)
    else []
  stripe : w'.stripe =
    if view.makesRefund (input.refunding view) then
      view.refundedAtStripe w.stripe (input.refunding view).amount
    else w.stripe

theorem SettledFrom.withDispute {w' : World} (h : SettledFrom c w input view p w') (id : ℕ)
    (f : Dispute → Dispute) : SettledFrom c w input view p (w'.withDispute id f) :=
  ⟨h.frame.withDispute id f, h.payment, h.ledger, h.stripe⟩

/-- Closing a dispute writes its row at most. -/
theorem closeDispute_world (w : World) (id now : ℕ) (status : DisputeStatus) :
    ((closeDispute id now status).eval w).2 = w ∨
      ∃ f, ((closeDispute id now status).eval w).2 = w.withDispute id f := by
  unfold closeDispute
  simp only [Program.bind_eq]
  cases h : w.db.disputes.get? id with
  | none =>
    left
    rw [Service.eval_bind_error (Service.eval_update_none (T := disputes) h _)]
  | some d =>
    right
    rw [Service.eval_bind_ok (Service.straight_update (T := disputes) h _).eval]
    exact ⟨_, rfl⟩

/-- The statements of a settlement that goes through as a refund. -/
theorem settleRefund_eval (hl : c.Linked w) (hp : w.db.payments.get? c.paymentId = some p)
    (hview : view.payment = some (c.paymentId, p)) (hid : view.bookingId = c.bookingId)
    (hb : w.db.bookings.get? c.bookingId = some view.booking)
    (hc : input.completes view w.stripe = true) (now : ℕ) :
    ∃ w', (settleRefund view now input.resolution (input.refunding view)).eval w = (.ok (), w') ∧
      SettledFrom c w input view p w' := by
  unfold settleRefund
  simp only [Program.bind_eq]
  simp only [SettlementInput.completes, Bool.and_eq_true] at hc
  -- the refund is made, between the writes that announce and record it, or skipped
  by_cases hm : view.makesRefund (input.refunding view) = true
  · have hrefused : view.refundRefused w.stripe (input.refunding view).amount = false := by
      simpa [hm] using hc.2
    obtain ⟨refundId, hmade⟩ := @makeRefund_eval_made _ now input.resolution
      _ _ _ _ _ _ hview (hid ▸ hb) hp hrefused
    rw [if_pos hm, Service.eval_bind_ok hmade, hview]
    set r := input.refunding view
    set w₁ : World := { w.refundAnnounced view c.paymentId input.resolution r with
      stripe := view.refundedAtStripe w.stripe r.amount } with hw₁
    have hframe : c.Frame w (w₁.refundSettled view now c.paymentId p r refundId) :=
      .refundSettled hl hid _ now input.resolution r refundId
    have hrow : (w₁.refundSettled view now c.paymentId p r refundId).db.payments.get? c.paymentId =
        some (Payment.addRefund { p with status := .refundPending } r.split) := by
      simp [hw₁, World.refundSettled, World.refundBooked, World.refundMarked, World.withBooking,
        World.refundAnnounced, hp]
    refine ⟨_, (writeSettledPayment_straight hrow p _).eval, hframe.withPayment fun _ => rfl, ?_, ?_,
      ?_⟩
    · refine ⟨r.settle now input.resolution
        (Payment.addRefund { p with status := .refundPending } r.split), by simp [hrow], rfl, rfl, ?_⟩
      rw [SettlementInput.refundedBy, if_pos hm]
      rfl
    · refine ⟨(w₁.refundMarked view now refundId).db.freshId, ?_⟩
      rw [if_pos hm]
      rfl
    · rw [if_pos hm]
      rfl
  · rw [if_neg hm, hview]
    refine ⟨_, (writeSettledPayment_straight hp p _).eval,
      (DisputeCase.Frame.refl hl).withPayment fun _ => rfl, ?_, ?_, ?_⟩
    · refine ⟨(input.refunding view).settle now input.resolution p, by simp [hp], rfl, rfl, ?_⟩
      rw [SettlementInput.refundedBy, if_neg hm]
      rfl
    · refine ⟨0, ?_⟩
      rw [if_neg hm, List.append_nil]
      rfl
    · rw [if_neg hm]
      rfl

/-- What a settlement that does not go through as a refund leaves: the amounts of the row, the ledger
and Stripe's books as they were, and the payment refunded only if it was before. -/
structure NotRefunded (c : DisputeCase) (w : World) (p : Payment) (w' : World) : Prop where
  frame : c.Frame w w'
  payment : ∃ row, w'.db.payments.get? c.paymentId = some row ∧
    row.toPaymentSplit = p.toPaymentSplit ∧ (row.status = .refunded → p.status = .refunded) ∧
    row.refundedFareAmount = p.refundedFareAmount ∧ row.refundedFeeAmount = p.refundedFeeAmount
  ledger : w'.db.ledger = w.db.ledger
  stripe : w'.stripe = w.stripe

theorem NotRefunded.refl (hl : c.Linked w) (hp : w.db.payments.get? c.paymentId = some p) :
    NotRefunded c w p w :=
  ⟨.refl hl, ⟨p, hp, rfl, id, rfl, rfl⟩, rfl, rfl⟩

theorem NotRefunded.withDispute {w' : World} (h : NotRefunded c w p w') (id : ℕ)
    (f : Dispute → Dispute) : NotRefunded c w p (w'.withDispute id f) :=
  ⟨h.frame.withDispute id f, h.payment, h.ledger, h.stripe⟩

/-- A payout of the dispute refunds nothing, whether or not it is refused. -/
theorem settlePayoutResolution_eval (hl : c.Linked w)
    (hp : w.db.payments.get? c.paymentId = some p)
    (hview : view.payment = some (c.paymentId, p)) (hid : view.bookingId = c.bookingId)
    (hb : w.db.bookings.get? c.bookingId = some view.booking) (now : ℕ) :
    ∃ r w', (settlePayoutResolution view now).eval w = (r, w') ∧ NotRefunded c w p w' := by
  unfold settlePayoutResolution
  -- refused once everything has been refunded
  by_cases hpaid : view.booking.existingRefund = true ∧ 100 ≤ view.booking.refundPercent.getD 0
  · rw [if_pos hpaid]
    exact ⟨_, w, rfl, .refl hl hp⟩
  rw [if_neg hpaid]
  simp only [Program.bind_eq]
  rw [hview, Service.eval_bind_ok (writeSettledPayment_straight hp p _).eval]
  have hframe : c.Frame w (w.withPayment c.paymentId fun p =>
    { p with status := .payoutEligible, payoutEligibleAt := some now }) :=
    (DisputeCase.Frame.refl hl).withPayment fun _ => rfl
  have hbooking := @writeBooking_straight (w.withPayment c.paymentId fun p =>
    { p with status := .payoutEligible, payoutEligibleAt := some now }) view.bookingId _
    (hid ▸ hb) fun b =>
      { b with status := if view.booking.status = .disputed then .completed
                         else view.booking.status }
  refine ⟨_, _, hbooking.eval, ?_, ?_, rfl, rfl⟩
  · exact hframe.withBooking hid (fun _ => rfl) fun _ => ⟨rfl, rfl⟩
  · exact ⟨{ p with status := .payoutEligible, payoutEligibleAt := some now },
      by simp [World.withBooking, hp], rfl, by simp, rfl, rfl⟩

/-- A settlement that refunds: its refund, and the dispute closed with the status of it. -/
theorem settleViewed_of_refunds (h : input.refunds = true) (now : ℕ) :
    ∃ status, settleViewed input view now =
      (settleRefund view now input.resolution (input.refunding view)).bind fun _ =>
        closeDispute input.disputeId now status := by
  unfold settleViewed
  cases hres : input.resolution with
  | refund => exact ⟨.resolvedRefund, rfl⟩
  | split => exact ⟨.resolvedSplit, rfl⟩
  | payout | escalate => simp [SettlementInput.refunds, hres] at h

theorem settleRefund_eval_refused (hl : c.Linked w) (hp : w.db.payments.get? c.paymentId = some p)
    (hview : view.payment = some (c.paymentId, p)) (hid : view.bookingId = c.bookingId)
    (hb : w.db.bookings.get? c.bookingId = some view.booking)
    (hm : view.makesRefund (input.refunding view) = true)
    (hrefused : view.refundRefused w.stripe (input.refunding view).amount = true) (now : ℕ) :
    ∃ w', (settleRefund view now input.resolution (input.refunding view)).eval w =
        (.error .stripe, w') ∧ NotRefunded c w p w' := by
  unfold settleRefund
  simp only [Program.bind_eq]
  rw [if_pos hm, Service.eval_bind_error
    (makeRefund_eval_refused hview (hid ▸ hb) hp hrefused)]
  have hframe := (DisputeCase.Frame.refl hl).withBooking hid
    (f := (input.refunding view).writeOn input.resolution) (fun _ => rfl) fun _ => ⟨rfl, rfl⟩
  refine ⟨_, rfl, hframe.withPayment fun _ => rfl, ?_, rfl, rfl⟩
  exact ⟨{ p with status := .refundPending },
    by simp [World.refundAnnounced, World.withBooking, hp], rfl, by simp, rfl, rfl⟩

/-- **A settlement either goes through as a refund or refunds nothing.** -/
theorem step_cases (hl : c.Linked w) (hp : w.db.payments.get? c.paymentId = some p)
    (input : SettlementInput) :
    (∃ view, c.Reads w p input.disputeId view ∧ input.completes view w.stripe = true ∧
        SettledFrom c w input view p (c.step w input)) ∨
      (∀ view, viewDispute w.db input.disputeId = some view → view.bookingId = c.bookingId →
        input.completes view w.stripe = false) ∧ NotRefunded c w p (c.step w input) := by
  have hself := NotRefunded.refl hl hp
  unfold DisputeCase.step DisputeCase.service
  cases hd : w.db.disputes.get? input.disputeId with
  | none =>
    refine Or.inr ⟨fun view hview _ => ?_, hself⟩
    simp [(viewDispute_eq_some hview).1] at hd
  | some dispute =>
    by_cases hdb : dispute.bookingId = c.bookingId
    swap
    · simp only [Option.any_some, beq_iff_eq, if_neg hdb]
      refine Or.inr ⟨fun view hview hid => ?_, hself⟩
      obtain ⟨hd', hdb'⟩ := viewDispute_eq_some hview
      rw [hd] at hd'
      cases hd'
      exact absurd (hdb'.trans hid) hdb
    obtain ⟨view, hview, rfl, hid, hb, hpayment⟩ := hl.view hp hd hdb
    simp only [Option.any_some, beq_iff_eq, if_pos hdb, settleDispute, Program.bind_eq]
    rw [Service.eval_bind_ok (readDispute_straight w _).eval, hview]
    simp only [Option.some.injEq, forall_eq']
    by_cases hs : view.dispute.status.settleable = true
    swap
    · simp only [if_neg hs]
      exact Or.inr ⟨fun _ => by simp [SettlementInput.completes, hs], hself⟩
    simp only [if_pos hs]
    by_cases hc : input.completes view w.stripe = true
    · -- the refund is made and recorded, or skipped, and the payment settled
      have href : input.refunds = true := by
        simp only [SettlementInput.completes, Bool.and_eq_true] at hc
        exact hc.1.1
      obtain ⟨status, hsettle⟩ := @settleViewed_of_refunds _ view href w.now
      obtain ⟨w', heval, hw'⟩ := settleRefund_eval hl hp hpayment hid hb hc w.now
      rw [hsettle, Service.eval_bind_ok heval]
      refine Or.inl ⟨view, ⟨hview, hid, hb, hpayment⟩, hc, ?_⟩
      rcases closeDispute_world w' input.disputeId w.now status with h | ⟨f, h⟩
      · rwa [h]
      · rw [h]
        exact hw'.withDispute _ _
    refine Or.inr ⟨fun _ => by simpa using hc, ?_⟩
    by_cases href : input.refunds = true
    · -- the refund is refused by Stripe
      obtain ⟨status, hsettle⟩ := @settleViewed_of_refunds _ view href w.now
      obtain ⟨hm, hrefused⟩ : view.makesRefund (input.refunding view) = true ∧
          view.refundRefused w.stripe (input.refunding view).amount = true := by
        simpa [SettlementInput.completes, href, hs] using hc
      obtain ⟨w', heval, hw'⟩ :=
        settleRefund_eval_refused hl hp hpayment hid hb hm hrefused w.now
      rw [hsettle, Service.eval_bind_error heval]
      exact hw'
    unfold settleViewed
    cases hres : input.resolution with
    | refund | split => simp [SettlementInput.refunds, hres] at href
    | escalate =>
      simp only
      rcases closeDispute_world w input.disputeId w.now .escalated with h | ⟨f, h⟩
      · rwa [h]
      · rw [h]
        exact hself.withDispute _ _
    | payout =>
      obtain ⟨r, w', heval, hw'⟩ := settlePayoutResolution_eval hl hp hpayment hid hb w.now
      simp only [Program.bind_eq]
      cases r with
      | error e =>
        rw [Service.eval_bind_error heval]
        exact hw'
      | ok a =>
        rw [Service.eval_bind_ok heval]
        rcases closeDispute_world w' input.disputeId w.now .resolvedPayout with h | ⟨f, h⟩
        · rwa [h]
        · rw [h]
          exact hw'.withDispute _ _

/-! ### What has been refunded -/

/-- A settlement of a charge that was captured asks Stripe for its refund. -/
theorem DisputeView.captured_eq {paymentIntent : ℕ}
    (hintent : view.booking.stripePaymentIntentId = some paymentIntent)
    (hcaptured : view.booking.paymentCapturedAt.isSome = true) (s : Stripe) (amount : ℤ) :
    view.refundedAtStripe s amount = s.withRefund paymentIntent (toMinorCurrencyUnits amount) := by
  obtain ⟨capturedAt, hcapturedAt⟩ := Option.isSome_iff_exists.mp hcaptured
  simp [DisputeView.refundedAtStripe, hintent, hcapturedAt]

theorem SettlementInput.refundedBy_total (input : SettlementInput) (view : DisputeView)
    (p : Payment) : (input.refundedBy view p).total =
      p.refundedFareAmount + p.refundedFeeAmount + input.refundMade view := by
  unfold SettlementInput.refundedBy SettlementInput.refundMade
  by_cases hm : view.makesRefund (input.refunding view) = true
  · have hsplit : (input.refunding view).split.total = (input.refunding view).amount :=
      (resolveRefundSplit_total _ _ _).trans (max_eq_right (DisputeView.amount_pos hm).le)
    rw [if_pos hm, if_pos hm, ← hsplit]
    simp only [RefundSplit.total, Payment.refundedWith]
    ring
  · rw [if_neg hm, if_neg hm]
    simp [RefundSplit.total]

/-- What a settlement makes of what was read of a payment. -/
theorem DisputeView.split_eq {id : ℕ} (h : view.payment = some (id, p)) (input : SettlementInput) :
    (input.refunding view).split =
      resolveRefundSplit p.amountTotal p.fareAmount (input.refunding view).amount := by
  simp [SettlementInput.refunding, DisputeView.refunding, h]

theorem SettlementInput.refundedBy_fare_nonneg {id : ℕ} (input : SettlementInput)
    (hview : view.payment = some (id, p)) (h : 0 ≤ p.refundedFareAmount) :
    0 ≤ (input.refundedBy view p).fareRefundAmount := by
  unfold SettlementInput.refundedBy
  split_ifs
  · rw [DisputeView.split_eq hview]
    exact add_nonneg h (resolveRefundSplit_fare_nonneg p.fare_nonneg)
  · exact h

/-- The ledger group of a settlement is that of the refund made. -/
theorem SettledFrom.ledgerTotal {w' : World} (h : SettledFrom c w input view p w') :
    ledgerTotalOf w'.db.ledger c.paymentId .refundToRider =
      ledgerTotalOf w.db.ledger c.paymentId .refundToRider + input.refundMade view := by
  obtain ⟨group, hledger⟩ := h.ledger
  rw [hledger, ledgerTotalOf_append, SettlementInput.refundMade]
  by_cases hm : view.makesRefund (input.refunding view) = true
  · rw [if_pos hm, if_pos hm]
    exact congrArg _ (ledgerTotalOf_refund group (view.subject c.paymentId p) _ _)
  · rw [if_neg hm, if_neg hm]
    rfl

/-- **Stripe refunds what a settlement that goes through makes of a refund.** -/
theorem SettledFrom.refundedOf {w' : World} (h : SettledFrom c w input view p w') (hpaid : c.Paid w)
    (hread : c.Reads w p input.disputeId view) {paymentIntent : ℕ}
    (hintent : view.booking.stripePaymentIntentId = some paymentIntent) :
    w'.stripe.refundedOf paymentIntent =
      w.stripe.refundedOf paymentIntent + input.refundMade view := by
  have hcaptured := hpaid.captured _ hread.booking (by rw [hintent]; rfl)
  rw [h.stripe, SettlementInput.refundMade]
  by_cases hm : view.makesRefund (input.refunding view) = true
  · have hpos := DisputeView.amount_pos hm
    rw [if_pos hm, if_pos hm, DisputeView.captured_eq hintent hcaptured, toMinorCurrencyUnits,
      max_eq_right hpos.le, refundedOf_withRefund]
  · rw [if_neg hm, if_neg hm, add_zero]

theorem DisputeCase.Frame.paid {w' : World} (h : c.Frame w w') (hpaid : c.Paid w) : c.Paid w' := by
  refine ⟨h.linked, fun b hb hintent => ?_⟩
  obtain ⟨b₀, hb₀, heq, hcaptured⟩ := h.capture b hb
  rw [hcaptured]
  exact hpaid.captured b₀ hb₀ (heq ▸ hintent)

theorem DisputeCase.Paid.step (hpaid : c.Paid w) (input : SettlementInput) :
    c.Paid (c.step w input) := by
  obtain ⟨p, hp, -⟩ := hpaid.linked.payment
  rcases step_cases hpaid.linked hp input with ⟨view, -, -, h⟩ | ⟨-, h⟩
  · exact h.frame.paid hpaid
  · exact h.frame.paid hpaid

theorem DisputeCase.RefundedAtStripe.step (hpaid : c.Paid w) (h : c.RefundedAtStripe w)
    (input : SettlementInput) : c.RefundedAtStripe (c.step w input) := by
  obtain ⟨p, hp, -⟩ := hpaid.linked.payment
  intro b paymentIntent hb hintent
  rcases step_cases hpaid.linked hp input with ⟨view, hread, -, hsettled⟩ | ⟨-, hkept⟩
  · obtain ⟨b₀, hb₀, heq, -⟩ := hsettled.frame.capture b hb
    obtain rfl := Option.some.inj (hread.booking.symm.trans hb₀)
    have hintent₀ := heq.symm.trans hintent
    rw [hsettled.ledgerTotal, hsettled.refundedOf hpaid hread hintent₀]
    exact add_le_add_left (h _ _ hread.booking hintent₀) _
  · obtain ⟨b₀, hb₀, heq, -⟩ := hkept.frame.capture b hb
    rw [hkept.ledger, hkept.stripe]
    exact h _ _ hb₀ (heq.symm.trans hintent)

theorem BooksAgree.step (hpaid : c.Paid w) (hbooks : BooksAgree c w) (input : SettlementInput) :
    BooksAgree c (c.step w input) := by
  obtain ⟨p, hp, -⟩ := hpaid.linked.payment
  obtain ⟨hnonneg, hrow⟩ := hbooks.1 p hp
  refine ⟨fun q hq => ?_, hbooks.2.step hpaid input⟩
  rcases step_cases hpaid.linked hp input with ⟨view, hread, hc, h⟩ | ⟨-, h⟩
  · obtain ⟨row, hrow', -, -, hrefunded⟩ := h.payment
    rw [hq] at hrow'
    cases hrow'
    have htotal := input.refundedBy_total view p
    have htaken := input.refundedBy_fare_nonneg hread.payment hnonneg
    rw [← hrefunded, ← hrow, ← h.ledgerTotal] at htotal
    rw [← hrefunded] at htaken
    exact ⟨htaken, htotal.symm⟩
  · obtain ⟨row, hrow', -, -, hfare, hfee⟩ := h.payment
    rw [hq] at hrow'
    cases hrow'
    rw [h.ledger, hfare, hfee]
    exact ⟨hnonneg, hrow⟩

/-! ### What is left of the fare -/

end Step

/-! ## Sequences of settlements -/

section Sequence

variable {c : DisputeCase} {w : World}

/-- The case of the booking below. -/
def sampleDispute : DisputeCase where
  bookingId := 0
  paymentId := 0

/-- A paid booking with a dispute of its rider and one of its driver. -/
def disputedWorld (booking : Booking) : World where
  db := {
    rides := ⟨[(0, sampleRide)], by simp⟩
    bookings := ⟨[(0, booking)], by simp⟩
    payments := ⟨[(0, samplePayment)], by simp⟩
    disputes := ⟨[(0, { bookingId := 0 }), (1, { bookingId := 0 })], by simp⟩ }
  stripe := {
    intents := ⟨[(0, { bookingId := some 0, amount := 1020, status := .succeeded })], by simp⟩ }

theorem disputedWorld_linked {booking : Booking} (h : booking.rideId = 0) :
    sampleDispute.Linked (disputedWorld booking) where
  payment := ⟨samplePayment, rfl, rfl⟩
  payment_unique id p hp _ := by
    by_contra hne
    simp [disputedWorld, show id ≠ 0 from hne] at hp
  booking := ⟨booking, sampleRide, rfl, by rw [h]; rfl⟩

end Sequence

end Deliivo
