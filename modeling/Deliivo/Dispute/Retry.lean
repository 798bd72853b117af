import Deliivo.Dispute.Conservation
import Deliivo.Domain.Preserves

/-!
# Retrying a settlement

A settlement that refunds is a chain of writes around one call to Stripe, any of which can fail,
and a failed settlement is retried. What a retry takes for a refund that exists already is the
first thing a refund writes, so the refund is made by the first attempt that gets past that write
or by none: it is made and recorded exactly once if that attempt also gets through the rest of the
chain, and otherwise it is lost or left unrecorded.

## Main definitions

* `attempt`: one settlement, under the replies it meets
* `RefundedExactlyOnce`: one refund at Stripe, one ledger group and one addition to the row
* `CompletesRefund`: the condition, on the replies that the attempts meet

## Main results

* `attempt_first`: what the first attempt past the write on the booking leaves behind
* `attempt_again`: every later attempt leaves the refund alone
* `settlement_retried_iff`
-/

namespace Deliivo

open History

/-! ## Attempts -/

/-- The world after one attempt of a settlement, whose steps meet the replies `o`. -/
def attempt (input : SettlementInput) (w : World) (o : ℕ → Reply) : World :=
  (Program.run world o (settleDispute input) 0 w).2.2

/-- The amounts that Stripe has refunded of an intent, one for every refund. -/
def Stripe.refundAmounts (s : Stripe) (paymentIntent : ℕ) : List ℤ :=
  (s.refunds.filter fun _ r => r.paymentIntent == paymentIntent).map fun r => r.2.amount

/-- The amounts of a payment's refund groups in the ledger. -/
def refundGroups (ledger : List LedgerEntry) (paymentId : ℕ) : List ℤ :=
  (ledger.filter fun e => e.paymentId == paymentId && e.entryType == .refundToRider).map
    (·.amount)

/-- The rider has been refunded once for the amount of a settlement, the row says so and the ledger
has one group for it; where there is nothing to refund, nothing has been. -/
def RefundedExactlyOnce (c : DisputeCase) (paymentIntent : ℕ) (refunding : Refunding)
    (w : World) : Prop :=
  let refunds := if 0 < refunding.amount then [refunding.amount] else []
  w.stripe.refundAmounts paymentIntent = refunds ∧
    refundGroups w.db.ledger c.paymentId = refunds ∧
    ∃ p, w.db.payments.get? c.paymentId = some p ∧
      (⟨p.refundedFareAmount, p.refundedFeeAmount⟩ : RefundSplit) = refunding.split

/-- The first attempt that reads the dispute and writes its refund on the booking, its first two
steps, also makes and records the refund, its next five. -/
def CompletesRefund : List (ℕ → Reply) → Prop
  | [] => False
  | o :: attempts =>
    if o 0 = .ok ∧ o 1 = .ok then ∀ k < 5, o (2 + k) = .ok else CompletesRefund attempts

/-! ## The setting -/

/-- A dispute that can be settled, of a booking whose payment was captured at Stripe in full and of
which nothing has been refunded. -/
structure DisputeCase.Refundable (c : DisputeCase) (paymentIntent disputeId : ℕ)
    (view : DisputeView) (p : Payment) (w : World) : Prop where
  linked : c.Linked w
  payment : w.db.payments.get? c.paymentId = some p
  view_eq : viewDispute w.db disputeId = some view
  bookingId : view.bookingId = c.bookingId
  settleable : view.dispute.status.settleable = true
  captured : view.booking.stripePaymentIntentId = some paymentIntent ∧
    view.booking.paymentCapturedAt.isSome = true
  succeeded : ∃ intent, w.stripe.intents.get? paymentIntent = some intent ∧
    intent.status = .succeeded ∧ p.amountTotal ≤ intent.amount
  row : p.refundedFareAmount = 0 ∧ p.refundedFeeAmount = 0
  ledger : refundGroups w.db.ledger c.paymentId = []
  refunds : w.stripe.refundAmounts paymentIntent = []

/-! ## Attempts that refund nothing -/

section Again

variable {c : DisputeCase} {x w : World} {input : SettlementInput}

/-- `w` has the refunds of a case as `x` has them, and the same bookings. -/
structure DisputeCase.Retains (c : DisputeCase) (disputeId : ℕ) (x w : World) : Prop where
  linked : c.Linked w
  dispute : ∃ d, w.db.disputes.get? disputeId = some d ∧ d.bookingId = c.bookingId
  row : ∃ p p', x.db.payments.get? c.paymentId = some p ∧
    w.db.payments.get? c.paymentId = some p' ∧ p'.toPaymentSplit = p.toPaymentSplit ∧
    p'.refundedFareAmount = p.refundedFareAmount ∧ p'.refundedFeeAmount = p.refundedFeeAmount
  ledger : w.db.ledger = x.db.ledger
  stripe : w.stripe = x.stripe
  bookings : w.db.bookings = x.db.bookings

/-- No settlement of the dispute refunds anything any more: the booking shows a refund, or there is
nothing to refund. -/
def SettlementInput.RefundsNothing (input : SettlementInput) (c : DisputeCase) (x : World) : Prop :=
  ∀ p b, x.db.payments.get? c.paymentId = some p → x.db.bookings.get? c.bookingId = some b →
    b.existingRefund = true ∨
      percentOf p.amountTotal (input.resolution.refundPercent input.refundPercent) ≤ 0

theorem DisputeCase.Retains.preserves_writeSettledPayment (payment : Payment)
    (f : Payment → Payment)
    (hf : ∀ p, (f p).toPaymentSplit = p.toPaymentSplit ∧ (f p).bookingId = p.bookingId ∧
      (f p).refundedFareAmount = p.refundedFareAmount ∧
      (f p).refundedFeeAmount = p.refundedFeeAmount) {disputeId : ℕ} :
    (writeSettledPayment (some (c.paymentId, payment)) f).Preserves world
      (c.Retains disputeId x) := by
  refine Program.Preserves.bind (Service.preserves_transact fun w b d hw hbody => ?_)
    fun _ => Program.preserves_ret ()
  obtain ⟨-, -, -, rfl⟩ := Service.atomic_update hbody
  obtain ⟨p, p', hp, hp', hsplit, hfare, hfee⟩ := hw.row
  have hlinked : c.Linked (w.withPayment c.paymentId f) := hw.linked.withPayment fun p => (hf p).2.1
  refine ⟨hlinked, hw.dispute, ⟨p, f p', hp, ?_, (hf p').1.trans hsplit, (hf p').2.2.1.trans hfare,
    (hf p').2.2.2.trans hfee⟩, hw.ledger, hw.stripe, hw.bookings⟩
  simp [payments, hp']

theorem DisputeCase.Retains.preserves_closeDispute (disputeId now : ℕ) (status : DisputeStatus) :
    (closeDispute disputeId now status).Preserves world (c.Retains disputeId x) := by
  refine Program.Preserves.bind (Service.preserves_update fun w hw => ?_) fun _ =>
    Service.preserves_notify.bind fun _ => Service.preserves_notify.bind fun _ =>
      Service.preserves_notify
  obtain ⟨d, hd, hdb⟩ := hw.dispute
  refine ⟨⟨hw.linked.payment, hw.linked.payment_unique, hw.linked.booking⟩, ?_, hw.row, hw.ledger,
    hw.stripe, hw.bookings⟩
  exact ⟨{ d with status, resolvedAt := if status = .escalated then none else some now },
    by simp [disputes, hd], hdb⟩

/-- What follows the refund of a settlement leaves the refunds alone. -/
theorem preserves_settled (payment : Payment) (refunding : Refunding) (resolution : Resolution)
    (disputeId now : ℕ) (status : DisputeStatus) :
    Program.Preserves world (c.Retains disputeId x)
      ((writeSettledPayment (some (c.paymentId, payment)) (refunding.settle now resolution)).bind
        fun _ => closeDispute disputeId now status) := by
  have hwrite : Program.Preserves world (c.Retains disputeId x)
      (writeSettledPayment (some (c.paymentId, payment)) (refunding.settle now resolution)) :=
    DisputeCase.Retains.preserves_writeSettledPayment payment (refunding.settle now resolution)
      fun _ => ⟨rfl, rfl, rfl, rfl⟩
  exact hwrite.bind fun _ => DisputeCase.Retains.preserves_closeDispute disputeId now status

/-- **An attempt that finds nothing to refund leaves the refunds alone, however it ends.** -/
theorem attempt_again (href : input.refunds = true) (hx : input.RefundsNothing c x)
    (hw : c.Retains input.disputeId x w) (o : ℕ → Reply) :
    c.Retains input.disputeId x (attempt input w o) := by
  refine Program.wp_run (Q := fun _ => c.Retains input.disputeId x) ?_ o 0
  unfold settleDispute
  refine Program.Wp.bind (Service.wp_transact ?_ fun _ => hw)
  intro b d hbody
  obtain ⟨rfl, rfl⟩ := Prod.mk.injEq .. ▸ Except.ok.inj hbody
  obtain ⟨p, p', hp, hp', hsplit, -, -⟩ := hw.row
  obtain ⟨dispute, hd, hdb⟩ := hw.dispute
  obtain ⟨view, hview, rfl, hid, hb, hpayment⟩ := hw.linked.view hp' hd hdb
  simp only [hview]
  by_cases hs : view.dispute.status.settleable = true
  swap
  · rw [if_neg hs]
    exact hw
  rw [if_pos hs]
  have hm : ¬ view.makesRefund (input.refunding view) = true := by
    have hnothing := hx p view.booking hp (hw.bookings ▸ hb)
    rw [← hsplit, ← refunding_amount hpayment] at hnothing
    simp only [DisputeView.makesRefund, Bool.and_eq_true, decide_eq_true_eq, Bool.not_eq_true',
      not_and, Bool.not_eq_false]
    intro hpos
    exact hnothing.resolve_right (not_le.mpr hpos)
  obtain ⟨status, hsettle⟩ := @settleViewed_of_refunds _ view href w.now
  rw [hsettle, settleRefund]
  simp only [if_neg hm, hpayment]
  exact preserves_settled p' _ _ _ _ _ w hw

end Again

/-! ## The attempt that makes the refund -/

section First

variable {c : DisputeCase} {paymentIntent disputeId : ℕ} {view : DisputeView} {p : Payment}
  {x w : World} {input : SettlementInput} {refunding : Refunding}

/-- A world in which a settlement of the case has written its refund on the booking. -/
structure DisputeCase.Announced (c : DisputeCase) (disputeId : ℕ) (x : World) : Prop where
  linked : c.Linked x
  dispute : ∃ d, x.db.disputes.get? disputeId = some d ∧ d.bookingId = c.bookingId
  booking : ∃ b, x.db.bookings.get? c.bookingId = some b ∧ b.existingRefund = true

theorem DisputeCase.Announced.refundsNothing (h : c.Announced disputeId x)
    (input : SettlementInput) : input.RefundsNothing c x := by
  intro p b _ hb
  obtain ⟨b', hb', hexist⟩ := h.booking
  rw [hb] at hb'
  cases hb'
  exact Or.inl hexist

theorem DisputeCase.Announced.retains (h : c.Announced disputeId x) :
    c.Retains disputeId x x := by
  obtain ⟨p, hp, -⟩ := h.linked.payment
  exact ⟨h.linked, h.dispute, ⟨p, p, hp, hp, rfl, rfl, rfl⟩, rfl, rfl, rfl⟩

/-- What settles whether a rider has been refunded exactly once is retained. -/
theorem DisputeCase.Retains.exactlyOnce_iff (h : c.Retains disputeId x w) :
    RefundedExactlyOnce c paymentIntent refunding w ↔
      RefundedExactlyOnce c paymentIntent refunding x := by
  obtain ⟨p, p', hp, hp', -, hfare, hfee⟩ := h.row
  simp only [RefundedExactlyOnce, h.stripe, h.ledger, hp, hp', Option.some.injEq, exists_eq_left',
    hfare, hfee]

theorem not_exactlyOnce_of_refunds (hpos : 0 < refunding.amount)
    (h : x.stripe.refundAmounts paymentIntent = []) :
    ¬ RefundedExactlyOnce c paymentIntent refunding x := by
  rintro ⟨hrefunds, -⟩
  simp [h, hpos] at hrefunds

theorem not_exactlyOnce_of_ledger (hpos : 0 < refunding.amount)
    (h : refundGroups x.db.ledger c.paymentId = []) :
    ¬ RefundedExactlyOnce c paymentIntent refunding x := by
  rintro ⟨-, hledger, -⟩
  simp [h, hpos] at hledger

theorem not_exactlyOnce_of_row {row : Payment} (hpos : 0 < refunding.split.total)
    (hrow : x.db.payments.get? c.paymentId = some row)
    (h : row.refundedFareAmount = 0 ∧ row.refundedFeeAmount = 0) :
    ¬ RefundedExactlyOnce c paymentIntent refunding x := by
  rintro ⟨-, -, p, hp, hsplit⟩
  rw [hrow] at hp
  cases hp
  simp [← hsplit, RefundSplit.total, h.1, h.2] at hpos

theorem refundAmounts_withRefund (s : Stripe) (paymentIntent : ℕ) (amount : ℤ) :
    (s.withRefund paymentIntent amount).refundAmounts paymentIntent =
      s.refundAmounts paymentIntent ++ [amount] := by
  simp [Stripe.refundAmounts, Stripe.withRefund, Table.filter]

theorem refundGroups_append (ledger es : List LedgerEntry) (paymentId : ℕ) :
    refundGroups (ledger ++ es) paymentId =
      refundGroups ledger paymentId ++ refundGroups es paymentId := by
  simp [refundGroups]

theorem refundGroups_refundEntries (group : ℕ) (subject : LedgerSubject) (refund : ℤ)
    (split : RefundSplit) :
    refundGroups (refundEntries group subject refund split) subject.paymentId = [refund] := by
  unfold refundGroups refundEntries
  split_ifs <;> simp

/-- Recording the one refund that Stripe has made leaves it recorded once. -/
theorem exactlyOnce_refundSettled {row : Payment} {now : ℕ} {refundId : Option ℕ}
    (hpos : 0 < refunding.amount)
    (hrefunds : x.stripe.refundAmounts paymentIntent = [refunding.amount])
    (hledger : refundGroups x.db.ledger c.paymentId = [])
    (hrow : x.db.payments.get? c.paymentId = some row)
    (hzero : row.refundedFareAmount = 0 ∧ row.refundedFeeAmount = 0) :
    RefundedExactlyOnce c paymentIntent refunding
      (x.refundSettled view now c.paymentId p refunding refundId) := by
  have hgroup := refundGroups_refundEntries (x.refundMarked view now refundId).db.freshId
    (view.subject c.paymentId p) refunding.amount refunding.split
  unfold RefundedExactlyOnce
  rw [if_pos hpos]
  refine ⟨hrefunds, ?_, row.addRefund refunding.split, ?_, ?_⟩
  · show refundGroups (x.db.ledger ++ _) c.paymentId = _
    rw [refundGroups_append, hledger, List.nil_append]
    exact hgroup
  · simp [World.refundSettled, World.refundBooked, World.refundMarked, World.withBooking, hrow]
  · simp [Payment.addRefund, hzero.1, hzero.2]

/-- Stripe accepts the refund of a charge of which nothing has been refunded. -/
theorem DisputeCase.Refundable.accepts (h : c.Refundable paymentIntent disputeId view p w)
    {amount : ℤ} (hpos : 0 < amount) (hle : amount ≤ p.amountTotal) :
    w.stripe.acceptsRefund paymentIntent amount = true := by
  obtain ⟨intent, hintent, hsucceeded, htotal⟩ := h.succeeded
  have hnone : w.stripe.refundedOf paymentIntent = 0 := by
    have hnever := List.filter_eq_nil_iff.mp (List.map_eq_nil_iff.mp h.refunds)
    refine List.tally_eq_zero fun r hr => ?_
    have hother : (r.2.paymentIntent == paymentIntent) = false := by simpa using hnever r hr
    rw [StripeRefund.standsFor, hother, Bool.false_and]
  simp only [Stripe.acceptsRefund, hintent, hsucceeded, hnone, beq_self_eq_true, Bool.true_and,
    Bool.and_eq_true, decide_eq_true_eq]
  omega

/-- The call to Stripe under any reply: it is made if it takes place, and it returns if its answer
arrives. -/
theorem refundAtStripe_run {o : ℕ → Reply} {n : ℕ} {amount : ℤ}
    (hintent : view.booking.stripePaymentIntentId = some paymentIntent)
    (hcaptured : view.booking.paymentCapturedAt.isSome = true)
    (haccepts : w.stripe.acceptsRefund paymentIntent amount = true) :
    Program.run world o (refundAtStripe view amount) n w =
      match o n with
      | .ok => (.ok (some w.stripe.refunds.nextKey), n + 1,
          { w with stripe := w.stripe.withRefund paymentIntent amount })
      | .lost => (.error .unavailable, n + 1,
          { w with stripe := w.stripe.withRefund paymentIntent amount })
      | .refused => (.error .unavailable, n + 1, w) := by
  obtain ⟨capturedAt, hat⟩ := Option.isSome_iff_exists.mp hcaptured
  have hminor : toMinorCurrencyUnits amount = amount := max_eq_right (acceptsRefund_pos haccepts).le
  simp only [refundAtStripe, hintent, hat, hminor, refundPaymentIntent, Program.perform,
    Program.bind_eq, Program.step_bind, Program.run_step, world]
  cases o n <;> simp [Call.exec, Stripe.createRefund, haccepts]

/-- What was read is what is there. -/
theorem DisputeCase.Refundable.read (h : c.Refundable paymentIntent disputeId view p w) :
    w.db.bookings.get? view.bookingId = some view.booking ∧
      view.payment = some (c.paymentId, p) := by
  obtain ⟨hd, hdb⟩ := viewDispute_eq_some h.view_eq
  obtain ⟨v, hv, -, hid, hb, hpayment⟩ := h.linked.view h.payment hd (hdb.trans h.bookingId)
  rw [h.view_eq] at hv
  cases hv
  exact ⟨hid ▸ hb, hpayment⟩

/-- The first write of a refund announces it. -/
theorem DisputeCase.Refundable.announced (h : c.Refundable paymentIntent disputeId view p w)
    (hpos : 0 < refunding.amount) (resolution : Resolution) :
    c.Announced disputeId (w.withBooking c.bookingId (refunding.writeOn resolution)) := by
  have hlinked : c.Linked (w.withBooking c.bookingId (refunding.writeOn resolution)) :=
    h.linked.withBooking fun _ => rfl
  obtain ⟨b, ride, hb, -⟩ := h.linked.booking
  obtain ⟨hd, hdb⟩ := viewDispute_eq_some h.view_eq
  refine ⟨hlinked, ⟨view.dispute, hd, hdb.trans h.bookingId⟩, refunding.writeOn resolution b,
    by simp [World.withBooking, hb], ?_⟩
  simp [Booking.existingRefund, Refunding.writeOn, hpos.ne']

theorem DisputeCase.Announced.withPayment (h : c.Announced disputeId x) (f : Payment → Payment)
    (hf : ∀ p, (f p).bookingId = p.bookingId) :
    c.Announced disputeId (x.withPayment c.paymentId f) :=
  ⟨h.linked.withPayment hf, h.dispute, h.booking⟩

theorem DisputeCase.Announced.withStripe (h : c.Announced disputeId x) (s : Stripe) :
    c.Announced disputeId { x with stripe := s } :=
  ⟨h.linked.withStripe s, h.dispute, h.booking⟩

theorem DisputeCase.Announced.withEntries (h : c.Announced disputeId x) (es : List LedgerEntry) :
    c.Announced disputeId (x.withEntries es) :=
  ⟨⟨h.linked.payment, h.linked.payment_unique, h.linked.booking⟩, h.dispute, h.booking⟩

theorem DisputeCase.Announced.refundMarked (h : c.Announced disputeId x)
    (hid : view.bookingId = c.bookingId) (now : ℕ) (refundId : Option ℕ) :
    c.Announced disputeId (x.refundMarked view now refundId) := by
  obtain ⟨b, hb, -⟩ := h.booking
  unfold World.refundMarked
  rw [hid]
  exact ⟨h.linked.withBooking fun _ => rfl, h.dispute,
    { b with refundId := refundId <|> b.refundId, refundedAt := some now },
    by simp [World.withBooking, hb], by simp [Booking.existingRefund]⟩

/-- **The attempt that announces a refund makes and records it, or leaves it unmade or unrecorded
for good.** -/
theorem makeRefund_run (h : c.Refundable paymentIntent disputeId view p w)
    (hpos : 0 < (input.refunding view).amount)
    (hle : (input.refunding view).amount ≤ p.amountTotal) {o : ℕ → Reply} {n : ℕ}
    (ho : o n = .ok) (now : ℕ) :
    ∃ r m x, Program.run world o (makeRefund view now input.resolution (input.refunding view)) n w =
        (r, m, x) ∧ c.Announced disputeId x ∧
      (RefundedExactlyOnce c paymentIntent (input.refunding view) x ↔
        ∀ k < 5, o (n + 1 + k) = .ok) := by
  obtain ⟨hb, hview⟩ := h.read
  have hid := h.bookingId
  set r := input.refunding view
  have hsplit : 0 < r.split.total :=
    lt_of_lt_of_eq hpos ((resolveRefundSplit_total _ _ _).trans (max_eq_right hpos.le)).symm
  set w₁ := w.withBooking view.bookingId (r.writeOn input.resolution) with hw₁
  set w₂ := w.refundAnnounced view c.paymentId input.resolution r with hw₂
  have ha₁ : c.Announced disputeId w₁ := by
    rw [hw₁, hid]
    exact h.announced hpos input.resolution
  have ha₂ : c.Announced disputeId w₂ := ha₁.withPayment _ fun _ => rfl
  unfold makeRefund
  simp only [Program.bind_eq]
  rw [Program.run_bind]
  -- the two writes before the call to Stripe
  rcases (announceRefund_straight hview hb h.payment).run_cases o n with
    ⟨hok, hrun⟩ | ⟨j, hj, -, hbad, hrun⟩
  swap
  · have hj1 : j = 1 := by
      have hj0 : j ≠ 0 := by
        rintro rfl
        exact hbad ho
      simp only [List.length_cons, List.length_nil] at hj
      omega
    subst hj1
    rw [hrun]
    exact ⟨_, _, w₁, rfl, ha₁, iff_of_false (not_exactlyOnce_of_refunds hpos h.refunds)
      fun hall => hbad (hall 0 (by omega))⟩
  have h1 : o (n + 1) = .ok := hok 1 (by simp)
  -- the call to Stripe
  have haccepts : w₂.stripe.acceptsRefund paymentIntent r.amount = true := h.accepts hpos hle
  have hstripe := refundAtStripe_run (o := o) (n := n + 2) h.captured.1 h.captured.2 haccepts
  rw [hrun, Program.resume_ok, Program.run_bind, List.length_cons, List.length_cons,
    List.length_nil, hstripe]
  cases h2 : o (n + 2) with
  | refused =>
    refine ⟨_, _, w₂, rfl, ha₂, iff_of_false (not_exactlyOnce_of_refunds hpos h.refunds) ?_⟩
    intro hall
    have := hall 1 (by omega)
    rw [h2] at this
    cases this
  | lost =>
    refine ⟨_, _, _, rfl, ha₂.withStripe _, iff_of_false (not_exactlyOnce_of_ledger hpos h.ledger) ?_⟩
    intro hall
    have := hall 1 (by omega)
    rw [h2] at this
    cases this
  | ok =>
    -- the three writes after it
    set w₃ : World := { w₂ with stripe := w₂.stripe.withRefund paymentIntent r.amount } with hw₃
    have ha₃ : c.Announced disputeId w₃ := ha₂.withStripe _
    have hb₃ : w₃.db.bookings.get? view.bookingId =
        some (r.writeOn input.resolution view.booking) := by
      simp [hw₃, hw₂, World.refundAnnounced, World.withBooking, hb]
    have hp₃ : w₃.db.payments.get? c.paymentId = some { p with status := .refundPending } := by
      simp [hw₃, hw₂, World.refundAnnounced, World.withBooking, h.payment]
    set w₄ := w₃.refundMarked view now (some w₂.stripe.refunds.nextKey) with hw₄
    set w₅ := w₄.refundBooked view c.paymentId p r with hw₅
    have ha₄ : c.Announced disputeId w₄ := ha₃.refundMarked hid _ _
    have ha₅ : c.Announced disputeId w₅ := ha₄.withEntries _
    have hunbooked : refundGroups w₄.db.ledger c.paymentId = [] := h.ledger
    have hp₅ : w₅.db.payments.get? c.paymentId = some { p with status := .refundPending } := hp₃
    simp only [Program.resume_ok]
    rcases (@recordSettledRefund_straight _ now r (some w₂.stripe.refunds.nextKey) _ _ _ _ _
      hview hb₃ hp₃).run_cases o (n + 3) with
      ⟨hok', hrun'⟩ | ⟨j, hj, -, hbad, hrun'⟩
    · rw [hrun']
      have hrefunds : w₃.stripe.refundAmounts paymentIntent = [r.amount] := by
        rw [hw₃, refundAmounts_withRefund]
        exact congrArg (· ++ [r.amount]) h.refunds
      refine ⟨_, _, _, rfl, ha₅.withPayment _ fun _ => rfl,
        iff_of_true (exactlyOnce_refundSettled hpos hrefunds h.ledger hp₃ h.row) ?_⟩
      intro k hk
      obtain rfl | rfl | hk2 : k = 0 ∨ k = 1 ∨ 2 ≤ k := by omega
      · exact h1
      · exact h2
      · have := hok' (k - 2) (by simp only [List.length_cons, List.length_nil]; omega)
        rwa [show n + 3 + (k - 2) = n + 1 + k by omega] at this
    · rw [hrun']
      have hnot : ¬ ∀ k < 5, o (n + 1 + k) = .ok := by
        intro hall
        simp only [List.length_cons, List.length_nil] at hj
        exact hbad (by
          rw [show n + 3 + j = n + 1 + (2 + j) by omega]
          exact hall (2 + j) (by omega))
      simp only [List.length_cons, List.length_nil] at hj
      obtain rfl | rfl | rfl : j = 0 ∨ j = 1 ∨ j = 2 := by omega
      · exact ⟨_, _, w₃, rfl, ha₃, iff_of_false (not_exactlyOnce_of_ledger hpos h.ledger) hnot⟩
      · exact ⟨_, _, w₄, rfl, ha₄, iff_of_false (not_exactlyOnce_of_ledger hpos hunbooked) hnot⟩
      · exact ⟨_, _, w₅, rfl, ha₅, iff_of_false (not_exactlyOnce_of_row hsplit hp₅ h.row) hnot⟩

/-- A settlement that has something to refund and finds no refund makes it, and then settles. -/
theorem settleViewed_makes (href : input.refunds = true)
    (hm : view.makesRefund (input.refunding view) = true)
    (hview : view.payment = some (c.paymentId, p)) (now : ℕ) :
    ∃ status, settleViewed input view now =
      (makeRefund view now input.resolution (input.refunding view)).bind fun _ =>
        (writeSettledPayment (some (c.paymentId, p))
          ((input.refunding view).settle now input.resolution)).bind fun _ =>
            closeDispute input.disputeId now status := by
  obtain ⟨status, hsettle⟩ := @settleViewed_of_refunds _ view href now
  refine ⟨status, ?_⟩
  rw [hsettle, settleRefund]
  simp only [if_pos hm, hview, Program.bind_eq, Program.bind_assoc]

/-- **An attempt that does not get past the write on the booking changes nothing; one that does
decides whether the rider is refunded exactly once.** -/
theorem attempt_first (h : c.Refundable paymentIntent input.disputeId view p w)
    (href : input.refunds = true) (hpos : 0 < (input.refunding view).amount)
    (hle : (input.refunding view).amount ≤ p.amountTotal)
    (hnew : view.booking.existingRefund = false) (o : ℕ → Reply) :
    (¬ (o 0 = .ok ∧ o 1 = .ok) → attempt input w o = w) ∧
      (o 0 = .ok ∧ o 1 = .ok → ∃ x, c.Announced input.disputeId x ∧
        c.Retains input.disputeId x (attempt input w o) ∧
        (RefundedExactlyOnce c paymentIntent (input.refunding view) x ↔
          ∀ k < 5, o (2 + k) = .ok)) := by
  obtain ⟨hb, hview⟩ := h.read
  have hm : view.makesRefund (input.refunding view) = true := by
    simp [DisputeView.makesRefund, hpos, hnew]
  obtain ⟨status, hsettle⟩ := settleViewed_makes href hm hview w.now
  have hread := readDispute_straight w input.disputeId
  -- once the dispute has been read the rest runs on what was read
  have hrun : o 0 = .ok → attempt input w o =
      (Program.run world o (settleViewed input view w.now) 1 w).2.2 := by
    intro h0
    unfold attempt settleDispute
    simp only [Program.bind_eq]
    rw [Program.run_bind, hread.run_single_ok h0, h.view_eq]
    simp only [Program.resume_ok, if_pos h.settleable]
  constructor
  · intro hnot
    by_cases h0 : o 0 = .ok
    · -- the first write fails, so that nothing has been written
      have h1 : o (1 + 0) ≠ .ok := fun h1 => hnot ⟨h0, h1⟩
      rw [hrun h0, hsettle, makeRefund]
      simp only [Program.bind_eq, Program.bind_assoc]
      rw [Program.run_bind, (announceRefund_straight hview hb h.payment).run_fault (j := 0)
        (by simp) (fun k hk => absurd hk (Nat.not_lt_zero k)) h1]
      rfl
    · unfold attempt settleDispute
      simp only [Program.bind_eq]
      rw [Program.run_bind, hread.run_single_fault h0]
      rfl
  · rintro ⟨h0, h1⟩
    obtain ⟨r, m, x, hmake, hx, hiff⟩ := makeRefund_run h hpos hle h1 w.now
    refine ⟨x, hx, ?_, hiff⟩
    rw [hrun h0, hsettle, Program.run_bind, hmake]
    cases r with
    | error e => exact hx.retains
    | ok a =>
      have hrest := preserves_settled (c := c) (x := x) p (input.refunding view) input.resolution
        input.disputeId w.now status
      exact Program.wp_run (hrest x hx.retains) o m

end First

/-! ## Any number of attempts -/

section Attempts

variable {c : DisputeCase} {paymentIntent : ℕ} {view : DisputeView} {p : Payment}
  {x w : World} {input : SettlementInput}

/-- Once there is nothing to refund, attempts keep the refunds as they are. -/
theorem attempts_again (href : input.refunds = true) (hx : input.RefundsNothing c x)
    (hw : c.Retains input.disputeId x w) (attempts : List (ℕ → Reply)) :
    c.Retains input.disputeId x (after (attempt input) w attempts) :=
  invariant_after (I := c.Retains input.disputeId x) (fun _ o h => attempt_again href hx h o) hw
    attempts

/-- Where nothing has been refunded and there is nothing to refund, or the booking shows a refund,
no attempt refunds anything. -/
theorem attempts_refund_nothing (h : c.Refundable paymentIntent input.disputeId view p w)
    (href : input.refunds = true)
    (hnothing : view.booking.existingRefund = true ∨ (input.refunding view).amount ≤ 0)
    (attempts : List (ℕ → Reply)) :
    RefundedExactlyOnce c paymentIntent (input.refunding view)
        (after (attempt input) w attempts) ↔ (input.refunding view).amount ≤ 0 := by
  obtain ⟨hb, hview⟩ := h.read
  obtain ⟨hd, hdb⟩ := viewDispute_eq_some h.view_eq
  have hx : input.RefundsNothing c w := by
    intro q b hq hqb
    rw [h.payment] at hq
    rw [← h.bookingId, hb] at hqb
    cases hq
    cases hqb
    rwa [← refunding_amount hview]
  have hself : c.Retains input.disputeId w w :=
    ⟨h.linked, ⟨view.dispute, hd, hdb.trans h.bookingId⟩,
      ⟨p, p, h.payment, h.payment, rfl, rfl, rfl⟩, rfl, rfl, rfl⟩
  rw [(attempts_again href hx hself attempts).exactlyOnce_iff]
  constructor
  · intro honce
    by_contra hpos
    exact not_exactlyOnce_of_refunds (not_le.mp hpos) h.refunds honce
  · intro hle
    have hsplit : (input.refunding view).split = ⟨0, 0⟩ := resolveRefundSplit_of_nonpos hle
    rw [RefundedExactlyOnce, if_neg (not_lt.mpr hle), hsplit]
    exact ⟨h.refunds, h.ledger, p, h.payment, by rw [h.row.1, h.row.2]⟩

/-- Where there is a refund to make, the first attempt past the write on the booking decides. -/
theorem attempts_completeRefund (h : c.Refundable paymentIntent input.disputeId view p w)
    (href : input.refunds = true) (hpos : 0 < (input.refunding view).amount)
    (hnew : view.booking.existingRefund = false) (attempts : List (ℕ → Reply)) :
    RefundedExactlyOnce c paymentIntent (input.refunding view)
        (after (attempt input) w attempts) ↔ CompletesRefund attempts := by
  induction attempts with
  | nil => exact iff_of_false (not_exactlyOnce_of_refunds hpos h.refunds) not_false
  | cons o attempts ih =>
    obtain ⟨hunchanged, hdecides⟩ :=
      attempt_first h href hpos (refunding_amount_le h.read.2 input) hnew o
    rw [after_cons, CompletesRefund]
    by_cases ho : o 0 = .ok ∧ o 1 = .ok
    · obtain ⟨x, hx, hretains, hiff⟩ := hdecides ho
      rw [if_pos ho, ← hiff]
      exact (attempts_again href (hx.refundsNothing input) hretains attempts).exactlyOnce_iff
    · rw [if_neg ho, hunchanged ho]
      exact ih

/-- **After any number of attempts of a settlement the rider has been refunded exactly once if and
only if there is nothing to refund, or the booking shows no refund and the first attempt that
writes one on it gets through to the refunded amounts of the payment.** -/
theorem settlement_retried_iff (c : DisputeCase) (paymentIntent : ℕ) (input : SettlementInput)
    (view : DisputeView) (p : Payment) (w : World)
    (h : c.Refundable paymentIntent input.disputeId view p w) (href : input.refunds = true)
    (attempts : List (ℕ → Reply)) :
    RefundedExactlyOnce c paymentIntent (input.refunding view)
        (after (attempt input) w attempts) ↔
      (input.refunding view).amount ≤ 0 ∨
        view.booking.existingRefund = false ∧ CompletesRefund attempts := by
  by_cases hpos : 0 < (input.refunding view).amount
  swap
  · have hle : (input.refunding view).amount ≤ 0 := not_lt.mp hpos
    rw [attempts_refund_nothing h href (Or.inr hle)]
    exact iff_of_true hle (Or.inl hle)
  by_cases hexist : view.booking.existingRefund = true
  · rw [attempts_refund_nothing h href (Or.inl hexist)]
    simp [hexist]
  · have hnew : view.booking.existingRefund = false := by simpa using hexist
    rw [attempts_completeRefund h href hpos hnew]
    simp [hnew, hpos]

/-! ### A charge of 10.20, disputed -/

/-- What a settlement of the first dispute reads. -/
def sampleView : DisputeView where
  dispute := { bookingId := 0 }
  bookingId := 0
  booking := sampleBooking
  payment := some (0, samplePayment)
  ride := sampleRide

/-- The arguments that refund the whole charge. -/
def sampleSettlement : SettlementInput where
  disputeId := 0
  resolution := .refund

theorem disputedWorld_refundable :
    sampleDispute.Refundable 0 0 sampleView samplePayment (disputedWorld sampleBooking) where
  linked := disputedWorld_linked rfl
  payment := rfl
  view_eq := rfl
  bookingId := rfl
  settleable := rfl
  captured := ⟨rfl, rfl⟩
  succeeded := ⟨_, rfl, rfl, le_rfl⟩
  row := ⟨rfl, rfl⟩
  ledger := rfl
  refunds := rfl

/-- The replies to an attempt of which step `k` is refused. -/
def refusedAt (k : ℕ) : ℕ → Reply := fun j => if j = k then .refused else .ok

/-- If the refund is refused once and the settlement is retried with success, the payment counts as
refunded and the rider has been refunded nothing. -/
theorem refused_refund_is_lost :
    let w := attempt sampleSettlement (disputedWorld sampleBooking) (refusedAt 3)
    let w' := attempt sampleSettlement w fun _ => .ok
    sampleDispute.Refundable 0 0 sampleView samplePayment (disputedWorld sampleBooking) ∧
      (Program.run world (fun _ => .ok) (settleDispute sampleSettlement) 0 w).1 = .ok () ∧
      (w'.db.payments.get? 0).map (·.status) = some .refunded ∧
      w'.stripe.refundAmounts 0 = [] ∧
      ¬ RefundedExactlyOnce sampleDispute 0 (sampleSettlement.refunding sampleView) w' := by
  intro w w'
  have hnothing : w'.stripe.refundAmounts 0 = [] := by decide +kernel
  refine ⟨disputedWorld_refundable, by decide +kernel, by decide +kernel, hnothing, ?_⟩
  exact not_exactlyOnce_of_refunds (by decide +kernel) hnothing

/-- If what fails is the last write on the payment, a retry ends with the refund made once. -/
theorem refund_made_once :
    RefundedExactlyOnce sampleDispute 0 (sampleSettlement.refunding sampleView)
      (after (attempt sampleSettlement) (disputedWorld sampleBooking)
        [refusedAt 7, fun _ => .ok]) :=
  (settlement_retried_iff sampleDispute 0 sampleSettlement sampleView samplePayment
    (disputedWorld sampleBooking) disputedWorld_refundable rfl [refusedAt 7, fun _ => .ok]).mpr
    (Or.inr ⟨rfl, by
      intro k hk
      simp only [refusedAt]
      rw [if_neg (by omega)]⟩)

end Attempts

end Deliivo
