import Deliivo.Dispute.Settlement
import Deliivo.Payment.Spec

/-!
# What a settlement writes

The amount of a percentage is rounded three times, and still at most the charge, and the charge at
a hundred percent. Then one lemma per part of a settlement, for a booking that has its payment: the
database steps run straight, two before the call to Stripe and three after it.

## Main definitions

* `DisputeCase`, `DisputeCase.Linked`: a booking, its payment and its ride
* `World.refundAnnounced`, `World.refundSettled`: the worlds before and after the refund
* `DisputeView.refundedAtStripe`: Stripe's books after the refund

## Main results

* `percentOf_le`, `percentOf_whole`: the amount of a percentage
* `announceRefund_straight`, `recordSettledRefund_straight`: the parts of a refund
* `Linked.view`: what the call reads of a linked case
-/

namespace Deliivo

/-! ## The amount of a percentage -/

section Percent

variable {n k : ℤ}

/-- Rounding moves an amount by a part of it in 2^53, unless it is less than any amount of cents. -/
theorem round_between {x : ℚ} (h : x = 0 ∨ 1 / 40000 ≤ x) :
    x - x / 2 ^ 53 ≤ binary64.round x ∧ binary64.round x ≤ x + x / 2 ^ 53 := by
  have hnonneg : 0 ≤ x := by
    rcases h with rfl | hle
    · exact le_rfl
    · linarith
  have hnormal : x = 0 ∨ 2 ^ (-1022 : ℤ) ≤ |x| := by
    refine h.imp_right fun hle => ?_
    calc (2 : ℚ) ^ (-1022 : ℤ) ≤ 2 ^ (-16 : ℤ) := zpow_le_zpow_right₀ (by norm_num) (by norm_num)
      _ ≤ 1 / 40000 := by norm_num
      _ ≤ |x| := hle.trans (le_abs_self x)
  have hmoved := Binary64.abs_round_sub_le hnormal
  rw [abs_of_nonneg hnonneg, abs_le] at hmoved
  constructor <;> linarith [hmoved.1, hmoved.2]

/-- An amount of cents times a percentage, as the code multiplies them, and as it is exactly. -/
theorem amount_mul_between (hn : 0 ≤ n) (hk : 0 ≤ k) :
    let product := (n : ℚ) / 100 * k
    let amount := (amountOfCents n).value * k
    (amount = 0 ∨ 1 / 200 ≤ amount) ∧ product - product / 2 ^ 53 ≤ amount ∧
      amount ≤ product + product / 2 ^ 53 := by
  intro product amount
  have hkq : (0 : ℚ) ≤ k := by exact_mod_cast hk
  -- of nothing any percentage is nothing; otherwise the amount is a cent at least
  rcases hn.eq_or_lt with rfl | hpos
  · have hzero : (amountOfCents 0).value = 0 := by decide +kernel
    simp [amount, product, hzero]
  have hone : (1 : ℚ) ≤ n := by exact_mod_cast hpos
  obtain ⟨hlow, hhigh⟩ := round_between (x := (n : ℚ) / 100) (Or.inr (by linarith))
  refine ⟨?_, ?_, ?_⟩
  · rcases hk.eq_or_lt with rfl | hkpos
    · exact Or.inl (mul_eq_zero_of_right _ Int.cast_zero)
    · right
      have hk1 : (1 : ℚ) ≤ k := by exact_mod_cast hkpos
      have ha : 1 / 200 ≤ (amountOfCents n).value := by
        refine le_trans ?_ hlow
        norm_num
        linarith
      nlinarith
  · calc product - product / 2 ^ 53 = ((n : ℚ) / 100 - n / 100 / 2 ^ 53) * k := by ring
      _ ≤ amount := mul_le_mul_of_nonneg_right hlow hkq
  · calc amount ≤ ((n : ℚ) / 100 + n / 100 / 2 ^ 53) * k := mul_le_mul_of_nonneg_right hhigh hkq
      _ = product + product / 2 ^ 53 := by ring

/-- The three roundings of a percentage come to less than a quarter of a cent. -/
theorem abs_percent_sub_le (hn : 0 ≤ n) (hlt : n < 2 ^ 46) (hk : 0 ≤ k) (hk' : k ≤ 100) :
    |(amountOfCents n * k / (100 : ℤ)).value * 100 - n / 100 * k| ≤ 1 / 4 := by
  have hkvalue : (k : Binary64).value = k :=
    Binary64.intCast_value (abs_lt.mpr ⟨by omega, by omega⟩)
  have hvalue : ((100 : ℤ) : Binary64).value = 100 := by
    rw [Binary64.intCast_value (by decide)]
    norm_num
  rw [Binary64.div_value, Binary64.mul_value, hkvalue, hvalue]
  -- the amount is rounded, then its product, then the quotient
  obtain ⟨hsize, halow, hahigh⟩ := amount_mul_between hn hk
  set amount := (amountOfCents n).value * k
  obtain ⟨hblow, hbhigh⟩ := round_between (x := amount)
    (hsize.imp_right fun h => le_trans (by norm_num) h)
  obtain ⟨hclow, hchigh⟩ := round_between (x := binary64.round amount / 100) (by
    rcases hsize with h | h
    · left
      rw [h, FloatFormat.round_zero, zero_div]
    · right
      norm_num at hblow ⊢
      linarith)
  have hbound : (n : ℚ) / 100 * k ≤ 2 ^ 46 := by
    have hnlt : (n : ℚ) < 2 ^ 46 := by exact_mod_cast hlt
    have hkq : (0 : ℚ) ≤ k := by exact_mod_cast hk
    have hkq' : (k : ℚ) ≤ 100 := by exact_mod_cast hk'
    nlinarith
  have hnonneg : (0 : ℚ) ≤ n / 100 * k := by positivity
  rw [abs_le]
  norm_num at *
  constructor <;> linarith

/-- Rounding leaves an amount that is not above a number of cents not above it. -/
theorem round2_le {x : Binary64} (hn : 0 ≤ n) (h : x.value * 100 ≤ n + 1 / 4) : round2 x ≤ n := by
  unfold round2
  split_ifs with hneg
  · have := Rat.hundredths_nonneg (neg_nonneg.mpr hneg.le)
    omega
  · exact Rat.roundHalfUp_le_iff.mpr (by linarith)

/-- **A percentage of an amount is at most the amount.** -/
theorem percentOf_le (hn : 0 ≤ n) (hk : 0 ≤ k) (hk' : k ≤ 100) : percentOf n k ≤ n := by
  unfold percentOf
  split_ifs with hlt
  · have hclose := (abs_le.mp (abs_percent_sub_le hn ((le_abs_self n).trans_lt hlt) hk hk')).2
    have hnq : (0 : ℚ) ≤ n := by exact_mod_cast hn
    have hkq : (k : ℚ) ≤ 100 := by exact_mod_cast hk'
    refine round2_le hn ?_
    nlinarith
  · exact Int.roundDiv_le (by norm_num) (mul_le_mul_of_nonneg_left hk' hn)

theorem refundPercent_mem (resolution : Resolution) (requested : Option ℚ) :
    0 ≤ resolution.refundPercent requested ∧ resolution.refundPercent requested ≤ 100 := by
  unfold Resolution.refundPercent clampRefundPercent
  split_ifs
  · decide
  · cases requested with
    | none => decide
    | some value => exact ⟨le_min (by norm_num) (le_max_left _ _), min_le_left _ _⟩

/-- What a refund comes to depends on the charge and the percentage alone. -/
theorem refunding_amount {view : DisputeView} {id : ℕ} {p : Payment}
    (h : view.payment = some (id, p)) (input : SettlementInput) :
    (input.refunding view).amount =
      percentOf p.amountTotal (input.resolution.refundPercent input.refundPercent) := by
  simp [SettlementInput.refunding, DisputeView.refunding, h]

/-- A refund of a percentage is at most the charge. -/
theorem refunding_amount_le {view : DisputeView} {id : ℕ} {p : Payment}
    (h : view.payment = some (id, p)) (input : SettlementInput) :
    (input.refunding view).amount ≤ p.amountTotal := by
  have htotal : 0 ≤ p.amountTotal := by
    have := p.balanced
    have := p.fare_nonneg
    have := p.fee_nonneg
    omega
  obtain ⟨hnonneg, hle⟩ := refundPercent_mem input.resolution input.refundPercent
  rw [refunding_amount h]
  exact percentOf_le htotal hnonneg hle
end Percent

/-! ## The updates of a settlement -/

/-- The world with one booking row changed. -/
def World.withBooking (w : World) (id : ℕ) (f : Booking → Booking) : World :=
  { w with db := { w.db with bookings := w.db.bookings.modify id f } }

/-- The world with one dispute row changed. -/
def World.withDispute (w : World) (id : ℕ) (f : Dispute → Dispute) : World :=
  { w with db := { w.db with disputes := w.db.disputes.modify id f } }

section Updates

variable {w : World} {id : ℕ}

theorem writeBooking_straight {b : Booking} (h : w.db.bookings.get? id = some b)
    (f : Booking → Booking) :
    (writeBooking id f).Straight w [w] () (w.withBooking id f) :=
  (Service.straight_transact (b := f b) (by
    simp [Program.perform, Tx.atomic, update, bookings, h])).bind
    (f := fun _ => Program.ret ()) (.ret () _)

theorem writeSettledPayment_straight {row : Payment} (h : w.db.payments.get? id = some row)
    (payment : Payment) (f : Payment → Payment) :
    (writeSettledPayment (some (id, payment)) f).Straight w [w] () (w.withPayment id f) :=
  (writePayment_straight h payment.status fun _ => f).bind
    (f := fun _ => Program.ret ()) (.ret () _)

end Updates

/-! ## The setting -/

/-- A booking and its payment. -/
structure DisputeCase where
  bookingId : ℕ
  paymentId : ℕ

/-- The rows of a case are there and name each other, and by the unique column of the schema no
other payment names the booking. -/
structure DisputeCase.Linked (c : DisputeCase) (w : World) : Prop where
  payment : ∃ p, w.db.payments.get? c.paymentId = some p ∧ p.bookingId = c.bookingId
  payment_unique : ∀ id p, w.db.payments.get? id = some p → p.bookingId = c.bookingId →
    id = c.paymentId
  booking : ∃ b ride, w.db.bookings.get? c.bookingId = some b ∧
    w.db.rides.get? b.rideId = some ride

section Linked

variable {c : DisputeCase} {w : World} {p : Payment}

theorem DisputeCase.Linked.findPayment (hl : c.Linked w)
    (hp : w.db.payments.get? c.paymentId = some p) :
    (findPaymentOfBooking c.bookingId).answer w.db = some (c.paymentId, p) := by
  obtain ⟨q, hq, hb⟩ := hl.payment
  rw [hp] at hq
  cases hq
  refine Table.head?_filter_eq hp (by simpa using hb) fun j s hj hs => ?_
  exact hl.payment_unique j s hj (by simpa using hs)

theorem DisputeCase.Linked.withPayment (hl : c.Linked w) {f : Payment → Payment}
    (hf : ∀ p, (f p).bookingId = p.bookingId) : c.Linked (w.withPayment c.paymentId f) := by
  obtain ⟨p, hp, hb⟩ := hl.payment
  refine ⟨⟨f p, by simp [hp], (hf p).trans hb⟩, fun id q hq hqb => ?_, hl.booking⟩
  by_contra hne
  exact hne (hl.payment_unique id q (by simpa [Table.get?_modify_ne _ _ hne] using hq) hqb)

theorem DisputeCase.Linked.withBooking (hl : c.Linked w) {f : Booking → Booking}
    (hf : ∀ b, (f b).rideId = b.rideId) : c.Linked (w.withBooking c.bookingId f) := by
  obtain ⟨b, ride, hb, hr⟩ := hl.booking
  exact ⟨hl.payment, hl.payment_unique, f b, ride, by simp [World.withBooking, hb],
    (hf b).symm ▸ hr⟩

/-- A dispute of a linked booking is read with its booking, its payment and its ride. -/
theorem DisputeCase.Linked.view (hl : c.Linked w) (hp : w.db.payments.get? c.paymentId = some p)
    {disputeId : ℕ} {dispute : Dispute} (hd : w.db.disputes.get? disputeId = some dispute)
    (hdb : dispute.bookingId = c.bookingId) :
    ∃ view, viewDispute w.db disputeId = some view ∧ view.dispute = dispute ∧
      view.bookingId = c.bookingId ∧ w.db.bookings.get? c.bookingId = some view.booking ∧
      view.payment = some (c.paymentId, p) := by
  obtain ⟨b, ride, hb, hr⟩ := hl.booking
  refine ⟨⟨dispute, c.bookingId, b, some (c.paymentId, p), ride⟩, ?_, rfl, rfl, hb, rfl⟩
  simp [viewDispute, hd, hdb, hb, hr, hl.findPayment hp]

/-- Conversely, what is read of a dispute is what is there. -/
theorem viewDispute_eq_some {d : Db} {disputeId : ℕ} {view : DisputeView}
    (h : viewDispute d disputeId = some view) :
    d.disputes.get? disputeId = some view.dispute ∧ view.dispute.bookingId = view.bookingId := by
  unfold viewDispute at h
  simp only [Option.bind_eq_bind, Option.bind_eq_some_iff] at h
  obtain ⟨dispute, hd, b, -, ride, -, hview⟩ := h
  cases hview
  exact ⟨hd, rfl⟩

end Linked

theorem readDispute_straight (w : World) (disputeId : ℕ) :
    (readDispute disputeId).Straight w [w] (viewDispute w.db disputeId, w.now) w :=
  Service.straight_transact rfl

/-! ## The parts of a refund -/

section Parts

variable {view : DisputeView} {now : ℕ} {resolution : Resolution} {refunding : Refunding}
  {refundId : Option ℕ} {w : World} {paymentId : ℕ} {p row : Payment} {b : Booking}

/-- The world in which a settlement calls Stripe. -/
def World.refundAnnounced (w : World) (view : DisputeView) (paymentId : ℕ)
    (resolution : Resolution) (refunding : Refunding) : World :=
  (w.withBooking view.bookingId (refunding.writeOn resolution)).withPayment paymentId
    fun p => { p with status := .refundPending }

/-- The world with the refund of a settlement marked on its booking. -/
def World.refundMarked (w : World) (view : DisputeView) (now : ℕ) (refundId : Option ℕ) : World :=
  w.withBooking view.bookingId fun b =>
    { b with refundId := refundId <|> b.refundId, refundedAt := some now }

/-- The ledger group of a settled refund. -/
def DisputeView.entries (view : DisputeView) (group paymentId : ℕ) (payment : Payment)
    (refunding : Refunding) : List LedgerEntry :=
  refundEntries group (view.subject paymentId payment) refunding.amount refunding.split

/-- The world with a settled refund in its ledger. -/
def World.refundBooked (w : World) (view : DisputeView) (paymentId : ℕ) (payment : Payment)
    (refunding : Refunding) : World :=
  w.withEntries (view.entries w.db.freshId paymentId payment refunding)

/-- A payment with the refund of a settlement added to what has been refunded of it. -/
def Payment.addRefund (payment : Payment) (split : RefundSplit) : Payment :=
  { payment with
    refundedFareAmount := payment.refundedFareAmount + split.fareRefundAmount
    refundedFeeAmount := payment.refundedFeeAmount + split.feeRefundAmount }

/-- The world once a settlement has recorded a refund that has been made. -/
def World.refundSettled (w : World) (view : DisputeView) (now paymentId : ℕ) (payment : Payment)
    (refunding : Refunding) (refundId : Option ℕ) : World :=
  ((w.refundMarked view now refundId).refundBooked view paymentId payment refunding).withPayment
    paymentId fun p => p.addRefund refunding.split

/-- Whether Stripe refuses the refund of a settlement. -/
def DisputeView.refundRefused (view : DisputeView) (s : Stripe) (amount : ℤ) : Bool :=
  match view.booking.stripePaymentIntentId, view.booking.paymentCapturedAt with
  | some paymentIntent, some _ => !s.acceptsRefund paymentIntent amount
  | _, _ => false

/-- Stripe's books after the refund of a settlement: a refund more, if the money was captured. -/
def DisputeView.refundedAtStripe (view : DisputeView) (s : Stripe) (amount : ℤ) : Stripe :=
  match view.booking.stripePaymentIntentId, view.booking.paymentCapturedAt with
  | some paymentIntent, some _ => s.withRefund paymentIntent (toMinorCurrencyUnits amount)
  | _, _ => s

theorem DisputeCase.Linked.withStripe {c : DisputeCase} (hl : c.Linked w) (s : Stripe) :
    c.Linked { w with stripe := s } :=
  ⟨hl.payment, hl.payment_unique, hl.booking⟩

theorem announceRefund_straight (hview : view.payment = some (paymentId, p))
    (hb : w.db.bookings.get? view.bookingId = some b)
    (hrow : w.db.payments.get? paymentId = some row) :
    (announceRefund view resolution refunding).Straight w
      [w, w.withBooking view.bookingId (refunding.writeOn resolution)] ()
      (w.refundAnnounced view paymentId resolution refunding) := by
  unfold announceRefund
  rw [hview]
  have hpayment : (w.withBooking view.bookingId (refunding.writeOn resolution)).db.payments.get?
      paymentId = some row := hrow
  exact (writeBooking_straight hb _).bind (writeSettledPayment_straight hpayment p _)

theorem recordSettledRefund_straight (hview : view.payment = some (paymentId, p))
    (hb : w.db.bookings.get? view.bookingId = some b)
    (hrow : w.db.payments.get? paymentId = some row) :
    let marked := w.refundMarked view now refundId
    let booked := marked.refundBooked view paymentId p refunding
    (recordSettledRefund view now refunding refundId).Straight w [w, marked, booked] ()
      (w.refundSettled view now paymentId p refunding refundId) := by
  intro marked booked
  unfold recordSettledRefund
  rw [hview]
  have hpayment : booked.db.payments.get? paymentId = some row := hrow
  exact (writeBooking_straight hb _).bind
    ((recordGroup_straight marked _).bind (writeSettledPayment_straight hpayment p _))

/-- The refund at Stripe changes Stripe's books, or fails if Stripe refuses it. -/
theorem refundAtStripe_eval (w : World) (amount : ℤ) :
    (view.refundRefused w.stripe amount = true →
      (refundAtStripe view amount).eval w = (.error .stripe, w)) ∧
    (view.refundRefused w.stripe amount = false →
      ∃ refundId, (refundAtStripe view amount).eval w =
        (.ok refundId, { w with stripe := view.refundedAtStripe w.stripe amount })) := by
  unfold refundAtStripe DisputeView.refundRefused DisputeView.refundedAtStripe
  -- Stripe is asked where the booking has been charged
  cases view.booking.stripePaymentIntentId with
  | none => exact ⟨by simp, fun _ => ⟨none, rfl⟩⟩
  | some paymentIntent =>
    cases view.booking.paymentCapturedAt with
    | none => exact ⟨by simp, fun _ => ⟨none, rfl⟩⟩
    | some capturedAt =>
      have hminor := acceptsRefund_toMinorCurrencyUnits w.stripe paymentIntent amount
      simp only [Bool.not_eq_true', Bool.not_eq_false', Program.bind_eq]
      constructor
      · intro hrefused
        exact Service.eval_bind_error
          (refundPaymentIntent_eval_error (hminor.trans hrefused))
      · intro haccepts
        rw [Service.eval_bind_ok (refundPaymentIntent_eval_ok (hminor.trans haccepts))]
        exact ⟨_, rfl⟩

/-- A refund that Stripe refuses stops a settlement with the payment waiting for it. -/
theorem makeRefund_eval_refused (hview : view.payment = some (paymentId, p))
    (hb : w.db.bookings.get? view.bookingId = some b)
    (hrow : w.db.payments.get? paymentId = some row)
    (h : view.refundRefused w.stripe refunding.amount = true) :
    (makeRefund view now resolution refunding).eval w =
      (.error .stripe, w.refundAnnounced view paymentId resolution refunding) := by
  unfold makeRefund
  simp only [Program.bind_eq]
  rw [Service.eval_bind_ok (announceRefund_straight hview hb hrow).eval]
  exact Service.eval_bind_error ((refundAtStripe_eval _ refunding.amount).1 h)

/-- Any other refund is made and recorded. -/
theorem makeRefund_eval_made (hview : view.payment = some (paymentId, p))
    (hb : w.db.bookings.get? view.bookingId = some b)
    (hrow : w.db.payments.get? paymentId = some row)
    (h : view.refundRefused w.stripe refunding.amount = false) :
    ∃ refundId, (makeRefund view now resolution refunding).eval w =
      (.ok (), World.refundSettled
        { w.refundAnnounced view paymentId resolution refunding with
          stripe := view.refundedAtStripe w.stripe refunding.amount }
        view now paymentId p refunding refundId) := by
  set w₁ := w.refundAnnounced view paymentId resolution refunding with hw₁
  obtain ⟨refundId, hstripe⟩ := (refundAtStripe_eval w₁ refunding.amount).2 h
  have hb₁ : w₁.db.bookings.get? view.bookingId = some (refunding.writeOn resolution b) := by
    simp [hw₁, World.refundAnnounced, World.withBooking, hb]
  have hrow₁ : w₁.db.payments.get? paymentId = some { row with status := .refundPending } := by
    simp [hw₁, World.refundAnnounced, World.withBooking, hrow]
  refine ⟨refundId, ?_⟩
  unfold makeRefund
  simp only [Program.bind_eq]
  rw [Service.eval_bind_ok (announceRefund_straight hview hb hrow).eval,
    Service.eval_bind_ok hstripe]
  exact (recordSettledRefund_straight
    (w := { w₁ with stripe := view.refundedAtStripe w.stripe refunding.amount }) hview hb₁ hrow₁).eval

end Parts

end Deliivo
