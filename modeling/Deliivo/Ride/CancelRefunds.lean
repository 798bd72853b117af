import Deliivo.Booking.Frame
import Deliivo.Domain.Pool
import Deliivo.Domain.Preserves
import Deliivo.Payment.Spec
import Deliivo.Ride.Cancel

/-!
# A cancelled ride refunds every rider who has paid

Cancelling a ride lists the bookings to refund before the transaction that cancels them, and marks
their payments after it. A payment that is applied in between is cancelled without a refund; one
whose own call has not yet marked it paid is refunded without being marked.

**If no booking that the transaction cancels has been captured since the list was read, and the call
finds each payment that it comes to mark in a status that can be refunded, no step failing, then every
captured booking that it has cancelled is refunded at Stripe, on its row and on its payment**
(`cancelled_ride_refunds_all`).

## Main definitions

* `CancelOp`, `cancelPool`: cancellations and payments, next to each other
* `CancelStep`: the condition on their steps
* `Advance`: what no step of either undoes
* `RefundedInFull`: the property

## Main results

* `advance_claimCapturedBooking`, `advance_applied`: applying payments
* `cancelRideTx_commits`: what the transaction does when it commits
* `cancelled_ride_refunds_all`
-/

namespace Deliivo

open Program (Logged Protocol Pool Move)

/-! ## What no step undoes -/

/-- The payment row that a booking's refund is marked on. -/
def paymentKey (d : Db) (bookingId : ℕ) : Option ℕ :=
  ((findPaymentOfBooking bookingId).answer d).map Prod.fst

/-- What a booking was charged. -/
def Booking.charge (b : Booking) : ℕ × Option ℕ × Option ℕ × Option ℤ × ℤ :=
  (b.rideId, b.stripePaymentIntentId, b.paymentCapturedAt, b.paymentAmount, b.totalPrice)

/-- A booking that is not waiting for its payment keeps its charge, and a refund and a cancellation
that it shows. -/
structure Booking.Advances (b b' : Booking) : Prop where
  charge : b'.charge = b.charge
  settled : b'.status ≠ .paymentPending
  cancelled : b.status = .cancelled → b'.status = .cancelled
  refund : b.refundAmount.isSome = true → b'.refundAmount.isSome = true

/-- What no step undoes: the bookings that are not waiting for their payment advance, and each keeps
its payment row. -/
structure DbAdvance (d d' : Db) : Prop where
  rows : ∀ id b, d.bookings.get? id = some b → b.status ≠ .paymentPending →
    ∃ b', d'.bookings.get? id = some b' ∧ b.Advances b'
  payment : ∀ id b, d.bookings.get? id = some b → b.status ≠ .paymentPending →
    paymentKey d' id = paymentKey d id

/-- The same, and no refund at Stripe is undone. -/
structure Advance (w w' : World) : Prop where
  db : DbAdvance w.db w'.db
  refunds : ∀ r ∈ w.stripe.refunds.rows, r ∈ w'.stripe.refunds.rows

theorem Booking.Advances.refl {b : Booking} (h : b.status ≠ .paymentPending) : b.Advances b :=
  ⟨rfl, h, id, id⟩

theorem Booking.Advances.trans {b b' b'' : Booking} (h : b.Advances b') (h' : b'.Advances b'') :
    b.Advances b'' where
  charge := h'.charge.trans h.charge
  settled := h'.settled
  cancelled := h'.cancelled ∘ h.cancelled
  refund := h'.refund ∘ h.refund

theorem DbAdvance.refl (d : Db) : DbAdvance d d :=
  ⟨fun _ b hb hs => ⟨b, hb, .refl hs⟩, fun _ _ _ _ => rfl⟩

theorem DbAdvance.trans {d d' d'' : Db} (h : DbAdvance d d') (h' : DbAdvance d' d'') :
    DbAdvance d d'' where
  rows id b hb hs := by
    obtain ⟨b', hb', hadv⟩ := h.rows id b hb hs
    obtain ⟨b'', hb'', hadv'⟩ := h'.rows id b' hb' hadv.settled
    exact ⟨b'', hb'', hadv.trans hadv'⟩
  payment id b hb hs := by
    obtain ⟨b', hb', hadv⟩ := h.rows id b hb hs
    exact (h'.payment id b' hb' hadv.settled).trans (h.payment id b hb hs)

theorem Advance.refl (w : World) : Advance w w := ⟨.refl _, fun _ h => h⟩

theorem Advance.trans {w w' w'' : World} (h : Advance w w') (h' : Advance w' w'') :
    Advance w w'' := ⟨h.db.trans h'.db, fun r hr => h'.refunds r (h.refunds r hr)⟩

section Writes

variable {d d' : Db}

/-- A write of bookings that advances each of them. -/
theorem DbAdvance.of_bookings {t : Table Booking}
    (h : ∀ id b, d.bookings.get? id = some b → b.status ≠ .paymentPending →
      ∃ b', t.get? id = some b' ∧ b.Advances b') : DbAdvance d { d with bookings := t } :=
  ⟨h, fun _ _ _ _ => rfl⟩

/-- A write of one booking that advances it. -/
theorem DbAdvance.modify {id : ℕ} {f : Booking → Booking}
    (hf : ∀ b : Booking, b.status ≠ .paymentPending → b.Advances (f b)) :
    DbAdvance d { d with bookings := d.bookings.modify id f } := by
  refine .of_bookings fun j b hb hs => ?_
  rw [Table.get?_modify]
  split_ifs with hj
  · exact ⟨f b, by rw [hb]; rfl, hf b hs⟩
  · exact ⟨b, hb, .refl hs⟩

theorem DbAdvance.modifyWhere {P : ℕ → Booking → Bool} {f : Booking → Booking}
    (hf : ∀ id b, d.bookings.get? id = some b → b.status ≠ .paymentPending → P id b = true →
      b.Advances (f b)) :
    DbAdvance d { d with bookings := d.bookings.modifyWhere P f } := by
  refine .of_bookings fun j b hb hs => ?_
  rw [Table.get?_modifyWhere, hb]
  refine ⟨_, rfl, ?_⟩
  show b.Advances (if P j b then f b else b)
  split_ifs with hP
  · exact hf j b hb hs hP
  · exact .refl hs

end Writes

/-! ## Applying payments -/

/-- The part of the database that the steps after a claim leave alone. -/
def keptView (d : Db) : (ℕ → Option (BookingStatus × (ℕ × Option ℕ × Option ℕ × Option ℤ × ℤ) ×
    Option ℤ)) × (ℕ → Option ℕ) :=
  (fun id => (d.bookings.get? id).map fun b => (b.status, b.charge, b.refundAmount), paymentKey d)

theorem DbAdvance.of_view {d d' : Db} (h : keptView d' = keptView d) : DbAdvance d d' where
  rows id b hb hs := by
    have hrow : (d'.bookings.get? id).map (fun b => (b.status, b.charge, b.refundAmount)) =
        some (b.status, b.charge, b.refundAmount) :=
      (congrFun (congrArg Prod.fst h) id).trans (by simp only [keptView, hb, Option.map_some])
    obtain ⟨b', hb', heq⟩ := Option.map_eq_some_iff.mp hrow
    obtain ⟨hstatus, hrest⟩ := Prod.mk.injEq .. ▸ heq
    obtain ⟨hcharge, hrefund⟩ := Prod.mk.injEq .. ▸ hrest
    exact ⟨b', hb', hcharge, hstatus ▸ hs, fun hc => hstatus.trans hc, fun hr => hrefund ▸ hr⟩
  payment id b _ _ := congrFun (congrArg Prod.snd h) id

/-- What a step may do that keeps bookings, payment rows and refunds, and ends no booking. -/
def keptFrame : Frame where
  db := keptView
  stripe := Stripe.refunds
  events e := ∀ b saw, e ≠ .bookingEnded b saw

theorem paymentKey_modify {d : Db} {id : ℕ} {f : Payment → Payment}
    (hf : ∀ p, (f p).bookingId = p.bookingId) (bookingId : ℕ) :
    paymentKey { d with payments := d.payments.modify id f } bookingId = paymentKey d bookingId := by
  simp only [paymentKey, findPaymentOfBooking, findFirst, payments, ← List.head?_map]
  rw [Table.map_fst_filter_modify fun p => by rw [hf]]

theorem keptView_paymentWrites : PaymentWritesApart keptView :=
  fun _ _ _ hf => Prod.ext rfl (funext fun bookingId => paymentKey_modify hf bookingId)

theorem keptView_deadline : DeadlineApart keptView := by
  intro d id deadline
  refine Prod.ext (funext fun j => ?_) rfl
  simp only [keptView, Table.get?_modify]
  split_ifs with hj
  · rw [Option.map_map]
    rfl
  · rfl

/-- A step of a payment's call: nothing is undone, and no booking ended. -/
def AppliesCall {β : Type} (c : Call β) : Prop :=
  ∀ i w, Advance w (c.exec i w).2.2 ∧ ∀ e ∈ (c.exec i w).2.1, ∀ b saw, e ≠ .bookingEnded b saw

section Applies

variable {α β : Type}

theorem appliesCall_of_leaves {c : Call β} (h : c.Leaves keptFrame) : AppliesCall c := by
  intro i w
  obtain ⟨hdb, hstripe, hevents⟩ := h.exec i w
  refine ⟨⟨.of_view hdb, fun r hr => ?_⟩, hevents⟩
  have hsame : (c.exec i w).2.2.stripe.refunds = w.stripe.refunds := hstripe
  rwa [hsame]

theorem applies_of_leaves {p : Service α} (h : p.Leaves keptFrame) :
    p.Issues fun {_} c => AppliesCall c :=
  h.mono fun _ hc => appliesCall_of_leaves hc

/-- A transaction that ends no booking. -/
theorem appliesCall_transact {body : Ctx → Tx β} {report : β → List Event}
    (h : ∀ ctx d b d', (body ctx).atomic d = .ok (b, d') → DbAdvance d d')
    (hreport : ∀ b, ∀ e ∈ report b, ∀ id saw, e ≠ .bookingEnded id saw) :
    AppliesCall (.transact body report) := by
  intro i w
  cases i with
  | refused | lost => exact ⟨.refl w, fun e he => absurd he List.not_mem_nil⟩
  | ok =>
    simp only [Call.exec]
    cases hb : (body ⟨w.now, w.db.freshId⟩).atomic w.db with
    | error e => exact ⟨.refl w, fun e he => absurd he List.not_mem_nil⟩
    | ok r =>
      exact ⟨⟨h _ _ _ _ hb, fun _ hr => hr⟩, hreport r.1⟩

/-- A refund adds to the refunds of Stripe. -/
theorem mem_refunds_createRefund {paymentIntent : ℕ} {amount : ℤ} {s s' : Stripe} {id : ℕ}
    (h : Stripe.createRefund paymentIntent amount s = .ok (id, s')) :
    (id, { paymentIntent, amount }) ∈ s'.refunds.rows ∧ ∀ r ∈ s.refunds.rows, r ∈ s'.refunds.rows := by
  unfold Stripe.createRefund at h
  split_ifs at h with haccepts
  obtain ⟨rfl, rfl⟩ := Prod.mk.injEq .. ▸ Except.ok.inj h
  show _ ∈ (s.refunds.insert s.refunds.nextKey _).rows ∧
    ∀ r ∈ s.refunds.rows, r ∈ (s.refunds.insert s.refunds.nextKey _).rows
  rw [Table.insert_nextKey_rows]
  exact ⟨by simp, fun r hr => List.mem_append_left _ hr⟩

theorem appliesCall_refund (paymentIntent : ℕ) (amount : ℤ) :
    AppliesCall (.stripe (Stripe.createRefund paymentIntent amount) fun _ => []) := by
  intro i w
  have hnone : ∀ e ∈ ([] : List Event), ∀ b saw, e ≠ .bookingEnded b saw :=
    fun e he => absurd he List.not_mem_nil
  cases i with
  | refused => exact ⟨.refl w, hnone⟩
  | ok | lost =>
    simp only [Call.exec]
    cases hr : Stripe.createRefund paymentIntent amount w.stripe with
    | error e => exact ⟨.refl w, hnone⟩
    | ok r => exact ⟨⟨.refl _, (mem_refunds_createRefund hr).2⟩, hnone⟩

end Applies

/-! ### The claim -/

section Claim

variable {bookingId : ℕ}

/-- The bookings other than one, with their payment rows. -/
def othersView (bookingId : ℕ) (d : Db) : (ℕ → Option Booking) × (ℕ → Option ℕ) :=
  (fun id => if id = bookingId then none else d.bookings.get? id,
    fun id => if id = bookingId then none else paymentKey d id)

/-- A payment row of one booking is no other's. -/
theorem othersView_payments {d : Db} {t : Table Payment}
    (h : ∀ id, id ≠ bookingId → paymentKey { d with payments := t } id = paymentKey d id) :
    othersView bookingId { d with payments := t } = othersView bookingId d := by
  refine Prod.ext rfl (funext fun id => ?_)
  simp only [othersView]
  split_ifs with hid
  · rfl
  · exact h id hid

theorem othersView_requestPayment (feePercent : Option ℚ) (uuid : ℕ) (booking : Booking) :
    (ensureRequestPayment feePercent uuid bookingId booking).Leaves (othersView bookingId) := by
  unfold ensureRequestPayment
  split
  · trivial
  · trivial
  · split
    · trivial
    · refine ((Program.issues_command _).mpr ?_).bind fun found => ?_
      · intro seen d
        simp only [upsertPayment]
        split
        · rfl
        · refine othersView_payments fun id hid => ?_
          simp only [paymentKey, findPaymentOfBooking, findFirst, payments]
          rw [Table.filter_insert (by simpa using Ne.symm hid)]
      · dsimp only
        split_ifs with hmatch hlinked
        · refine ((Program.issues_command _).mpr fun seen d => ?_).bind fun linked => ?_
          · refine othersView_payments fun id hid => ?_
            simp only [paymentKey, findPaymentOfBooking, findFirst, payments, ← List.head?_map]
            rw [Table.map_fst_filter_modifyWhere (by intros; rfl)]
          · split_ifs <;> trivial
        · trivial
        · trivial

theorem othersView_modify (d : Db) (f : Booking → Booking) :
    othersView bookingId { d with bookings := d.bookings.modify bookingId f } =
      othersView bookingId d := by
  refine Prod.ext (funext fun id => ?_) rfl
  simp only [othersView]
  split_ifs with hid
  · rfl
  · exact Table.get?_modify_ne _ _ hid

/-- What follows the claim of a booking changes no other booking. -/
private theorem leaves_claimed (settings : Settings) (ctx : Ctx) (bookingId : ℕ) :
    Tx.Leaves (othersView bookingId) (do
      let (booking, ride) ← Program.perform (findBookingWithRideOrThrow bookingId)
      confirmRequestBooking settings.platformFeePercent ctx bookingId
      reserveSeatsForBooking (booking.hold ride.totalSeats) (some bookingId) false
      return Applied.claimed : Tx Applied) := by
  refine ((Program.issues_perform _).mpr fun _ _ => rfl).bind fun found => ?_
  refine (leaves_confirmRequestBooking (fun d f _ => othersView_modify d f) (fun _ _ => rfl)
    (fun _ _ => rfl) (fun _ _ => rfl) (fun _ _ _ => othersView_requestPayment _ _ _) _ _).bind
    fun _ => ?_
  exact (leaves_reserveSeatsForBooking (fun _ _ => rfl) (fun _ _ _ => rfl) _ _ _).bind
    fun _ => trivial

/-- **The claim** changes a booking that is waiting for its payment, and no other. -/
theorem advance_claimCapturedBooking {settings : Settings} {paymentIntent : ℕ} {intent : Intent}
    {now : ℕ} {ctx : Ctx} {d d' : Db} {applied : Applied}
    (h : (claimCapturedBooking settings bookingId paymentIntent intent now ctx).atomic d =
      .ok (applied, d')) : DbAdvance d d' := by
  obtain ⟨claimed, d₁, hclaim, hrest⟩ := Tx.atomic_bind.mp h
  obtain ⟨rfl, rfl⟩ := Prod.mk.injEq .. ▸ Except.ok.inj hclaim
  have hfirst : DbAdvance d ((updateMany bookings (isPendingBooking bookingId)
      (Booking.withCapture paymentIntent intent now)).write d d) := by
    refine DbAdvance.modifyWhere fun id b hb hs hP => ?_
    have hpending : isPendingBooking bookingId id b = true := by
      simpa [bookings, Table.holds, hb] using hP
    exact absurd (isPendingBooking_iff.mp hpending).2 hs
  by_cases hnone : (updateMany bookings (isPendingBooking bookingId)
      (Booking.withCapture paymentIntent intent now)).answer d = []
  · rw [if_pos hnone] at hrest
    obtain ⟨-, rfl⟩ := Prod.mk.injEq .. ▸ Except.ok.inj hrest
    exact hfirst
  · rw [if_neg hnone] at hrest
    -- the booking was waiting for its payment, and what follows changes no other
    obtain ⟨id, hid⟩ := List.exists_mem_of_ne_nil _ hnone
    obtain ⟨⟨id', b⟩, hmem, rfl⟩ := List.mem_map.mp hid
    obtain ⟨hb, hpending⟩ := Table.mem_filter_iff.mp hmem
    obtain ⟨rfl, hstatus⟩ := isPendingBooking_iff.mp hpending
    have hview := (leaves_claimed settings ctx id').atomic hrest
    constructor
    · intro id b' hb' hs
      have hne : id ≠ id' := by
        rintro rfl
        obtain rfl := Option.some.inj (hb.symm.trans hb')
        exact hs hstatus
      obtain ⟨b'', hb'', hadv⟩ := hfirst.rows id b' hb' hs
      have hsame := congrFun (congrArg Prod.fst hview) id
      simp only [othersView, if_neg hne] at hsame
      exact ⟨b'', hsame.trans hb'', hadv⟩
    · intro id b' hb' hs
      have hne : id ≠ id' := by
        rintro rfl
        obtain rfl := Option.some.inj (hb.symm.trans hb')
        exact hs hstatus
      have hsame := congrFun (congrArg Prod.snd hview) id
      simp only [othersView, if_neg hne] at hsame
      exact hsame

end Claim

/-! ### The rest of the call -/

section Apply

theorem appliesCall_issue (issue : ReconciliationIssue) :
    (createIssue issue).Issues fun {_} c => AppliesCall c :=
  applies_of_leaves (leaves_createIssue (fun _ _ => rfl) issue)

theorem noBookingEnded_paymentWritten (paymentId : ℕ) (read written : PaymentStatus) :
    keptFrame.events (.paymentWritten paymentId read written) := fun _ _ h => by cases h

theorem applies_markBookingPaymentPaid (bookingId driverId : ℕ) :
    (markBookingPaymentPaid bookingId driverId).Leaves keptFrame :=
  leaves_markBookingPaymentPaid keptView_paymentWrites noBookingEnded_paymentWritten
    (fun _ _ => rfl) (fun _ _ => rfl) _ _

theorem applies_refundRideFullPayment (bookingId paymentIntent : ℕ) :
    (refundRideFullPayment bookingId paymentIntent).Issues fun {_} c => AppliesCall c := by
  refine ((Program.issues_perform _).mpr (appliesCall_transact (fun ctx d b d' hbody => ?_)
    fun _ e he => absurd he List.not_mem_nil)).bind fun claimed => ?_
  · obtain ⟨-, rfl⟩ := Prod.mk.injEq .. ▸ Except.ok.inj hbody
    refine DbAdvance.modifyWhere fun id b hb hs hP => ?_
    have hpending : isPendingBooking bookingId id b = true := by
      simpa [bookings, Table.holds, hb] using hP
    exact absurd (isPendingBooking_iff.mp hpending).2 hs
  split_ifs with hnone
  · trivial
  · refine (applies_of_leaves (leaves_sql (leaves_findBookingWithRide _))).bind fun found => ?_
    cases found with
    | none => trivial
    | some found =>
      refine Program.Issues.bind ?_ fun _ => Program.Issues.bind ?_ fun _ => ?_
      · refine Program.Issues.tryCatch (Program.Issues.bind ?_ fun _ => Program.Issues.bind ?_
          fun _ => trivial) fun _ => Program.Issues.tryCatch (appliesCall_issue _) fun _ => trivial
        · exact (Program.issues_perform _).mpr (appliesCall_refund _ _)
        · refine (Program.issues_perform _).mpr (appliesCall_transact (fun ctx d b d' hbody => ?_)
            fun _ e he => absurd he List.not_mem_nil)
          obtain ⟨row, -, -, rfl⟩ := Service.atomic_update hbody
          exact DbAdvance.modify fun b hs => ⟨rfl, hs, fun h => h, fun _ => rfl⟩
      · refine applies_of_leaves (leaves_bestEffort ?_)
        refine (applies_markBookingPaymentPaid _ _).bind fun _ => ?_
        exact (leaves_markBookingPaymentRefunded keptView_paymentWrites
          noBookingEnded_paymentWritten (fun _ _ => rfl) _ _ _).bind fun _ => trivial
      · exact applies_of_leaves (leaves_bestEffort leaves_notify)

/-- **Applying a payment** undoes nothing. -/
theorem applies_applyStripePaymentSucceededToBooking (settings : Settings) (paymentIntent : ℕ)
    (intent : Intent) :
    (applyStripePaymentSucceededToBooking settings paymentIntent intent).Issues
      fun {_} c => AppliesCall c := by
  unfold applyStripePaymentSucceededToBooking
  split
  · trivial
  · refine ((Program.issues_command _).mpr (appliesCall_of_leaves (c := .clock) trivial)).bind
      fun now => ?_
    refine Program.Issues.bind (Program.Issues.tryCatch ?_ fun e => ?_) fun outcome => ?_
    · refine (Program.issues_perform _).mpr
        (appliesCall_transact (fun _ _ _ _ => advance_claimCapturedBooking) fun outcome e he => ?_)
      cases outcome with
      | claimed =>
        obtain rfl := List.mem_singleton.mp he
        exact fun _ _ heq => by cases heq
      | alreadyApplied | rideFull => exact absurd he List.not_mem_nil
    · split_ifs <;> trivial
    cases outcome with
    | alreadyApplied =>
      exact (applies_of_leaves (leaves_syncAcceptedOffer keptView_paymentWrites (fun _ _ => rfl)
        (fun _ _ => rfl) noBookingEnded_paymentWritten _)).bind fun _ => trivial
    | rideFull => exact (applies_refundRideFullPayment _ _).bind fun _ => trivial
    | claimed =>
      exact (applies_of_leaves (leaves_completeClaim keptView_paymentWrites (fun _ _ => rfl)
        (fun _ _ => rfl) (fun _ _ => rfl) noBookingEnded_paymentWritten keptView_deadline _ _ _)).bind
        fun _ => trivial

end Apply

/-! ## The transaction -/

section Transaction

variable {d d' : Db} {s s' : Stripe} {listed : List (ℕ × Booking)}

/-- The listed bookings are there, with their charges, and do not wait for a payment. -/
def ListedIn (d : Db) (listed : List (ℕ × Booking)) : Prop :=
  ∀ r ∈ listed, ∃ b, d.bookings.get? r.1 = some b ∧ b.status ≠ .paymentPending ∧
    b.charge = r.2.charge

theorem ListedIn.mono (h : ListedIn d listed) (hadv : DbAdvance d d') : ListedIn d' listed := by
  intro r hr
  obtain ⟨b, hb, hs, hcharge⟩ := h r hr
  obtain ⟨b', hb', hadv'⟩ := hadv.rows _ b hb hs
  exact ⟨b', hb', hadv'.settled, hadv'.charge.trans hcharge⟩

/-- The amounts are written on the rows of the listed bookings. -/
theorem announceRefunds_ok (hlisted : ListedIn d listed)
    (h : StripeTx.atomic (Program.forEach listed fun booking => txWriteBooking booking.1 fun b =>
      { b with refundAmount := some booking.2.fullRefundAmount }) d s = (.ok ((), d'), s')) :
    DbAdvance d d' ∧ s' = s ∧ ∀ r ∈ listed, ∃ b, d'.bookings.get? r.1 = some b ∧
      b.refundAmount.isSome = true := by
  induction listed generalizing d s with
  | nil =>
    obtain ⟨heq, rfl⟩ := Prod.mk.injEq .. ▸ h
    obtain ⟨-, rfl⟩ := Prod.mk.injEq .. ▸ Except.ok.inj heq
    exact ⟨.refl _, rfl, fun r hr => absurd hr List.not_mem_nil⟩
  | cons r listed ih =>
    obtain ⟨u, d₁, s₁, hfirst, hrest⟩ := StripeTx.atomic_bind.mp h
    obtain ⟨-, rfl, rfl⟩ := txWriteBooking_ok hfirst
    have hadv : DbAdvance d { d with bookings := d.bookings.modify r.1 fun b =>
        { b with refundAmount := some r.2.fullRefundAmount } } :=
      .modify fun b hs => ⟨rfl, hs, fun h => h, fun _ => rfl⟩
    obtain ⟨hadv', rfl, hwritten⟩ :=
      ih (ListedIn.mono (fun r' hr' => hlisted r' (List.mem_cons_of_mem _ hr')) hadv) hrest
    refine ⟨hadv.trans hadv', rfl, fun r' hr' => ?_⟩
    rcases List.mem_cons.mp hr' with rfl | hr'
    · obtain ⟨b, hb, hs, -⟩ := hlisted r' List.mem_cons_self
      have hrow : (d.bookings.modify r'.1 fun b =>
          { b with refundAmount := some r'.2.fullRefundAmount }).get? r'.1 =
          some { b with refundAmount := some r'.2.fullRefundAmount } := by
        rw [Table.get?_modify_self, hb]
        rfl
      obtain ⟨b', hb', hkept⟩ := hadv'.rows _ _ hrow hs
      exact ⟨b', hb', hkept.refund rfl⟩
    · exact hwritten r' hr'

/-- What a refund of a listed booking asks of Stripe. -/
def Refunded (s : Stripe) (paymentIntent : ℕ) (b : Booking) : Prop :=
  ∃ id, (id, { paymentIntent, amount := toMinorCurrencyUnits b.fullRefundAmount }) ∈ s.refunds.rows

theorem Refunded.mono {paymentIntent : ℕ} {b : Booking} (h : Refunded s paymentIntent b)
    (hgrow : ∀ r ∈ s.refunds.rows, r ∈ s'.refunds.rows) : Refunded s' paymentIntent b := by
  obtain ⟨id, hid⟩ := h
  exact ⟨id, hgrow _ hid⟩

/-- One listed booking is refunded if it has been captured. -/
theorem refundListedBooking_ok {ctx : Ctx} {r : ℕ × Booking} {u : Unit}
    (h : (refundListedBooking ctx r).atomic d s = (.ok (u, d'), s')) :
    DbAdvance d d' ∧ (∀ q ∈ s.refunds.rows, q ∈ s'.refunds.rows) ∧
      (r.2.isPaymentCaptured = true → 0 < r.2.fullRefundAmount ∧
        ∀ paymentIntent, r.2.stripePaymentIntentId = some paymentIntent →
          Refunded s' paymentIntent r.2) := by
  unfold refundListedBooking at h
  split at h
  · rename_i _ _ _ paymentIntent hcaptured hintent
    obtain ⟨refund, d₁, s₁, hrefund, hrest⟩ := StripeTx.atomic_bind.mp h
    obtain ⟨-, rfl, rfl⟩ := txWriteBooking_ok hrest
    simp only [txRefund, Program.perform, StripeTx.atomic] at hrefund
    cases hr : Stripe.createRefund paymentIntent (toMinorCurrencyUnits r.2.fullRefundAmount) s with
    | error e => simp [hr, StripeTx.atomic] at hrefund
    | ok created =>
      simp only [hr, Program.ofExcept_ok, StripeTx.atomic, Prod.mk.injEq, Except.ok.injEq] at hrefund
      obtain ⟨⟨rfl, rfl⟩, rfl⟩ := hrefund
      obtain ⟨hmem, hgrow⟩ := mem_refunds_createRefund hr
      refine ⟨.modify fun b hs => ⟨rfl, hs, fun h => h, fun h => h⟩, hgrow, fun _ => ⟨?_, ?_⟩⟩
      · -- Stripe accepts positive amounts only
        unfold Stripe.createRefund at hr
        split_ifs at hr with haccepts
        exact acceptsRefund_pos ((acceptsRefund_toMinorCurrencyUnits _ _ _).symm.trans haccepts)
      · intro intent' hintent'
        obtain rfl := Option.some.inj (hintent.symm.trans hintent')
        exact ⟨_, hmem⟩
  · rename_i hnone
    obtain ⟨heq, rfl⟩ := Prod.mk.injEq .. ▸ h
    obtain ⟨-, rfl⟩ := Prod.mk.injEq .. ▸ Except.ok.inj heq
    refine ⟨.refl _, fun _ hq => hq, fun hcaptured => ?_⟩
    simp only [Booking.isPaymentCaptured, Bool.and_eq_true, Option.isSome_iff_exists] at hcaptured
    obtain ⟨⟨at', hat⟩, intent', hintent⟩ := hcaptured
    exact absurd hintent (hnone at' intent' hat)

theorem refundListedBookings_ok {ctx : Ctx}
    (h : StripeTx.atomic (Program.forEach listed (refundListedBooking ctx)) d s =
      (.ok ((), d'), s')) :
    DbAdvance d d' ∧ (∀ q ∈ s.refunds.rows, q ∈ s'.refunds.rows) ∧
      ∀ r ∈ listed, r.2.isPaymentCaptured = true → 0 < r.2.fullRefundAmount ∧
        ∀ paymentIntent, r.2.stripePaymentIntentId = some paymentIntent →
          Refunded s' paymentIntent r.2 := by
  induction listed generalizing d s with
  | nil =>
    obtain ⟨heq, rfl⟩ := Prod.mk.injEq .. ▸ h
    obtain ⟨-, rfl⟩ := Prod.mk.injEq .. ▸ Except.ok.inj heq
    exact ⟨.refl _, fun _ hq => hq, fun r hr => absurd hr List.not_mem_nil⟩
  | cons r listed ih =>
    obtain ⟨u, d₁, s₁, hfirst, hrest⟩ := StripeTx.atomic_bind.mp h
    obtain ⟨hadv, hgrow, hrefunded⟩ := refundListedBooking_ok hfirst
    obtain ⟨hadv', hgrow', hrefunded'⟩ := ih hrest
    refine ⟨hadv.trans hadv', fun q hq => hgrow' q (hgrow q hq), fun r' hr' hcaptured => ?_⟩
    rcases List.mem_cons.mp hr' with rfl | hr'
    · obtain ⟨hpos, hrefund⟩ := hrefunded hcaptured
      exact ⟨hpos, fun paymentIntent hintent => (hrefund paymentIntent hintent).mono hgrow'⟩
    · exact hrefunded' r' hr' hcaptured

/-- **The transaction, when it commits**, cancels the bookings that it names and refunds the listed
ones that have been captured. -/
theorem cancelRideTx_commits {settings : Settings} (hmode : settings.bypassPayment = false)
    {rideId : ℕ} {ctx : Ctx} {cancelled : List ℕ} (hlisted : ListedIn d listed)
    (h : (cancelRideTx settings rideId listed ctx).atomic d s = (.ok (cancelled, d'), s')) :
    DbAdvance d d' ∧ (∀ q ∈ s.refunds.rows, q ∈ s'.refunds.rows) ∧
      (∀ id ∈ cancelled, (∃ b, d.bookings.get? id = some b ∧ b.status ≠ .paymentPending) ∧
        ∃ b', d'.bookings.get? id = some b' ∧ b'.status = .cancelled) ∧
      (∀ r ∈ listed, ∃ b, d'.bookings.get? r.1 = some b ∧ b.refundAmount.isSome = true) ∧
      ∀ r ∈ listed, r.2.isPaymentCaptured = true → 0 < r.2.fullRefundAmount ∧
        ∀ paymentIntent, r.2.stripePaymentIntentId = some paymentIntent →
          Refunded s' paymentIntent r.2 := by
  obtain ⟨ride, d₁, s₁, hride, h⟩ := StripeTx.atomic_bind.mp h
  obtain ⟨ids, d₂, s₂, hcancel, h⟩ := StripeTx.atomic_bind.mp h
  obtain ⟨u, d₃, s₃, hannounce, h⟩ := StripeTx.atomic_bind.mp h
  rw [hmode, if_neg Bool.false_ne_true] at h
  obtain ⟨u', d₄, s₄, hrefund, h⟩ := StripeTx.atomic_bind.mp h
  obtain ⟨heq, rfl⟩ := Prod.mk.injEq .. ▸ h
  obtain ⟨rfl, rfl⟩ := Prod.mk.injEq .. ▸ Except.ok.inj heq
  -- the ride
  have hrides : d₁.bookings = d.bookings ∧ d₁.payments = d.payments ∧ s₁ = s := by
    simp only [txSqlOrThrow, Program.perform, StripeTx.atomic, update, rides] at hride
    cases hr : d.rides.get? rideId with
    | none => simp [hr, StripeTx.atomic] at hride
    | some r =>
      simp only [hr, Option.elim_some, Program.ofExcept_ok, StripeTx.atomic, Prod.mk.injEq,
        Except.ok.injEq] at hride
      obtain ⟨⟨-, rfl⟩, rfl⟩ := hride
      exact ⟨rfl, rfl, rfl⟩
  obtain ⟨hbookings, hpayments, rfl⟩ := hrides
  have hadv₁ : DbAdvance d d₁ := by
    refine .of_view ?_
    unfold keptView paymentKey findPaymentOfBooking findFirst payments
    simp only [hbookings, hpayments]
  -- the active bookings
  obtain ⟨heq, rfl⟩ := Prod.mk.injEq .. ▸ hcancel
  obtain ⟨rfl, rfl⟩ := Prod.mk.injEq .. ▸ Except.ok.inj heq
  have hactive : ∀ id b, d₁.bookings.get? id = some b → isActiveOn rideId id b = true →
      b.status ≠ .paymentPending := by
    intro id b _ hP hs
    simp [isActiveOn, hs, BookingStatus.goesWithRide] at hP
  have hadv₂ : DbAdvance d₁ ((updateMany bookings (isActiveOn rideId)
      (Booking.cancelledWithRide ctx.now)).write d₁ d₁) := by
    refine DbAdvance.modifyWhere fun id b hb hs hP => ⟨rfl, ?_, fun _ => rfl, fun h => h⟩
    simp [Booking.cancelledWithRide]
  obtain ⟨hadv₃, rfl, hannounced⟩ := announceRefunds_ok (hlisted.mono (hadv₁.trans hadv₂)) hannounce
  obtain ⟨hadv₄, hgrow, hrefunded⟩ := refundListedBookings_ok hrefund
  refine ⟨((hadv₁.trans hadv₂).trans hadv₃).trans hadv₄, hgrow, fun id hid => ?_, fun r hr => ?_,
    hrefunded⟩
  · obtain ⟨⟨id', b⟩, hmem, rfl⟩ := List.mem_map.mp hid
    obtain ⟨hb, hP⟩ := Table.mem_filter_iff.mp hmem
    have hs := hactive id' b hb hP
    refine ⟨⟨b, hbookings ▸ hb, hs⟩, ?_⟩
    have hrow : (d₁.bookings.modifyWhere (fun id _ => d₁.bookings.holds (isActiveOn rideId) id)
        (Booking.cancelledWithRide ctx.now)).get? id' = some (b.cancelledWithRide ctx.now) := by
      have hb' : d₁.bookings.get? id' = some b := hb
      rw [Table.get?_modifyWhere, hb']
      simp [Table.holds, hb', hP]
    obtain ⟨b', hb', hkept⟩ := (hadv₃.trans hadv₄).rows id' _ hrow (by simp [Booking.cancelledWithRide])
    exact ⟨b', hb', hkept.cancelled rfl⟩
  · obtain ⟨b, hb, hsome⟩ := hannounced r hr
    obtain ⟨b₂, hb₂, hs₂, -⟩ := (hlisted.mono ((hadv₁.trans hadv₂).trans hadv₃)) r hr
    obtain rfl := Option.some.inj (hb.symm.trans hb₂)
    obtain ⟨b', hb', hkept⟩ := hadv₄.rows _ _ hb hs₂
    exact ⟨b', hb', hkept.refund hsome⟩

/-- Whether or not it commits, the transaction takes no refund back. -/
theorem cancelRideTx_refunds (settings : Settings) (rideId : ℕ) (listed : List (ℕ × Booking))
    (ctx : Ctx) :
    ∀ q ∈ s.refunds.rows, q ∈ ((cancelRideTx settings rideId listed ctx).atomic d s).2.refunds.rows := by
  refine StripeTx.atomic_keeps (I := fun s' => ∀ q ∈ s.refunds.rows, q ∈ s'.refunds.rows) ?_
    fun _ hq => hq
  refine ((Program.issues_perform _).mpr trivial).bind fun _ => ?_
  refine ((Program.issues_command _).mpr trivial).bind fun cancelled => ?_
  refine Program.Issues.bind (Program.Issues.forEach fun r => ?_) fun _ => ?_
  · exact ((Program.issues_perform _).mpr trivial).bind fun _ => trivial
  split_ifs with hmode
  · trivial
  · refine (Program.Issues.forEach fun r => ?_).bind fun _ => trivial
    unfold refundListedBooking
    split
    · refine ((Program.issues_perform _).mpr ?_).bind fun _ =>
        ((Program.issues_perform _).mpr trivial).bind fun _ => trivial
      exact fun s₁ b s₂ hs hr q hq => (mem_refunds_createRefund hr).2 q (hs q hq)
    · trivial

end Transaction

/-! ## The calls -/

/-- A driver who cancels a ride, in Stripe mode, or a payment that succeeds. -/
inductive CancelOp
  | cancelRide (driverId rideId : ℕ)
  | succeeded (settings : Settings) (paymentIntent : ℕ) (intent : Intent)

def CancelOp.program : CancelOp → Service Unit
  | .cancelRide driverId rideId => Deliivo.cancelRide {} driverId rideId
  | .succeeded settings paymentIntent intent => do
    let _ ← applyStripePaymentSucceededToBooking settings paymentIntent intent

/-- Anything else that goes on: all of the world but bookings, payments and refunds. -/
def besidesRefunds (w' w : World) : World :=
  { w' with
    db := { w'.db with bookings := w.db.bookings, payments := w.db.payments }
    stripe := { w'.stripe with refunds := w.stripe.refunds } }

/-- The calls, next to each other. -/
abbrev cancelPool := servicePool CancelOp.program besidesRefunds

/-- The booking whose payment a call has come to mark and not marked yet. -/
def dueOf (events : List Event) : Option ℕ :=
  events.foldl (fun due e => match e with
    | .refundDue booking => some booking
    | .paymentWritten _ .refundPending _ => none
    | _ => due) none

/-- The condition on the steps: no booking that a cancellation ends without having read it as captured
has been captured; and while a cancellation is at a payment that it has to mark, it finds it in a
status that can be refunded and no step of it fails. -/
structure CancelStep (_op : CancelOp) (tid : ℕ) (x : LoggedWorld) (reply : Reply)
    (events : List Event) : Prop where
  listed : ∀ id b, .bookingEnded id false ∈ events → x.state.db.bookings.get? id = some b →
    b.isPaymentCaptured = false
  marked : ∀ id paymentId payment, dueOf (x.own tid) = some id →
    (findPaymentOfBooking id).answer x.state.db = some (paymentId, payment) →
    reply = .ok ∧ payment.status.refundable = true

/-! ## The property -/

/-- The call has marked the payment of the booking refunded, if it has one. -/
def MarkedRefunded (tid id : ℕ) (x : LoggedWorld) : Prop :=
  ∀ paymentId, paymentKey x.state.db id = some paymentId →
    ∃ written, .paymentWritten paymentId .refundPending written ∈ x.own tid

/-- Every captured booking that call `tid` has cancelled is refunded: at Stripe, on its row and on
its payment. -/
def RefundedInFull (tid : ℕ) (x : LoggedWorld) : Prop :=
  ∀ id saw b, .bookingEnded id saw ∈ x.own tid → x.state.db.bookings.get? id = some b →
    b.isPaymentCaptured = true →
    b.status = .cancelled ∧ b.refundAmount.isSome = true ∧
      (∀ paymentIntent, b.stripePaymentIntentId = some paymentIntent →
        Refunded x.state.stripe paymentIntent b) ∧
      MarkedRefunded tid id x

/-! ## The protocol -/

/-- What holds at all times of what has been cancelled. -/
def CancelInv (x : LoggedWorld) : Prop :=
  ∀ tid id saw, .bookingEnded id saw ∈ x.own tid →
    ∃ b, x.state.db.bookings.get? id = some b ∧ b.status = .cancelled ∧
      (b.isPaymentCaptured = true → saw = true) ∧
      (saw = true → b.refundAmount.isSome = true ∧
        ∀ paymentIntent, b.stripePaymentIntentId = some paymentIntent →
          Refunded x.state.stripe paymentIntent b)

/-- What a call relies on: nothing is undone, and it alone reports for itself. -/
structure CancelRely (tid : ℕ) (x y : LoggedWorld) : Prop where
  advance : Advance x.state y.state
  own : y.own tid = x.own tid

/-- What a call guarantees. -/
structure CancelGuar (tid : ℕ) (x y : LoggedWorld) : Prop where
  advance : Advance x.state y.state
  own : ∀ t, t ≠ tid → y.own t = x.own t

theorem charge_fields {b b' : Booking} (h : b'.charge = b.charge) :
    b'.isPaymentCaptured = b.isPaymentCaptured ∧ b'.fullRefundAmount = b.fullRefundAmount ∧
      b'.stripePaymentIntentId = b.stripePaymentIntentId := by
  simp only [Booking.charge, Prod.mk.injEq] at h
  obtain ⟨-, hintent, hcaptured, hamount, htotal⟩ := h
  unfold Booking.isPaymentCaptured Booking.fullRefundAmount
  rw [hintent, hcaptured, hamount, htotal]
  exact ⟨rfl, rfl, rfl⟩

section Protocol

variable {x y : LoggedWorld} {tid : ℕ}

theorem CancelInv.entry_mono (h : Advance x.state y.state) {id : ℕ} {saw : Bool}
    (hx : ∃ b, x.state.db.bookings.get? id = some b ∧ b.status = .cancelled ∧
      (b.isPaymentCaptured = true → saw = true) ∧
      (saw = true → b.refundAmount.isSome = true ∧
        ∀ paymentIntent, b.stripePaymentIntentId = some paymentIntent →
          Refunded x.state.stripe paymentIntent b)) :
    ∃ b, y.state.db.bookings.get? id = some b ∧ b.status = .cancelled ∧
      (b.isPaymentCaptured = true → saw = true) ∧
      (saw = true → b.refundAmount.isSome = true ∧
        ∀ paymentIntent, b.stripePaymentIntentId = some paymentIntent →
          Refunded y.state.stripe paymentIntent b) := by
  obtain ⟨b, hb, hstatus, hcaptured, hrefund⟩ := hx
  obtain ⟨b', hb', hadv⟩ := h.db.rows id b hb (by rw [hstatus]; simp)
  obtain ⟨hcap, hfull, hintent⟩ := charge_fields hadv.charge
  refine ⟨b', hb', hadv.cancelled hstatus, fun hc => hcaptured (hcap ▸ hc), fun hsaw => ?_⟩
  obtain ⟨hamount, hstripe⟩ := hrefund hsaw
  refine ⟨hadv.refund hamount, fun paymentIntent hpi => ?_⟩
  obtain ⟨r, hr⟩ := hstripe paymentIntent (hintent ▸ hpi)
  exact ⟨r, by rw [hfull]; exact h.refunds _ hr⟩

/-- A booking that does not wait for its payment keeps being marked. -/
theorem MarkedRefunded.mono {id : ℕ} (h : MarkedRefunded tid id x)
    (hadv : DbAdvance x.state.db y.state.db) (hown : ∀ e ∈ x.own tid, e ∈ y.own tid)
    {b : Booking} (hb : x.state.db.bookings.get? id = some b) (hs : b.status ≠ .paymentPending) :
    MarkedRefunded tid id y := by
  intro paymentId hkey
  rw [hadv.payment id b hb hs] at hkey
  obtain ⟨written, hwritten⟩ := h paymentId hkey
  exact ⟨written, hown _ hwritten⟩

/-- A call that has ended owes no payment. -/
def NothingDue (tid : ℕ) (x : LoggedWorld) : Prop :=
  ∀ id, .bookingEnded id true ∈ x.own tid →
    (∃ b, x.state.db.bookings.get? id = some b ∧ b.status ≠ .paymentPending) ∧
      MarkedRefunded tid id x

theorem NothingDue.mono (h : NothingDue tid x) (hr : CancelRely tid x y) : NothingDue tid y := by
  intro id hid
  rw [hr.own] at hid
  obtain ⟨⟨b, hb, hs⟩, hmarked⟩ := h id hid
  obtain ⟨b', hb', hadv⟩ := hr.advance.db.rows id b hb hs
  exact ⟨⟨b', hb', hadv.settled⟩,
    hmarked.mono hr.advance.db (fun e he => hr.own ▸ he) hb hs⟩

theorem advance_besidesRefunds (w' w : World) : Advance w (besidesRefunds w' w) :=
  ⟨.of_view rfl, fun _ h => h⟩

def cancelProtocol : Protocol cancelPool CancelStep (fun _ _ => True) where
  Inv := CancelInv
  Rely := CancelRely
  Guar := CancelGuar
  Post _ := NothingDue
  rely_refl _ _ := ⟨.refl _, rfl⟩
  rely_trans h h' := ⟨h.advance.trans h'.advance, h'.own.trans h.own⟩
  guar_rely hne _ h := ⟨h.advance, h.own _ hne⟩
  env_inv {d x} hI _ := fun tid id saw hid =>
    CancelInv.entry_mono (x := x) (y := { x with state := besidesRefunds d x.state })
      (advance_besidesRefunds d x.state) (hI tid id saw hid)
  env_rely {d x} _ _ _ := ⟨advance_besidesRefunds d x.state, rfl⟩
  post_stable h hr _ := h.mono hr

end Protocol

/-! ## The steps of the calls -/

section Safe

variable {op : CancelOp} {tid : ℕ} {x y : LoggedWorld} {es : List Event} {s : World}

/-- A step that undoes nothing and ends no booking. -/
theorem keeps_advance (tid : ℕ) (es : List Event) (hI : CancelInv y) (hadv : Advance y.state s)
    (hes : ∀ e ∈ es, ∀ b saw, e ≠ .bookingEnded b saw) :
    CancelGuar tid y (y.next tid es s) ∧ CancelInv (y.next tid es s) := by
  refine ⟨⟨hadv, fun t ht => Logged.own_next_ne ht⟩, fun t id saw hid => ?_⟩
  have hold : .bookingEnded id saw ∈ y.own t := by
    rw [Logged.mem_own] at hid ⊢
    rcases Logged.mem_next_log.mp hid with h | ⟨-, h⟩
    · exact h
    · exact absurd rfl (hes _ h id saw)
  exact CancelInv.entry_mono (y := y.next tid es s) hadv (hI t id saw hold)

/-- The call that applies a payment ends no booking. -/
theorem safe_succeeded {p : Service Unit} (hp : p.Issues fun {_} c => AppliesCall c)
    (hx : x.own tid = []) :
    cancelProtocol.Safe op tid (fun _ => NothingDue tid) p x := by
  have hsafe : cancelProtocol.Safe op tid (fun _ x => ∀ id saw, .bookingEnded id saw ∉ x.own tid)
      p x := by
    refine Protocol.Safe.issues ?_ (hp.mono fun c hc y hy hI => ?_) ?_
    · intro y z hy hr _ id saw
      rw [hr.own]
      exact hy id saw
    · intro i b es s hexec _
      obtain ⟨rfl, rfl, rfl⟩ : (c.exec i y.state).1 = b ∧ (c.exec i y.state).2.1 = es ∧
          (c.exec i y.state).2.2 = s := by
        have := Option.some.inj hexec
        rw [this]
        exact ⟨rfl, rfl, rfl⟩
      obtain ⟨hadv, hes⟩ := hc i y.state
      obtain ⟨hG, hI'⟩ := keeps_advance tid _ hI hadv hes
      refine ⟨hG, hI', fun id saw hid => ?_⟩
      rw [Logged.own_next_self, List.mem_append] at hid
      rcases hid with hid | hid
      · exact hy id saw hid
      · exact hes _ hid id saw rfl
    · intro id saw hid
      rw [hx] at hid
      cases hid
  exact hsafe.mono fun _ y hy id hid => absurd hid (hy id true)

/-! ### Cancelling -/

/-- What a step may do that keeps bookings, payment rows and refunds and reports nothing. -/
def silentFrame : Frame where
  db := keptView
  stripe := Stripe.refunds
  events _ := False

/-- Steps that matter to nobody keep whatever the call can rely on. -/
theorem safe_silent {α : Type} {A : LoggedWorld → Prop} {p : Service α}
    (hA : cancelProtocol.Stable tid A) (hp : p.Leaves silentFrame) (hx : A x) :
    cancelProtocol.Safe op tid (fun _ => A) p x := by
  refine Protocol.Safe.issues hA (hp.mono fun c hc y hy hI => ?_) hx
  refine keeps_leaves hc fun i b es s hdb hstripe hes _ => ?_
  obtain rfl : es = [] := List.eq_nil_iff_forall_not_mem.mpr hes
  have hadv : Advance y.state s := ⟨.of_view hdb, fun r hr => by
    have hsame : s.stripe.refunds = y.state.stripe.refunds := hstripe
    rwa [hsame]⟩
  obtain ⟨hG, hI'⟩ := keeps_advance tid _ hI hadv fun e he => absurd he List.not_mem_nil
  exact ⟨hG, hI', hA y _ hy ⟨hadv, by simp⟩ hI'⟩

/-- The call has cancelled its bookings; `rest` are the listed ones whose payments it has not come to
yet. -/
structure Marking (tid : ℕ) (rest : List (ℕ × Booking)) (x : LoggedWorld) : Prop where
  done : ∀ id, .bookingEnded id true ∈ x.own tid →
    MarkedRefunded tid id x ∨ ∃ r ∈ rest, r.1 = id ∧ r.2.isPaymentCaptured = true
  rows : ∀ id, .bookingEnded id true ∈ x.own tid →
    ∃ b, x.state.db.bookings.get? id = some b ∧ b.status ≠ .paymentPending
  listed : ListedIn x.state.db rest

theorem Marking.mono {rest : List (ℕ × Booking)} (h : Marking tid rest x)
    (hadv : DbAdvance x.state.db y.state.db) (hown : ∀ e ∈ x.own tid, e ∈ y.own tid)
    (hended : ∀ id, .bookingEnded id true ∈ y.own tid → .bookingEnded id true ∈ x.own tid) :
    Marking tid rest y where
  done id hid := by
    obtain ⟨b, hb, hs⟩ := h.rows id (hended id hid)
    exact (h.done id (hended id hid)).imp_left fun hm => hm.mono hadv hown hb hs
  rows id hid := by
    obtain ⟨b, hb, hs⟩ := h.rows id (hended id hid)
    obtain ⟨b', hb', hadv'⟩ := hadv.rows id b hb hs
    exact ⟨b', hb', hadv'.settled⟩
  listed := h.listed.mono hadv

theorem stable_marking {rest : List (ℕ × Booking)} : cancelProtocol.Stable tid (Marking tid rest) :=
  fun _ _ hx hr _ => hx.mono hr.advance.db (fun _ he => hr.own ▸ he) fun _ hid => hr.own ▸ hid

section Mark

variable {r : ℕ × Booking} {rest : List (ℕ × Booking)} {paymentId : ℕ}

/-- The call is at the payment of `r`. -/
structure AtMark (tid : ℕ) (r : ℕ × Booking) (rest : List (ℕ × Booking)) (x : LoggedWorld) :
    Prop where
  marking : Marking tid (r :: rest) x
  due : dueOf (x.own tid) = some r.1

theorem stable_atMark : cancelProtocol.Stable tid (AtMark tid r rest) :=
  fun x y hx hr hI => ⟨stable_marking x y hx.marking hr hI, hr.own ▸ hx.due⟩

/-- The call has found the payment of `r`. -/
def AtPayment (tid : ℕ) (r : ℕ × Booking) (rest : List (ℕ × Booking)) (paymentId : ℕ)
    (x : LoggedWorld) : Prop :=
  AtMark tid r rest x ∧ paymentKey x.state.db r.1 = some paymentId

theorem stable_atPayment : cancelProtocol.Stable tid (AtPayment tid r rest paymentId) := by
  intro x y hx hr hI
  refine ⟨stable_atMark x y hx.1 hr hI, ?_⟩
  obtain ⟨b, hb, hs, -⟩ := hx.1.marking.listed r List.mem_cons_self
  rw [hr.advance.db.payment _ b hb hs]
  exact hx.2

/-- Once its payment is marked, or it has none, the call goes on to the rest. -/
theorem Marking.next (h : Marking tid (r :: rest) x) (hmarked : MarkedRefunded tid r.1 x) :
    Marking tid rest x where
  done id hid := by
    rcases h.done id hid with hm | ⟨r', hr', heq, hcaptured⟩
    · exact Or.inl hm
    · rcases List.mem_cons.mp hr' with rfl | hr'
      · exact Or.inl (heq ▸ hmarked)
      · exact Or.inr ⟨r', hr', heq, hcaptured⟩
  rows := h.rows
  listed r' hr' := h.listed r' (List.mem_cons_of_mem _ hr')

/-- A booking that was not captured has no payment to mark. -/
theorem Marking.skip (h : Marking tid (r :: rest) x) (hcaptured : r.2.isPaymentCaptured = false) :
    Marking tid rest x where
  done id hid := by
    rcases h.done id hid with hm | ⟨r', hr', heq, hc⟩
    · exact Or.inl hm
    · rcases List.mem_cons.mp hr' with rfl | hr'
      · rw [hcaptured] at hc
        cases hc
      · exact Or.inr ⟨r', hr', heq, hc⟩
  rows := h.rows
  listed r' hr' := h.listed r' (List.mem_cons_of_mem _ hr')

theorem exists_of_paymentKey {d : Db} {id : ℕ} (h : paymentKey d id = some paymentId) :
    ∃ payment, (findPaymentOfBooking id).answer d = some (paymentId, payment) ∧
      d.payments.get? paymentId = some payment := by
  obtain ⟨⟨paymentId', payment⟩, hfound, rfl⟩ := Option.map_eq_some_iff.mp h
  refine ⟨payment, hfound, ?_⟩
  have hmem : (paymentId', payment) ∈ d.payments.filter fun _ p => p.bookingId == id :=
    List.mem_of_mem_head? hfound
  exact (Table.mem_filter_iff.mp hmem).1

/-- At a payment no step fails, and the payment can be refunded. -/
theorem AtPayment.condition (hy : AtPayment tid r rest paymentId y) {i : Reply} {es : List Event}
    (hcond : CancelStep op tid y i es) :
    i = .ok ∧ ∃ payment, y.state.db.payments.get? paymentId = some payment ∧
      payment.status.refundable = true := by
  obtain ⟨payment, hfound, hget⟩ := exists_of_paymentKey hy.2
  obtain ⟨hok, hrefundable⟩ := hcond.marked r.1 paymentId payment hy.1.due hfound
  exact ⟨hok, payment, hget, hrefundable⟩

/-- Looking the payment up. -/
theorem safe_findDue (hx : AtMark tid r rest x) :
    cancelProtocol.Safe op tid
      (fun res z => match res with
        | .ok (some (paymentId, _)) => AtPayment tid r rest paymentId z
        | .ok none | .error _ => Marking tid rest z)
      (sql (findPaymentOfBooking r.1)) x := by
  refine Protocol.Safe.perform stable_atMark hx fun y hy hI => ?_
  have hsame := keeps_advance tid [] hI (.refl y.state)
    fun e he => absurd he List.not_mem_nil
  have hunmarked : paymentKey y.state.db r.1 = none → Marking tid rest y := fun hkey =>
    hy.marking.next fun paymentId hsome => by
      rw [hkey] at hsome
      cases hsome
  refine keeps_transact (fun b d hb _ => ?_) fun i e hcond hi => ?_
  · obtain ⟨rfl, rfl⟩ := Prod.mk.injEq .. ▸ Except.ok.inj hb
    refine ⟨hsame.1, hsame.2, ?_⟩
    have hz : y.next tid [] y.state = y := next_nil y tid
    cases hfound : (findPaymentOfBooking r.1).answer y.state.db with
    | none =>
      show Marking tid rest (y.next tid [] y.state)
      rw [hz]
      exact hunmarked (by rw [paymentKey, hfound]; rfl)
    | some found =>
      show AtPayment tid r rest found.1 (y.next tid [] y.state)
      rw [hz]
      exact ⟨hy, by rw [paymentKey, hfound]; rfl⟩
  · rw [next_nil] at hsame
    refine ⟨hsame.1, hI, hunmarked ?_⟩
    -- where there is a payment the lookup does not fail
    cases hfound : (findPaymentOfBooking r.1).answer y.state.db with
    | none => rw [paymentKey, hfound]; rfl
    | some found =>
      obtain ⟨hok, -⟩ := hcond.marked r.1 found.1 found.2 hy.due hfound
      have herr := hi hok
      simp [Program.command, Tx.atomic] at herr

/-- Reading the payment: it is there and can be refunded. -/
theorem safe_readDue (hx : AtPayment tid r rest paymentId x) :
    cancelProtocol.Safe op tid
      (fun res z => ∃ payment, res = .ok payment ∧ payment.status.refundable = true ∧
        AtPayment tid r rest paymentId z)
      (sqlOrThrow (findUniqueOrThrow payments paymentId)) x := by
  refine Protocol.Safe.perform stable_atPayment hx fun y hy hI => ?_
  have hsame := keeps_advance tid [] hI (.refl y.state)
    fun e he => absurd he List.not_mem_nil
  refine keeps_transact (fun b d hb hcond => ?_) fun i e hcond hi => ?_
  · obtain ⟨hrow, rfl⟩ := Service.atomic_findUniqueOrThrow hb
    obtain ⟨-, payment, hget, hrefundable⟩ := hy.condition hcond
    obtain rfl := Option.some.inj (hrow.symm.trans hget)
    refine ⟨hsame.1, hsame.2, b, rfl, hrefundable, ?_⟩
    show AtPayment tid r rest paymentId (y.next tid [] y.state)
    rw [next_nil]
    exact hy
  · obtain ⟨hok, payment, hget, -⟩ := hy.condition hcond
    have herr := hi hok
    simp [Program.perform, Tx.atomic, findUniqueOrThrow, payments, hget] at herr

/-- Writing the payment does not fail, and says so. -/
theorem safe_writeDue {read : PaymentStatus} {f : Ctx → Payment → Payment}
    (hf : ∀ ctx p, (f ctx p).bookingId = p.bookingId) (hx : AtPayment tid r rest paymentId x) :
    cancelProtocol.Safe op tid
      (fun res z => ∃ written, res = .ok written ∧ Marking tid (r :: rest) z ∧
        paymentKey z.state.db r.1 = some paymentId ∧
        .paymentWritten paymentId read written.status ∈ z.own tid ∧
        (read ≠ .refundPending → dueOf (z.own tid) = some r.1))
      (writePayment paymentId read f) x := by
  refine Protocol.Safe.perform stable_atPayment hx fun y hy hI => ?_
  refine keeps_transact (fun written d hb hcond => ?_) fun i e hcond hi => ?_
  · obtain ⟨row, hrow, rfl, rfl⟩ := Service.atomic_update hb
    intro z
    have hadv : Advance y.state z.state :=
      ⟨.of_view (keptView_paymentWrites _ _ _ (hf _)), fun _ hr => hr⟩
    -- a write of a payment ends no booking
    have hnew : ∀ e ∈ [Event.paymentWritten paymentId read (f ⟨y.state.now, y.state.db.freshId⟩
        row).status], ∀ b saw, e ≠ .bookingEnded b saw := by
      intro e he b saw heq
      rw [List.mem_singleton.mp he] at heq
      cases heq
    obtain ⟨hG, hI'⟩ := keeps_advance tid _ hI hadv hnew
    have hown : z.own tid = y.own tid ++ [.paymentWritten paymentId read
        (f ⟨y.state.now, y.state.db.freshId⟩ row).status] := Logged.own_next_self _ _ _ _
    refine ⟨hG, hI', _, rfl, ?_, ?_, ?_, fun hread => ?_⟩
    · refine hy.1.marking.mono hadv.db (fun e he => ?_) fun id hid => ?_
      · rw [hown]
        exact List.mem_append_left _ he
      · rw [hown, List.mem_append] at hid
        exact hid.resolve_right fun h => hnew _ h id true rfl
    · obtain ⟨b, hb', hs, -⟩ := hy.1.marking.listed r List.mem_cons_self
      rw [hadv.db.payment _ b hb' hs]
      exact hy.2
    · rw [hown]
      exact List.mem_append_right _ List.mem_cons_self
    · rw [hown, dueOf, List.foldl_append]
      show (match Event.paymentWritten paymentId read _ with
        | .refundDue booking => some booking
        | .paymentWritten _ .refundPending _ => none
        | _ => dueOf (y.own tid)) = some r.1
      cases read <;> first | exact absurd rfl hread | exact hy.1.due
  · -- the write is not refused: the condition says so, and the row is there
    obtain ⟨hok, payment, hget, -⟩ := hy.condition hcond
    have herr := hi hok
    rw [Service.atomic_update_of_some (T := payments) hget] at herr
    cases herr

theorem leaves_recordRefund_silent (subject : LedgerSubject) (amount : ℤ) (split : RefundSplit) :
    (recordRefund subject amount split).Leaves silentFrame :=
  LedgerApart.recordGroup (fun _ _ => rfl) _

/-- The second half of marking: the write that counts, and the ledger. -/
theorem safe_recordRefundedDue {driverId : ℕ} {payment : Payment} {amount : ℤ}
    (hx : AtPayment tid r rest paymentId x) :
    cancelProtocol.Safe op tid (fun _ => Marking tid rest)
      (recordRefunded paymentId driverId payment amount) x := by
  unfold recordRefunded
  simp only [assertTransition_of_mem (statusAfterRefund_mem payment (payment.splitRefund amount)),
    Program.bind_eq, Program.ret_bind]
  refine Protocol.Safe.bind ((safe_writeDue (by intros; rfl) hx).mono ?_)
  rintro res y ⟨written, rfl, hmarking, hkey, hwritten, -⟩
  have hmarked : MarkedRefunded tid r.1 y := by
    intro paymentId' hkey'
    obtain rfl := Option.some.inj (hkey.symm.trans hkey')
    exact ⟨_, hwritten⟩
  refine (safe_silent stable_marking (leaves_recordRefund_silent _ _ _)
    (hmarking.next hmarked)).sequence fun _ z hz => hz

theorem safe_markRefundedDue {driverId : ℕ} {amount : Option ℤ}
    (hx : AtPayment tid r rest paymentId x) :
    cancelProtocol.Safe op tid (fun _ => Marking tid rest)
      (markRefunded paymentId driverId amount) x := by
  refine Protocol.Safe.bind ((safe_readDue hx).mono ?_)
  rintro res y ⟨payment, rfl, hrefundable, hy⟩
  dsimp only
  split_ifs with hrefunded hpending
  · rw [hrefunded] at hrefundable
    cases hrefundable
  · exact safe_recordRefundedDue hy
  · have hmem : PaymentStatus.refundPending ∈ payment.status.transitions := by
      simpa [PaymentStatus.refundable, hpending] using hrefundable
    simp only [assertTransition_of_mem hmem, Program.bind_eq, Program.ret_bind]
    refine Protocol.Safe.bind ((safe_writeDue (by intros; rfl) hy).mono ?_)
    rintro res z ⟨written, rfl, hmarking, hkey, -, hdue⟩
    exact safe_recordRefundedDue ⟨⟨hmarking, hdue hpending⟩, hkey⟩

/-- The call comes to the payment of a listed booking. -/
theorem safe_refundDue (hx : Marking tid (r :: rest) x) :
    cancelProtocol.Safe op tid (fun res z => res = .ok () ∧ AtMark tid r rest z)
      (Program.command (.note [.refundDue r.1])) x := by
  refine Protocol.Safe.command stable_marking hx fun y hy hI i _ es s hexec _ => ?_
  obtain ⟨rfl, rfl⟩ : [Event.refundDue r.1] = es ∧ y.state = s := by
    simpa [servicePool, Call.exec] using hexec
  have hnew : ∀ e ∈ [Event.refundDue r.1], ∀ b saw, e ≠ .bookingEnded b saw := by
    intro e he b saw heq
    rw [List.mem_singleton.mp he] at heq
    cases heq
  obtain ⟨hG, hI'⟩ := keeps_advance tid _ hI (.refl y.state) hnew
  refine ⟨hG, hI', rfl, hy.mono (.refl _) (fun e he => ?_) fun id hid => ?_, ?_⟩
  · rw [Logged.own_next_self]
    exact List.mem_append_left _ he
  · rw [Logged.own_next_self, List.mem_append] at hid
    exact hid.resolve_right fun h => hnew _ h id true rfl
  · rw [Logged.own_next_self, dueOf, List.foldl_append]
    rfl

/-- **The payment of one listed booking** is marked, if it has been captured and has one. -/
theorem safe_markListedRefund {driverId : ℕ}
    (hpos : r.2.isPaymentCaptured = true → 0 < r.2.fullRefundAmount)
    (hx : Marking tid (r :: rest) x) :
    cancelProtocol.Safe op tid (fun res z => res = .ok () ∧ Marking tid rest z)
      (markListedRefund {} driverId r) x := by
  unfold markListedRefund
  by_cases hdue : ((({} : Settings).bypassPayment = true ∨ r.2.isPaymentCaptured = true) ∧
      0 < r.2.fullRefundAmount)
  · rw [if_pos hdue]
    refine Protocol.Safe.bind ((safe_refundDue hx).mono ?_)
    rintro res y ⟨rfl, hy⟩
    have hmark : cancelProtocol.Safe op tid (fun _ => Marking tid rest)
        (do let _ ← markBookingPaymentRefunded r.1 driverId (some r.2.fullRefundAmount)) y := by
      refine Protocol.Safe.sequence (Protocol.Safe.bind ((safe_findDue hy).mono ?_)) fun _ _ hz => hz
      rintro (e | _ | ⟨paymentId, payment⟩) z hz
      · exact hz
      · exact hz
      · exact (safe_markRefundedDue hz).sequence fun _ _ hz' => hz'
    -- a failure is only logged
    refine Protocol.Safe.tryCatch (hmark.mono ?_)
    rintro (e | _) z hz
    · exact ⟨rfl, hz⟩
    · exact ⟨rfl, hz⟩
  · rw [if_neg hdue]
    refine ⟨rfl, hx.skip ?_⟩
    by_contra hcaptured
    have hcaptured : r.2.isPaymentCaptured = true := by simpa using hcaptured
    exact hdue ⟨Or.inr hcaptured, hpos hcaptured⟩

end Mark

theorem safe_markListedRefunds {driverId : ℕ} {listed : List (ℕ × Booking)}
    (hpos : ∀ r ∈ listed, r.2.isPaymentCaptured = true → 0 < r.2.fullRefundAmount)
    (hx : Marking tid listed x) :
    cancelProtocol.Safe op tid (fun _ => NothingDue tid)
      ((Program.forEach listed (markListedRefund {} driverId)).bind fun _ =>
        Program.forEach listed fun _ => notify) x := by
  refine Protocol.Safe.bind (Protocol.Safe.mono (Q := fun _ => Marking tid []) ?_ ?_)
  · induction listed generalizing x with
    | nil => exact hx
    | cons r rest ih =>
      refine Protocol.Safe.bind ((safe_markListedRefund (hpos r List.mem_cons_self) hx).mono ?_)
      rintro res y ⟨rfl, hy⟩
      exact ih (fun r' hr' => hpos r' (List.mem_cons_of_mem _ hr')) hy
  · have hend : ∀ y, Marking tid [] y → NothingDue tid y := by
      intro y hy id hid
      refine ⟨hy.rows id hid, (hy.done id hid).resolve_right ?_⟩
      rintro ⟨r, hr, -⟩
      cases hr
    have hnotify : Service.Leaves silentFrame (Program.forEach listed fun _ => notify) :=
      Program.Issues.forEach fun _ => leaves_notify
    rintro (e | _) y hy
    · exact hend y hy
    · exact (safe_silent stable_marking hnotify hy).mono fun _ z hz => hend z hz

/-! ### The call -/

/-- The call has reported nothing yet. -/
def Unreported (tid : ℕ) (x : LoggedWorld) : Prop := x.own tid = []

theorem stable_unreported : cancelProtocol.Stable tid (Unreported tid) :=
  fun _ _ hx hr _ => hr.own.trans hx

theorem Unreported.nothingDue (h : Unreported tid x) : NothingDue tid x := by
  intro id hid
  rw [h] at hid
  cases hid

/-- Listing the bookings to refund. -/
theorem safe_listActive {rideId : ℕ} (hx : Unreported tid x) :
    cancelProtocol.Safe op tid
      (fun res z => Unreported tid z ∧ ∀ listed, res = .ok listed → ListedIn z.state.db listed)
      (sql (findMany bookings (isActiveOn rideId))) x := by
  refine Protocol.Safe.perform stable_unreported hx fun y hy hI => ?_
  have hsame := keeps_advance tid [] hI (.refl y.state)
    fun e he => absurd he List.not_mem_nil
  rw [next_nil] at hsame
  refine keeps_transact (fun b d hb _ => ?_) fun i e _ _ => ?_
  · obtain ⟨rfl, rfl⟩ := Prod.mk.injEq .. ▸ Except.ok.inj hb
    show CancelGuar tid y (y.next tid [] y.state) ∧ CancelInv (y.next tid [] y.state) ∧
      Unreported tid (y.next tid [] y.state) ∧ ∀ listed, Except.ok _ = Except.ok listed →
        ListedIn (y.next tid [] y.state).state.db listed
    rw [next_nil]
    refine ⟨hsame.1, hI, hy, ?_⟩
    rintro listed ⟨⟩ r hr
    obtain ⟨hget, hactive⟩ := Table.mem_filter_iff.mp hr
    refine ⟨r.2, hget, fun hs => ?_, rfl⟩
    simp [isActiveOn, hs, BookingStatus.goesWithRide] at hactive
  · exact ⟨hsame.1, hI, hy, fun listed h => by cases h⟩

theorem mem_reportRideCancelled {rideId : ℕ} {listed : List (ℕ × Booking)} {cancelled : List ℕ}
    {id : ℕ} {saw : Bool} (h : .bookingEnded id saw ∈ reportRideCancelled rideId listed cancelled) :
    id ∈ cancelled ∧ (saw = true → ∃ r ∈ listed, r.1 = id ∧ r.2.isPaymentCaptured = true) := by
  rcases List.mem_cons.mp h with heq | h
  · cases heq
  obtain ⟨id', hid', heq⟩ := List.mem_map.mp h
  cases heq
  refine ⟨hid', fun hsaw => ?_⟩
  obtain ⟨r, hr, hcaptured⟩ := List.any_eq_true.mp hsaw
  simp only [Bool.and_eq_true, beq_iff_eq] at hcaptured
  exact ⟨r, hr, hcaptured.1, hcaptured.2⟩

/-- **The commit**: what the transaction has cancelled is refunded if it has been captured, and its
payments are left to mark. -/
theorem committed_cancelRideTx {rideId : ℕ} {listed : List (ℕ × Booking)} {cancelled : List ℕ}
    {ctx : Ctx} {d : Db} {s' : Stripe} (tid : ℕ) (hy : Unreported tid y) (hI : CancelInv y)
    (hlisted : ListedIn y.state.db listed)
    (hbody : (cancelRideTx {} rideId listed ctx).atomic y.state.db y.state.stripe =
      (.ok (cancelled, d), s'))
    (hcond : ∀ id b, .bookingEnded id false ∈ reportRideCancelled rideId listed cancelled →
      y.state.db.bookings.get? id = some b → b.isPaymentCaptured = false) :
    let z := y.next tid (reportRideCancelled rideId listed cancelled)
      { y.state with db := d, stripe := s' }
    CancelGuar tid y z ∧ CancelInv z ∧ Marking tid listed z ∧
      ∀ r ∈ listed, r.2.isPaymentCaptured = true → 0 < r.2.fullRefundAmount := by
  intro z
  obtain ⟨hdb, hgrow, hcancelled, hannounced, hrefunded⟩ := cancelRideTx_commits rfl hlisted hbody
  have hadv : Advance y.state z.state := ⟨hdb, hgrow⟩
  have hown : z.own tid = reportRideCancelled rideId listed cancelled := by
    rw [Logged.own_next_self, hy]
    rfl
  refine ⟨⟨hadv, fun t ht => Logged.own_next_ne ht⟩, fun t id saw hid => ?_, ⟨fun id hid => ?_,
    fun id hid => ?_, hlisted.mono hdb⟩, fun r hr hcaptured => (hrefunded r hr hcaptured).1⟩
  · -- what had been cancelled before, and what this call has cancelled
    by_cases ht : t = tid
    · subst ht
      rw [hown] at hid
      obtain ⟨hmem, hseen⟩ := mem_reportRideCancelled hid
      obtain ⟨⟨b, hb, hs⟩, b', hb', hstatus⟩ := hcancelled id hmem
      obtain ⟨b₂, hb₂, hkept⟩ := hdb.rows id b hb hs
      obtain rfl := Option.some.inj (hb'.symm.trans hb₂)
      refine ⟨b', hb', hstatus, fun hcaptured => ?_, fun hsaw => ?_⟩
      · -- a booking that the call has not read as captured has not been
        by_contra hunseen
        have hfalse : saw = false := by simpa using hunseen
        subst hfalse
        have hnot := hcond id b hid hb
        rw [(charge_fields hkept.charge).1, hnot] at hcaptured
        cases hcaptured
      · obtain ⟨r, hr, rfl, hcaptured⟩ := hseen hsaw
        obtain ⟨b₃, hb₃, hsome⟩ := hannounced r hr
        obtain rfl := Option.some.inj (hb'.symm.trans hb₃)
        obtain ⟨b₄, hb₄, -, hcharge⟩ := hlisted r hr
        obtain rfl := Option.some.inj (hb.symm.trans hb₄)
        obtain ⟨-, hfull, hintent⟩ := charge_fields (hkept.charge.trans hcharge)
        refine ⟨hsome, fun paymentIntent hpi => ?_⟩
        rw [hintent] at hpi
        obtain ⟨refund, hmem'⟩ := (hrefunded r hr hcaptured).2 paymentIntent hpi
        exact ⟨refund, by rw [hfull]; exact hmem'⟩
    · rw [Logged.own_next_ne ht] at hid
      exact CancelInv.entry_mono (y := z) hadv (hI t id saw hid)
  · rw [hown] at hid
    obtain ⟨r, hr, heq, hcaptured⟩ := (mem_reportRideCancelled hid).2 rfl
    exact Or.inr ⟨r, hr, heq, hcaptured⟩
  · rw [hown] at hid
    obtain ⟨-, b', hb', hstatus⟩ := hcancelled id (mem_reportRideCancelled hid).1
    exact ⟨b', hb', by rw [hstatus]; simp⟩

/-- The transaction of the call. -/
theorem safe_cancelRideTx {rideId : ℕ} {listed : List (ℕ × Booking)} (hx : Unreported tid x)
    (hlisted : ListedIn x.state.db listed) :
    cancelProtocol.Safe op tid
      (fun res z => match res with
        | .ok _ => Marking tid listed z ∧
            ∀ r ∈ listed, r.2.isPaymentCaptured = true → 0 < r.2.fullRefundAmount
        | .error _ => Unreported tid z)
      (Program.perform (.transactWithStripe (cancelRideTx {} rideId listed)
        (reportRideCancelled rideId listed))) x := by
  refine Protocol.Safe.perform (A := fun y => Unreported tid y ∧ ListedIn y.state.db listed)
    (fun y z hy hr hI => ⟨stable_unreported y z hy.1 hr hI, hy.2.mono hr.advance.db⟩)
    ⟨hx, hlisted⟩ fun y hy hI i b es s hexec hcond => ?_
  obtain ⟨hunreported, hlisted⟩ := hy
  have hnone : ∀ e ∈ ([] : List Event), ∀ b saw, e ≠ .bookingEnded b saw :=
    fun e he => absurd he List.not_mem_nil
  -- a transaction that throws may have refunded at Stripe, and has ended no booking
  have hfail : ∀ (e : Err) (w : World), w.db = y.state.db →
      (∀ q ∈ y.state.stripe.refunds.rows, q ∈ w.stripe.refunds.rows) →
      CancelGuar tid y (y.next tid [] w) ∧ CancelInv (y.next tid [] w) ∧
        Unreported tid (y.next tid [] w) := by
    intro e w hdb hrefunds
    have hadv : Advance y.state w := ⟨hdb ▸ .refl _, hrefunds⟩
    obtain ⟨hG, hI'⟩ := keeps_advance tid _ hI hadv hnone
    refine ⟨hG, hI', ?_⟩
    rw [Unreported, Logged.own_next_self, hunreported]
    rfl
  cases i with
  | refused | lost =>
    obtain ⟨rfl, rfl, rfl⟩ := Option.some.inj hexec
    exact hfail .unavailable y.state rfl fun _ h => h
  | ok =>
    simp only [servicePool, Call.exec, Option.some.injEq] at hexec
    rcases hbody : (cancelRideTx {} rideId listed ⟨y.state.now, y.state.db.freshId⟩).atomic
        y.state.db y.state.stripe with ⟨e | ⟨cancelled, d⟩, s'⟩
    · rw [hbody] at hexec
      obtain ⟨rfl, rfl, rfl⟩ := hexec
      refine hfail e _ rfl fun q hq => ?_
      have hgrow := cancelRideTx_refunds (d := y.state.db) (s := y.state.stripe) {} rideId
        listed ⟨y.state.now, y.state.db.freshId⟩ q hq
      rw [hbody] at hgrow
      exact hgrow
    · rw [hbody] at hexec
      obtain ⟨rfl, rfl, rfl⟩ := hexec
      obtain ⟨hG, hI', hmarking, hpos⟩ :=
        committed_cancelRideTx tid hunreported hI hlisted hbody hcond.listed
      exact ⟨hG, hI', hmarking, hpos⟩

/-- **Cancelling a ride** leaves no payment due. -/
theorem safe_cancelRide {driverId rideId : ℕ} (hx : Unreported tid x) :
    cancelProtocol.Safe op tid (fun _ => NothingDue tid) (cancelRide {} driverId rideId) x := by
  unfold cancelRide
  refine Protocol.Safe.bind ((safe_silent stable_unreported ?_ hx).mono ?_)
  · exact leaves_sql fun _ _ => rfl
  rintro (e | _ | found) y hy
  · exact hy.nothingDue
  · exact hy.nothingDue
  refine Protocol.Safe.bind ((safe_listActive hy).mono ?_)
  rintro (e | listed) z ⟨hz, hlisted⟩
  · exact hz.nothingDue
  refine Protocol.Safe.bind ((safe_cancelRideTx hz (hlisted listed rfl)).mono ?_)
  rintro (e | cancelled) w hw
  · exact hw.nothingDue
  · exact safe_markListedRefunds hw.2 hw.1

end Safe

/-! ## The result -/

theorem safe_cancelOperations : cancelProtocol.SafeOperations := by
  intro op tid x _ hlog
  have hown : x.own tid = [] := Logged.own_eq_nil hlog
  cases op with
  | cancelRide driverId rideId => exact safe_cancelRide hown
  | succeeded settings paymentIntent intent =>
    exact safe_succeeded ((applies_applyStripePaymentSucceededToBooking settings paymentIntent
      intent).bind fun _ => trivial) hown

/-- Before any call has been started. -/
def startCancel (w : World) : Pool Call Err Event World CancelOp := { now := { state := w } }

/-- When a call owes nothing, what it has cancelled is refunded. -/
theorem CancelInv.refundedInFull {x : LoggedWorld} {tid : ℕ} (hI : CancelInv x)
    (hdue : NothingDue tid x) : RefundedInFull tid x := by
  intro id saw b hid hb hcaptured
  obtain ⟨b', hb', hstatus, hsaw, hrefund⟩ := hI tid id saw hid
  obtain rfl := Option.some.inj (hb'.symm.trans hb)
  have hseen := hsaw hcaptured
  subst hseen
  obtain ⟨hamount, hstripe⟩ := hrefund rfl
  exact ⟨hstatus, hamount, hstripe, (hdue id hid).2⟩

/-- **A cancelled ride refunds every rider who has paid**: in every history of cancellations and
payments in which no booking that a cancellation ends has been captured since the list was read, and
every payment that it comes to mark can be refunded, no step there failing, a captured booking that
has been cancelled with its ride is refunded at Stripe, on its row and on its payment whenever no
call is under way. -/
theorem cancelled_ride_refunds_all (w : World) (moves : List (Move CancelOp Reply World))
    (hmoves : History.Each (Pool.step cancelPool)
      (Pool.Meets cancelPool CancelStep fun _ _ => True) (startCancel w) moves) :
    History.Always (Pool.step cancelPool) (fun p => p.Idle → ∀ tid, RefundedInFull tid p.now)
      (startCancel w) moves := by
  have hinv : CancelInv (startCancel w).now := fun tid id saw hid => (nomatch hid)
  have hholds := Protocol.holds_of_inv (P := cancelProtocol) (p := startCancel w) hinv rfl rfl
  refine (Protocol.sound safe_cancelOperations hholds hmoves).imp fun p hp hidle tid => ?_
  refine CancelInv.refundedInFull hp.inv ?_
  cases ht : p.threads[tid]? with
  | some thread =>
    obtain ⟨op, rest⟩ := thread
    exact hp.post ht (hidle _ (List.mem_of_getElem? ht))
  | none =>
    -- no such call: the log does not name it
    refine Unreported.nothingDue (Logged.own_eq_nil fun entry hentry heq => ?_)
    have hlt := hp.logLt entry hentry
    rw [heq] at hlt
    exact absurd hlt (not_lt.mpr (List.getElem?_eq_none_iff.mp ht))

/-! ### One ride with one rider -/

/-- A published ride with four seats, and its one booking with its payment. -/
private def oneRiderWorld (booking : Booking) (status : PaymentStatus) : World where
  db := {
    rides := ⟨[(1, {
      driverId := 4, totalSeats := 4, availableSeats := 4, status := .published
      departureAt := 90000000 })], by simp⟩
    bookings := ⟨[(7, booking)], by simp⟩
    payments := ⟨[(9, { samplePayment with bookingId := 7, rideId := 1, status })], by simp⟩ }
  stripe := { intents := ⟨[(3, {
    bookingId := some 7, amount := 1020, amountReceived := 1020, status := .succeeded })], by simp⟩ }

private def unpaidBooking : Booking where
  rideId := 1
  passengerId := 5
  seatsBooked := 1
  totalPrice := 1020
  stripePaymentIntentId := some 3

private def paidBooking : Booking :=
  { unpaidBooking with
    status := .driverPending
    paymentAmount := some 1020
    paymentCapturedAt := some 5
    seatsReservedAt := some 5 }

private def succeededIntent : Intent where
  bookingId := some 7
  amount := 1020
  amountReceived := 1020
  status := .succeeded

/-- The driver cancels the ride of a rider who has paid. -/
private def paidThenCancelled : List (Move CancelOp Reply World) :=
  .start (.cancelRide 4 1) :: List.replicate 10 (.step 0 .ok)

/-- The one payment can be refunded, whatever the call is at. -/
private theorem paidDue {x : LoggedWorld} {row : Payment}
    (hx : x.state.db.payments.rows = [(9, row)]) (hrow : row.status.refundable = true) :
    ∀ id paymentId payment, dueOf (x.own 0) = some id →
      (findPaymentOfBooking id).answer x.state.db = some (paymentId, payment) →
      Reply.ok = .ok ∧ payment.status.refundable = true := by
  intro id paymentId payment _ hfound
  have hmem : (paymentId, payment) ∈ x.state.db.payments.rows :=
    List.mem_of_mem_filter (List.mem_of_mem_head? hfound)
  rw [hx] at hmem
  obtain rfl := (Prod.mk.injEq .. ▸ List.mem_singleton.mp hmem).2
  exact ⟨rfl, hrow⟩

/-- A rider who has paid by the time the ride is cancelled is refunded. -/
theorem paid_rider_refunded :
    History.Always (Pool.step cancelPool) (fun p => p.Idle → ∀ tid, RefundedInFull tid p.now)
      (startCancel (oneRiderWorld paidBooking .paid)) paidThenCancelled := by
  refine cancelled_ride_refunds_all _ paidThenCancelled
    ⟨trivial, ?_, ?_, ?_, ?_, ?_, ?_, ?_, ?_, ?_, ?_, trivial⟩
  -- the ride, the list and the transaction, with no payment to mark yet
  · rintro op rest ⟨⟩ b es s ⟨⟩
    exact ⟨fun _ _ h => (nomatch h), fun _ _ _ h => (nomatch h)⟩
  · rintro op rest ⟨⟩ b es s ⟨⟩
    exact ⟨fun _ _ h => (nomatch h), fun _ _ _ h => (nomatch h)⟩
  · rintro op rest ⟨⟩ b es s ⟨⟩
    refine ⟨fun id b h => ?_, fun _ _ _ h => (nomatch h)⟩
    have hreport : Event.bookingEnded id false ∈
      [.rideMoved 1 .cancelled, .bookingEnded 7 true] := h
    simp at hreport
  · rintro op rest ⟨⟩ b es s ⟨⟩
    exact ⟨fun _ _ h => (nomatch List.mem_singleton.mp h), fun _ _ _ h => (nomatch h)⟩
  -- its payment, which is `PAID` and then `REFUND_PENDING`
  · rintro op rest ⟨⟩ b es s ⟨⟩
    exact ⟨fun _ _ h => (nomatch h), paidDue rfl rfl⟩
  · rintro op rest ⟨⟩ b es s ⟨⟩
    exact ⟨fun _ _ h => (nomatch h), paidDue rfl rfl⟩
  · rintro op rest ⟨⟩ b es s ⟨⟩
    exact ⟨fun _ _ h => (nomatch List.mem_singleton.mp h), paidDue rfl rfl⟩
  · rintro op rest ⟨⟩ b es s ⟨⟩
    exact ⟨fun _ _ h => (nomatch List.mem_singleton.mp h), paidDue rfl rfl⟩
  -- the ledger and the notification, with the payment marked
  · rintro op rest ⟨⟩ b es s ⟨⟩
    exact ⟨fun _ _ h => (nomatch h), fun _ _ _ h => (nomatch h)⟩
  · rintro op rest ⟨⟩ b es s ⟨⟩
    exact ⟨fun _ _ h => (nomatch h), fun _ _ _ h => (nomatch h)⟩

/-- The ride is cancelled once its bookings have been listed and a payment has been claimed. -/
private def paidBetween : List (Move CancelOp Reply World) :=
  [.start (.cancelRide 4 1), .start (.succeeded {} 3 succeededIntent), .step 0 .ok, .step 0 .ok,
    .step 1 .ok, .step 1 .ok, .step 0 .ok] ++ List.replicate 12 (.step 1 .ok)

/-- The ride is cancelled between the claim of a payment and its being marked paid. -/
private def markedTooLate : List (Move CancelOp Reply World) :=
  [.start (.cancelRide 4 1), .start (.succeeded {} 3 succeededIntent), .step 1 .ok, .step 1 .ok] ++
    List.replicate 8 (.step 0 .ok) ++ List.replicate 12 (.step 1 .ok)

/-- A rider whose payment is claimed once the bookings have been listed is cancelled without a refund,
and a refund is not marked on a payment that is not marked paid yet. -/
theorem paid_rider_stranded :
    ¬ History.Always (Pool.step cancelPool) (fun p => p.Idle → ∀ tid, RefundedInFull tid p.now)
        (startCancel (oneRiderWorld unpaidBooking .paymentPending)) paidBetween ∧
      ¬ History.Always (Pool.step cancelPool) (fun p => p.Idle → ∀ tid, RefundedInFull tid p.now)
        (startCancel (oneRiderWorld unpaidBooking .paymentPending)) markedTooLate := by
  refine ⟨fun h => ?_, fun h => ?_⟩
  · have hidle := h.last (List.forall_mem_cons.mpr ⟨trivial, List.forall_mem_cons.mpr
      ⟨trivial, fun _ ht => (nomatch ht)⟩⟩)
    obtain ⟨-, hsome, -⟩ := hidle 0 7 false _ (List.mem_cons_of_mem _ List.mem_cons_self) rfl rfl
    cases hsome
  · have hidle := h.last (List.forall_mem_cons.mpr ⟨trivial, List.forall_mem_cons.mpr
      ⟨trivial, fun _ ht => (nomatch ht)⟩⟩)
    obtain ⟨-, -, -, hmarked⟩ := hidle 0 7 true _ (List.mem_cons_of_mem _ List.mem_cons_self) rfl rfl
    obtain ⟨written, hwritten⟩ := hmarked 9 rfl
    have hevents : .paymentWritten 9 .refundPending written ∈
        [Event.rideMoved 1 .cancelled, .bookingEnded 7 true, .refundDue 7] := hwritten
    simp at hevents

end Deliivo
