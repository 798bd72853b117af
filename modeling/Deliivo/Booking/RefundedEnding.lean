import Deliivo.Admin.BookingRefund
import Deliivo.Booking.Frame
import Deliivo.Domain.Attempt
import Deliivo.Domain.Preserves
import Deliivo.Store.RowView

/-!
# Bookings that end with their refund

A ride that its driver cancels, an account that is deleted, a booking that an administrator refunds and
one that nobody has answered are refunded at Stripe from within the transaction that cancels them. What
such a transaction does if it commits is a list of the bookings that have ended, each with or without a
refund; what Stripe has done if it does not are refunds of bookings that it was to end.

## Main definitions

* `EndedBooking`, `Ended`: the bookings that have ended between two states, and Stripe's refunds of them
* `TxCall.OnlyRefunds`: Stripe is asked for refunds only

## Main results

* `Ended.append`: what ends one after the other
* `ended_closeRide`, `ended_cancelRideTx`, `ended_cancelUnansweredBooking`, `ended_adminRefundTx`: the
  transactions
* `StripeTx.attempt_refunds`: what Stripe has done, whatever has become of the transaction
-/

namespace Deliivo


/-! ## Refunds at Stripe -/

/-- The intents that Stripe has refunded, one for each refund. -/
def Stripe.refundedIntents (s : Stripe) : List ℕ := s.refunds.rows.map fun r => r.2.paymentIntent

/-- The intents that Stripe has refunded since it stood at `s`. -/
def Stripe.intentsSince (s s' : Stripe) : List ℕ := (s.refundsSince s').map StripeRefund.paymentIntent

theorem intentsSince_of_append {s s' : Stripe} {extra : List ℕ}
    (h : s'.refundedIntents = s.refundedIntents ++ extra) : s.intentsSince s' = extra := by
  have hdrop : s.intentsSince s' = s'.refundedIntents.drop s.refundedIntents.length := by
    simp only [Stripe.intentsSince, Stripe.refundsSince, Stripe.refundedIntents, List.map_drop,
      List.map_map, List.length_map]
    rfl
  rw [hdrop, h, List.drop_left]

theorem refundedIntents_withRefund (s : Stripe) (paymentIntent : ℕ) (amount : ℤ) :
    (s.withRefund paymentIntent amount).refundedIntents = s.refundedIntents ++ [paymentIntent] := by
  have hnew : s.refunds.get? s.refunds.nextKey = none := Table.get?_of_nextKey_le le_rfl
  rw [Stripe.refundedIntents, Stripe.withRefund, Table.insert_rows hnew, List.map_append]
  rfl

theorem refundedIntents_createRefund {s s' : Stripe} {paymentIntent refundId : ℕ} {amount : ℤ}
    (h : Stripe.createRefund paymentIntent amount s = .ok (refundId, s')) :
    s'.refundedIntents = s.refundedIntents ++ [paymentIntent] := by
  unfold Stripe.createRefund at h
  split_ifs at h with haccepts
  obtain ⟨-, rfl⟩ := Prod.mk.injEq .. ▸ Except.ok.inj h
  exact refundedIntents_withRefund _ _ _

/-! ## Intents of bookings -/

/-- No two bookings have the same intent: `stripePaymentIntentId` is unique. -/
def Db.IntentsUnique (d : Db) : Prop :=
  ∀ id id' b b' paymentIntent, d.bookings.get? id = some b → d.bookings.get? id' = some b' →
    b.stripePaymentIntentId = some paymentIntent → b'.stripePaymentIntentId = some paymentIntent →
    id = id'

/-- The bookings are the same, each with its intent. -/
def Db.SameIntents (d d' : Db) : Prop :=
  d'.bookings.viewed Booking.stripePaymentIntentId = d.bookings.viewed Booking.stripePaymentIntentId

theorem Db.IntentsUnique.same {d d' : Db} (h : d.IntentsUnique) (hsame : d.SameIntents d') :
    d'.IntentsUnique := by
  intro id id' b b' paymentIntent hb hb' hintent hintent'
  have hbefore : ∀ id b, d'.bookings.get? id = some b → ∃ b₀, d.bookings.get? id = some b₀ ∧
      b₀.stripePaymentIntentId = b.stripePaymentIntentId := by
    intro id b hb
    have hview := congrFun hsame id
    rw [Table.viewed, hb] at hview
    exact Option.map_eq_some_iff.mp hview.symm
  obtain ⟨b₀, hb₀, heq⟩ := hbefore id b hb
  obtain ⟨b₀', hb₀', heq'⟩ := hbefore id' b' hb'
  exact h id id' b₀ b₀' paymentIntent hb₀ hb₀' (heq.trans hintent) (heq'.trans hintent')

/-! ## Bookings that have ended -/

/-- A booking as it was before it has ended, and whether it was refunded. -/
structure EndedBooking where
  id : ℕ
  row : Booking
  refunded : Bool

/-- The intent that was refunded. -/
def EndedBooking.intent? (e : EndedBooking) : Option ℕ :=
  if e.refunded then e.row.stripePaymentIntentId else none

/-- The booking was `live`, and is cancelled. -/
structure EndedBooking.Row (live : Booking → Prop) (d d' : Db) (e : EndedBooking) : Prop where
  before : d.bookings.get? e.id = some e.row
  live : live e.row
  after : ∃ b, d'.bookings.get? e.id = some b ∧ b.status = .cancelled ∧
    b.stripePaymentIntentId = e.row.stripePaymentIntentId ∧
    (e.refunded = true → b.refundedAt.isSome = true)
  charged : e.refunded = true → e.row.stripePaymentIntentId.isSome = true
  uncharged : e.refunded = false → e.row.status ≠ .cancelled

/-- The bookings that have ended between two states; nothing else has become of the bookings, and of
Stripe's refunds. -/
structure Ended (live : Booking → Prop) (d : Db) (s : Stripe) (d' : Db) (s' : Stripe)
    (ended : List EndedBooking) : Prop where
  nodup : (ended.map EndedBooking.id).Nodup
  rows : ∀ e ∈ ended, e.Row live d d'
  others : ∀ id, id ∉ ended.map EndedBooking.id → d'.bookings.get? id = d.bookings.get? id
  refunds : s'.refundedIntents = s.refundedIntents ++ ended.filterMap EndedBooking.intent?

/-- The booking is cancelled, and says when it was refunded. -/
def Booking.Settled (booking : Booking) : Prop :=
  booking.status = .cancelled ∧ booking.refundedAt.isSome = true

/-- A booking that is not cancelled. -/
def Booking.Uncancelled (booking : Booking) : Prop := booking.status ≠ .cancelled

section Ended

variable {live : Booking → Prop} {d d' d'' : Db} {s s' s'' : Stripe} {ended ended' : List EndedBooking}

theorem Ended.of_same (hdb : d'.bookings = d.bookings)
    (hstripe : s'.refundedIntents = s.refundedIntents) : Ended live d s d' s' [] where
  nodup := List.nodup_nil
  rows _ he := absurd he List.not_mem_nil
  others _ _ := by rw [hdb]
  refunds := hstripe.trans (List.append_nil _).symm

/-- What has ended is cancelled, and does not end again. -/
theorem Ended.disjoint (h : Ended live d s d' s' ended)
    (h' : Ended Booking.Uncancelled d' s' d'' s'' ended') {id : ℕ} (hid : id ∈ ended.map EndedBooking.id) :
    id ∉ ended'.map EndedBooking.id := by
  intro hid'
  obtain ⟨e, he, rfl⟩ := List.mem_map.mp hid
  obtain ⟨e', he', heq⟩ := List.mem_map.mp hid'
  obtain ⟨b, hb, hcancelled, -⟩ := (h.rows e he).after
  have hbefore := (h'.rows e' he').before
  rw [heq, hb] at hbefore
  obtain rfl := Option.some.inj hbefore
  exact (h'.rows e' he').live hcancelled

theorem Ended.append (h : Ended Booking.Uncancelled d s d' s' ended)
    (h' : Ended Booking.Uncancelled d' s' d'' s'' ended') :
    Ended Booking.Uncancelled d s d'' s'' (ended ++ ended') where
  nodup := by
    rw [List.map_append, List.nodup_append]
    refine ⟨h.nodup, h'.nodup, fun id hid id' hid' heq => ?_⟩
    exact h.disjoint h' hid (heq ▸ hid')
  rows e he := by
    rcases List.mem_append.mp he with he | he
    · have hrow := h.rows e he
      have hkept := h'.others e.id (h.disjoint h' (List.mem_map_of_mem he))
      exact { hrow with after := by rw [hkept]; exact hrow.after }
    · have hrow := h'.rows e he
      have hkept := h.others e.id fun hid => h.disjoint h' hid (List.mem_map_of_mem he)
      exact { hrow with before := hkept ▸ hrow.before }
  others id hid := by
    rw [List.map_append, List.mem_append, not_or] at hid
    exact (h'.others id hid.2).trans (h.others id hid.1)
  refunds := by
    rw [h'.refunds, h.refunds, List.append_assoc, List.filterMap_append]

theorem Ended.mono {live' : Booking → Prop} (hlive : ∀ b, live b → live' b)
    (h : Ended live d s d' s' ended) : Ended live' d s d' s' ended where
  nodup := h.nodup
  rows e he := { h.rows e he with live := hlive _ (h.rows e he).live }
  others := h.others
  refunds := h.refunds

theorem Ended.sameIntents (h : Ended live d s d' s' ended) : d.SameIntents d' := by
  funext id
  by_cases hid : id ∈ ended.map EndedBooking.id
  · obtain ⟨e, he, rfl⟩ := List.mem_map.mp hid
    obtain ⟨b, hb, -, hintent, -⟩ := (h.rows e he).after
    rw [Table.viewed, Table.viewed, hb, (h.rows e he).before]
    exact congrArg some hintent
  · rw [Table.viewed, Table.viewed, h.others id hid]

/-- A booking that has not ended in between is there as it was. -/
theorem Ended.row_of_notMem (h : Ended live d s d' s' ended) {id : ℕ} {b : Booking}
    (hb : d.bookings.get? id = some b) (hid : id ∉ ended.map EndedBooking.id) :
    d'.bookings.get? id = some b := (h.others id hid).trans hb

end Ended

/-! ## The transactions -/

section Transactions

variable {live : Booking → Prop} {d d' d₁ : Db} {s s' s₁ : Stripe} {bookingId : ℕ} {b : Booking}

/-- A booking has been cancelled between two states, and no other booking has changed. -/
structure CancelledRow (d d' : Db) (bookingId : ℕ) (b : Booking) : Prop where
  before : d.bookings.get? bookingId = some b
  after : ∃ b', d'.bookings.get? bookingId = some b' ∧ b'.status = .cancelled ∧
    b'.stripePaymentIntentId = b.stripePaymentIntentId
  others : ∀ id, id ≠ bookingId → d'.bookings.get? id = d.bookings.get? id

theorem cancelledRow_modify {f : Booking → Booking}
    (hf : ∀ b, (f b).status = .cancelled ∧ (f b).stripePaymentIntentId = b.stripePaymentIntentId)
    (hb : d.bookings.get? bookingId = some b) :
    CancelledRow d { d with bookings := d.bookings.modify bookingId f } bookingId b where
  before := hb
  after := ⟨f b, (Table.get?_modify_self _ _ _).trans (congrArg _ hb), hf b⟩
  others _ hid := Table.get?_modify_ne _ _ hid

/-- It has ended without a refund. -/
theorem CancelledRow.unrefunded (h : CancelledRow d d' bookingId b) (hlive : live b)
    (hstatus : b.status ≠ .cancelled) : Ended live d s d' s [⟨bookingId, b, false⟩] where
  nodup := List.nodup_singleton _
  rows e he := by
    obtain rfl := List.mem_singleton.mp he
    obtain ⟨b', hb', hcancelled, hintent⟩ := h.after
    exact ⟨h.before, hlive, ⟨b', hb', hcancelled, hintent, (Bool.false_ne_true · |>.elim)⟩,
      (Bool.false_ne_true · |>.elim), fun _ => hstatus⟩
  others id hid := h.others id fun heq => hid (heq ▸ List.mem_singleton_self _)
  refunds := (List.append_nil _).symm

/-- It has ended with a refund that is written down. -/
theorem CancelledRow.refunded (h : CancelledRow d d₁ bookingId b) (hlive : live b)
    {paymentIntent : ℕ} (hintent : b.stripePaymentIntentId = some paymentIntent)
    (hrefund : s₁.refundedIntents = s.refundedIntents ++ [paymentIntent]) {f : Booking → Booking}
    (hf : ∀ b, (f b).status = b.status ∧ (f b).stripePaymentIntentId = b.stripePaymentIntentId ∧
      (f b).refundedAt.isSome = true)
    (hdb : d' = { d₁ with bookings := d₁.bookings.modify bookingId f }) :
    Ended live d s d' s₁ [⟨bookingId, b, true⟩] where
  nodup := List.nodup_singleton _
  rows e he := by
    obtain rfl := List.mem_singleton.mp he
    obtain ⟨b', hb', hcancelled, hsame⟩ := h.after
    obtain ⟨hstatus, hkept, hdated⟩ := hf b'
    refine ⟨h.before, hlive, ⟨f b', ?_, hstatus.trans hcancelled, hkept.trans hsame, fun _ => hdated⟩,
      fun _ => Option.isSome_iff_exists.mpr ⟨paymentIntent, hintent⟩,
      (Bool.false_ne_true ·.symm |>.elim)⟩
    rw [hdb]
    exact (Table.get?_modify_self _ _ _).trans (congrArg _ hb')
  others id hid := by
    have hne : id ≠ bookingId := fun heq => hid (heq ▸ List.mem_singleton_self _)
    rw [hdb]
    exact (Table.get?_modify_ne _ _ hne).trans (h.others id hne)
  refunds := by
    rw [hrefund]
    simp [EndedBooking.intent?, hintent]

/-- What giving seats back does not write: the other bookings, and three columns. -/
def besidesSeats (bookingId : ℕ) (d : Db) :
    ({id : ℕ // id ≠ bookingId} → Option Booking) × (ℕ → Option (BookingStatus × Bool × Option ℕ)) :=
  (fun id => d.bookings.get? id, d.bookings.viewed fun b =>
    (b.status, b.refundedAt.isSome, b.stripePaymentIntentId))

theorem leaves_releaseBookingSeats_besides (bookingId : ℕ) (hold : SeatHold) :
    (releaseBookingSeats bookingId hold).Leaves (besidesSeats bookingId) := by
  refine ((Program.issues_command _).mpr fun seen d => ?_).bind fun claimed => ?_
  · have hcolumns : (d.bookings.modifyWhere
        (fun id _ => seen.bookings.holds (fun id b => id == bookingId && b.seatsReservedAt.isSome) id)
        fun b => { b with seatsReservedAt := none }).viewed
        (fun b => (b.status, b.refundedAt.isSome, b.stripePaymentIntentId)) =
        d.bookings.viewed fun b => (b.status, b.refundedAt.isSome, b.stripePaymentIntentId) :=
      Table.viewed_modifyWhere_of_same (by intros; rfl) _
    refine Prod.ext ?_ hcolumns
    ext1 id
    refine (Table.get?_modifyWhere _ _ _ _).trans ?_
    -- only the booking itself is written
    have hnot : seen.bookings.holds (fun id b => id == bookingId && b.seatsReservedAt.isSome) id =
        false := by
      unfold Table.holds
      cases seen.bookings.get? (id : ℕ) with
      | none => rfl
      | some b => simp [id.2]
    simp only [bookings, hnot, Bool.false_eq_true, if_false]
    exact Option.map_id'
  · split_ifs
    · trivial
    · exact (leaves_releaseSegmentSeats (fun _ _ => rfl) (fun _ _ _ => rfl) _).bind fun _ => trivial

/-- Ending a booking cancels it. -/
theorem cancelledRow_endBooking {hold : SeatHold} {f : Booking → Booking} {u : Unit}
    (hf : ∀ b, (f b).status = .cancelled ∧ (f b).stripePaymentIntentId = b.stripePaymentIntentId)
    (hb : d.bookings.get? bookingId = some b)
    (hrun : (endBooking bookingId hold f).atomic d = .ok (u, d')) : CancelledRow d d' bookingId b := by
  obtain ⟨row, d₁, hupdate, hrest⟩ := Tx.atomic_bind.mp hrun
  obtain ⟨-, -, -, rfl⟩ := Service.atomic_update hupdate
  have hleaves : Tx.Leaves (besidesSeats bookingId)
      ((releaseBookingSeats bookingId hold).bind fun _ => .ret ()) :=
    (leaves_releaseBookingSeats_besides bookingId hold).bind fun _ => trivial
  obtain ⟨hothers, hcolumns⟩ := Prod.mk.injEq .. ▸ hleaves.atomic hrest
  refine ⟨hb, ?_, fun id hid => ?_⟩
  · have hrow := congrFun hcolumns bookingId
    have hmodified : (d.bookings.modify bookingId f).get? bookingId = some (f b) :=
      (Table.get?_modify_self _ _ _).trans (congrArg _ hb)
    simp only [Table.viewed, bookings, hmodified, Option.map_some] at hrow
    obtain ⟨b', hb', heq⟩ := Option.map_eq_some_iff.mp hrow
    obtain ⟨hstatus, -, hintent⟩ : b'.status = (f b).status ∧
        b'.refundedAt.isSome = (f b).refundedAt.isSome ∧
        b'.stripePaymentIntentId = (f b).stripePaymentIntentId := by
      simpa only [Prod.mk.injEq] using heq
    exact ⟨b', hb', hstatus.trans (hf b).1, hintent.trans (hf b).2⟩
  · exact (congrFun hothers ⟨id, hid⟩).trans (Table.get?_modify_ne _ _ hid)

theorem txRefund_ok {paymentIntent refundId : ℕ} {amount : ℤ}
    (hrun : (txRefund paymentIntent amount).atomic d s = (.ok (refundId, d'), s')) :
    d' = d ∧ s'.refundedIntents = s.refundedIntents ++ [paymentIntent] := by
  simp only [txRefund, Program.perform, StripeTx.atomic] at hrun
  cases hr : Stripe.createRefund paymentIntent amount s with
  | error e => simp [hr, StripeTx.atomic] at hrun
  | ok created =>
    simp only [hr, Program.ofExcept_ok, StripeTx.atomic, Prod.mk.injEq, Except.ok.injEq] at hrun
    obtain ⟨⟨rfl, rfl⟩, rfl⟩ := hrun
    exact ⟨rfl, refundedIntents_createRefund hr⟩

theorem stripePaymentIntentId_of_refundable {r : ℕ × ℤ} (h : b.refundable = some r) :
    b.stripePaymentIntentId = some r.1 := by
  unfold Booking.refundable at h
  split at h
  · rename_i hintent _
    split_ifs at h
    rw [← Option.some.inj h]
    exact hintent
  · cases h

/-- A booking that goes with an account. -/
theorem ended_closeBooking {ctx : Ctx} {listed : ℕ × Booking} {totalSeats : ℤ} {u : Unit}
    (hrow : d.bookings.get? listed.1 = some listed.2) (hlive : listed.2.Uncancelled)
    (hrun : (closeBooking ctx listed totalSeats).atomic d s = (.ok (u, d'), s')) :
    Ended Booking.Uncancelled d s d' s' [⟨listed.1, listed.2, listed.2.refundable.isSome⟩] := by
  obtain ⟨u₁, d₁, s₁, hend, hrefund⟩ := StripeTx.atomic_bind.mp hrun
  rw [Tx.atomic_lift] at hend
  obtain ⟨hended, rfl⟩ := Prod.mk.injEq .. ▸ hend
  have hcancelled : CancelledRow d d₁ listed.1 listed.2 :=
    cancelledRow_endBooking (by intros; exact ⟨rfl, rfl⟩) hrow hended
  unfold refundClosed at hrefund
  cases hrefundable : listed.2.refundable with
  | none =>
    rw [hrefundable] at hrefund
    obtain ⟨hok, rfl⟩ := Prod.mk.injEq .. ▸ hrefund
    obtain ⟨-, rfl⟩ := Prod.mk.injEq .. ▸ Except.ok.inj hok
    exact hcancelled.unrefunded hlive hlive
  | some r =>
    obtain ⟨paymentIntent, amount⟩ := r
    rw [hrefundable] at hrefund
    obtain ⟨refundId, d₂, s₂, hrefund, hwrite⟩ := StripeTx.atomic_bind.mp hrefund
    obtain ⟨rfl, hrefunds⟩ := txRefund_ok hrefund
    obtain ⟨-, hdb, rfl⟩ := txWriteBooking_ok hwrite
    have hintent := stripePaymentIntentId_of_refundable hrefundable
    exact hcancelled.refunded hlive hintent hrefunds (by intros; exact ⟨rfl, rfl, rfl⟩) hdb

/-- The bookings on a list that goes with an account. -/
def closedBookings (listed : List (ℕ × Booking)) : List EndedBooking :=
  listed.map fun b => ⟨b.1, b.2, b.2.refundable.isSome⟩

/-- The listed bookings are there as they were listed, none of them cancelled. -/
def ListedNow (d : Db) (listed : List (ℕ × Booking)) : Prop :=
  ∀ b ∈ listed, d.bookings.get? b.1 = some b.2 ∧ b.2.Uncancelled

theorem ended_closeBookings {ctx : Ctx} {listed : List (ℕ × Booking)} {totalSeats : ℤ} {u : Unit}
    (hnodup : (listed.map Prod.fst).Nodup) (hlisted : ListedNow d listed)
    (hrun : StripeTx.atomic (Program.forEach listed fun b => closeBooking ctx b totalSeats) d s =
      (.ok (u, d'), s')) :
    Ended Booking.Uncancelled d s d' s' (closedBookings listed) := by
  induction listed generalizing d s with
  | nil =>
    obtain ⟨hok, rfl⟩ := Prod.mk.injEq .. ▸ hrun
    obtain ⟨-, rfl⟩ := Prod.mk.injEq .. ▸ Except.ok.inj hok
    exact .of_same rfl rfl
  | cons b listed ih =>
    obtain ⟨u₁, d₁, s₁, hfirst, hrest⟩ := StripeTx.atomic_bind.mp hrun
    obtain ⟨hrow, hlive⟩ := hlisted b List.mem_cons_self
    have hended := ended_closeBooking hrow hlive hfirst
    rw [List.map_cons, List.nodup_cons] at hnodup
    have hkept : ListedNow d₁ listed := by
      intro b' hb'
      obtain ⟨hrow', hlive'⟩ := hlisted b' (List.mem_cons_of_mem _ hb')
      refine ⟨hended.row_of_notMem hrow' fun hmem => hnodup.1 ?_, hlive'⟩
      rw [← show b'.1 = b.1 from List.mem_singleton.mp hmem]
      exact List.mem_map_of_mem hb'
    exact hended.append (ih hnodup.2 hkept hrest)

/-- Cancelling a ride writes no booking. -/
theorem bookings_cancelRide {rideId : ℕ} {r : Ride}
    (hrun : (txSqlOrThrow (update rides rideId fun r => { r with status := .cancelled })).atomic d s =
      (.ok (r, d'), s')) : d'.bookings = d.bookings ∧ s' = s := by
  simp only [txSqlOrThrow, Program.perform, StripeTx.atomic, update] at hrun
  cases hrow : (rides.get d).get? rideId with
  | none => simp [hrow, StripeTx.atomic] at hrun
  | some ride =>
    simp only [hrow, Option.elim_some, Program.ofExcept_ok, StripeTx.atomic] at hrun
    obtain ⟨hok, rfl⟩ := Prod.mk.injEq .. ▸ hrun
    obtain ⟨-, rfl⟩ := Prod.mk.injEq .. ▸ Except.ok.inj hok
    exact ⟨rfl, rfl⟩

theorem ended_closeRide {ctx : Ctx} {closed : ClosedRide} {u : Unit}
    (hnodup : (closed.bookings.map Prod.fst).Nodup) (hlisted : ListedNow d closed.bookings)
    (hrun : (closeRide closed ctx).atomic d s = (.ok (u, d'), s')) :
    Ended Booking.Uncancelled d s d' s' (closedBookings closed.bookings) := by
  obtain ⟨r, d₁, s₁, hupdate, hrest⟩ := StripeTx.atomic_bind.mp hrun
  obtain ⟨hbookings, rfl⟩ := bookings_cancelRide hupdate
  have hlisted' : ListedNow d₁ closed.bookings := by
    rw [ListedNow, hbookings]
    exact hlisted
  exact (Ended.of_same hbookings rfl).append (ended_closeBookings hnodup hlisted' hrest)

/-- A booking that nobody has answered. -/
theorem ended_cancelUnansweredBooking {settings : Settings} (hmode : settings.bypassPayment = false)
    {ride : Ride} {ctx : Ctx} {u : Unit} (hrow : d.bookings.get? bookingId = some b)
    (hlive : b.Uncancelled)
    (hrun : (cancelUnansweredBooking settings bookingId b ride ctx).atomic d s =
      (.ok (u, d'), s')) :
    Ended Booking.Uncancelled d s d' s' [⟨bookingId, b, b.isPaymentCaptured⟩] := by
  obtain ⟨u₁, d₁, s₁, hend, hrest⟩ := StripeTx.atomic_bind.mp hrun
  rw [Tx.atomic_lift] at hend
  obtain ⟨hended, rfl⟩ := Prod.mk.injEq .. ▸ hend
  have hcancelled : CancelledRow d d₁ bookingId b :=
    cancelledRow_endBooking (by intros; exact ⟨rfl, rfl⟩) hrow hended
  obtain ⟨refund, d₂, s₂, hrefund, hwrite⟩ := StripeTx.atomic_bind.mp hrest
  unfold refundUnansweredBooking at hrefund
  rw [hmode, if_neg Bool.false_ne_true] at hrefund
  split at hrefund
  · rename_i _ _ _ paymentIntent hcaptured hintent
    -- captured: Stripe refunded the intent inside the transaction
    obtain ⟨refundId, d₃, s₃, hasked, hret⟩ := StripeTx.atomic_bind.mp hrefund
    obtain ⟨hok, rfl⟩ := Prod.mk.injEq .. ▸ hret
    obtain ⟨rfl, rfl⟩ := Prod.mk.injEq .. ▸ Except.ok.inj hok
    obtain ⟨rfl, hrefunds⟩ := txRefund_ok hasked
    obtain ⟨-, hdb, rfl⟩ := txWriteBooking_ok hwrite
    have hpaid : b.isPaymentCaptured = true := by
      simp [Booking.isPaymentCaptured, hcaptured, hintent]
    rw [hpaid]
    exact hcancelled.refunded hlive hintent hrefunds (by intros; exact ⟨rfl, rfl, rfl⟩) hdb
  · rename_i hnone
    obtain ⟨hok, rfl⟩ := Prod.mk.injEq .. ▸ hrefund
    obtain ⟨rfl, rfl⟩ := Prod.mk.injEq .. ▸ Except.ok.inj hok
    obtain ⟨hok, rfl⟩ := Prod.mk.injEq .. ▸ hwrite
    obtain ⟨-, rfl⟩ := Prod.mk.injEq .. ▸ Except.ok.inj hok
    -- not captured: nothing to refund
    have hunpaid : b.isPaymentCaptured = false := by
      by_contra hpaid
      simp only [Booking.isPaymentCaptured, Bool.not_eq_false, Bool.and_eq_true,
        Option.isSome_iff_exists] at hpaid
      obtain ⟨⟨at', hat⟩, intent', hintent⟩ := hpaid
      exact hnone at' intent' hat hintent
    rw [hunpaid]
    exact hcancelled.unrefunded hlive hlive

/-- A booking that an administrator refunds. -/
theorem ended_adminRefundTx {paymentIntent : ℕ} {amount : ℤ} {ctx : Ctx} {u : Unit}
    (hrow : d.bookings.get? bookingId = some b) (hlive : ¬ b.Settled)
    (hintent : b.stripePaymentIntentId = some paymentIntent)
    (hrun : (adminRefundTx bookingId paymentIntent amount ctx).atomic d s = (.ok (u, d'), s')) :
    Ended (fun b => ¬ b.Settled) d s d' s' [⟨bookingId, b, true⟩] := by
  obtain ⟨u₁, d₁, s₁, hcancel, hrest⟩ := StripeTx.atomic_bind.mp hrun
  obtain ⟨-, rfl, rfl⟩ := txWriteBooking_ok hcancel
  obtain ⟨refundId, d₂, s₂, hrefund, hwrite⟩ := StripeTx.atomic_bind.mp hrest
  obtain ⟨rfl, hrefunds⟩ := txRefund_ok hrefund
  obtain ⟨-, hdb, rfl⟩ := txWriteBooking_ok hwrite
  refine CancelledRow.refunded (cancelledRow_modify ?_ hrow) hlive hintent hrefunds
    (by intros; exact ⟨rfl, rfl, rfl⟩) hdb
  intros
  exact ⟨rfl, rfl⟩

/-- Bookings on a list may have been refunded and otherwise written, but neither their status nor their
intent has changed; no other booking has. -/
structure Touched (ids : List ℕ) (d d' : Db) : Prop where
  rows : ∀ id b, d.bookings.get? id = some b → ∃ b', d'.bookings.get? id = some b' ∧
    b'.status = b.status ∧ b'.stripePaymentIntentId = b.stripePaymentIntentId ∧
    (b.refundedAt.isSome = true → b'.refundedAt.isSome = true)
  others : ∀ id, id ∉ ids → d'.bookings.get? id = d.bookings.get? id

theorem Touched.refl (ids : List ℕ) (d : Db) : Touched ids d d where
  rows _ b hb := ⟨b, hb, rfl, rfl, id⟩
  others _ _ := rfl

theorem Touched.trans {ids : List ℕ} {d'' : Db} (h : Touched ids d d') (h' : Touched ids d' d'') :
    Touched ids d d'' where
  rows id b hb := by
    obtain ⟨b₁, hb₁, hstatus, hintent, hdated⟩ := h.rows id b hb
    obtain ⟨b₂, hb₂, hstatus', hintent', hdated'⟩ := h'.rows id b₁ hb₁
    exact ⟨b₂, hb₂, hstatus'.trans hstatus, hintent'.trans hintent, fun hd => hdated' (hdated hd)⟩
  others id hid := (h'.others id hid).trans (h.others id hid)

theorem touched_modify {ids : List ℕ} {f : Booking → Booking} (hmem : bookingId ∈ ids)
    (hf : ∀ b, (f b).status = b.status ∧ (f b).stripePaymentIntentId = b.stripePaymentIntentId ∧
      (b.refundedAt.isSome = true → (f b).refundedAt.isSome = true)) :
    Touched ids d { d with bookings := d.bookings.modify bookingId f } where
  rows id b hb := by
    by_cases hid : id = bookingId
    · subst hid
      exact ⟨f b, (Table.get?_modify_self _ _ _).trans (congrArg _ hb), hf b⟩
    · exact ⟨b, (Table.get?_modify_ne _ _ hid).trans hb, rfl, rfl, fun h => h⟩
  others id hid := Table.get?_modify_ne _ _ fun heq => hid (heq ▸ hmem)

/-- Writing the amounts. -/
theorem touched_announce {ids : List ℕ} {listed : List (ℕ × Booking)} {u : Unit}
    (hids : ∀ b ∈ listed, b.1 ∈ ids)
    (hrun : StripeTx.atomic (Program.forEach listed fun booking => txWriteBooking booking.1 fun b =>
      { b with refundAmount := some booking.2.fullRefundAmount }) d s = (.ok (u, d'), s')) :
    Touched ids d d' ∧ s' = s := by
  induction listed generalizing d s with
  | nil =>
    obtain ⟨hok, rfl⟩ := Prod.mk.injEq .. ▸ hrun
    obtain ⟨-, rfl⟩ := Prod.mk.injEq .. ▸ Except.ok.inj hok
    exact ⟨.refl _ _, rfl⟩
  | cons b listed ih =>
    obtain ⟨u₁, d₁, s₁, hfirst, hrest⟩ := StripeTx.atomic_bind.mp hrun
    obtain ⟨-, rfl, rfl⟩ := txWriteBooking_ok hfirst
    obtain ⟨htouched, rfl⟩ := ih (fun b' hb' => hids b' (List.mem_cons_of_mem _ hb')) hrest
    refine ⟨Touched.trans (touched_modify (hids b List.mem_cons_self) ?_) htouched, rfl⟩
    intros
    exact ⟨rfl, rfl, fun h => h⟩

/-- What a ride that is cancelled makes of the bookings on its list. -/
def listedBookings (listed : List (ℕ × Booking)) : List EndedBooking :=
  listed.map fun b => ⟨b.1, b.2, b.2.isPaymentCaptured⟩

theorem isPaymentCaptured_iff : b.isPaymentCaptured = true ↔
    (∃ at', b.paymentCapturedAt = some at') ∧ ∃ paymentIntent,
      b.stripePaymentIntentId = some paymentIntent := by
  rw [Booking.isPaymentCaptured, Bool.and_eq_true, Option.isSome_iff_exists,
    Option.isSome_iff_exists]

/-- Refunding the captured ones. -/
theorem touched_refundListed {ctx : Ctx} {ids : List ℕ} {listed : List (ℕ × Booking)} {u : Unit}
    (hids : ∀ b ∈ listed, b.1 ∈ ids)
    (hrun : StripeTx.atomic (Program.forEach listed (refundListedBooking ctx)) d s =
      (.ok (u, d'), s')) :
    Touched ids d d' ∧
      s'.refundedIntents =
        s.refundedIntents ++ (listedBookings listed).filterMap EndedBooking.intent? ∧
      ∀ r ∈ listed, r.2.isPaymentCaptured = true →
        ∃ b, d'.bookings.get? r.1 = some b ∧ b.refundedAt.isSome = true := by
  induction listed generalizing d s with
  | nil =>
    obtain ⟨hok, rfl⟩ := Prod.mk.injEq .. ▸ hrun
    obtain ⟨-, rfl⟩ := Prod.mk.injEq .. ▸ Except.ok.inj hok
    exact ⟨.refl _ _, (List.append_nil _).symm, fun r hr => absurd hr List.not_mem_nil⟩
  | cons r listed ih =>
    obtain ⟨u₁, d₁, s₁, hfirst, hrest⟩ := StripeTx.atomic_bind.mp hrun
    obtain ⟨htouched, hrefunds, hdated⟩ :=
      ih (fun b hb => hids b (List.mem_cons_of_mem _ hb)) hrest
    unfold refundListedBooking at hfirst
    split at hfirst
    · -- the booking was paid through an intent: its refund, and the date of it
      rename_i _ _ at' paymentIntent hcaptured hintent
      obtain ⟨refundId, d₂, s₂, hrequest, hwrite⟩ := StripeTx.atomic_bind.mp hfirst
      obtain ⟨rfl, hasked⟩ := txRefund_ok hrequest
      obtain ⟨⟨b, hb⟩, rfl, rfl⟩ := txWriteBooking_ok hwrite
      have hpaid : r.2.isPaymentCaptured = true :=
        isPaymentCaptured_iff.mpr ⟨⟨at', hcaptured⟩, paymentIntent, hintent⟩
      refine ⟨Touched.trans (touched_modify (hids r List.mem_cons_self) ?_) htouched, ?_,
        fun r' hr' hpaid' => ?_⟩
      · intros
        exact ⟨rfl, rfl, fun _ => rfl⟩
      · rw [hrefunds, hasked, List.append_assoc]
        simp [listedBookings, EndedBooking.intent?, hpaid, hintent]
      · rcases List.mem_cons.mp hr' with rfl | hr'
        · have hrow : (d₂.bookings.modify r'.1 fun b => { b with refundedAt := some ctx.now }).get?
              r'.1 = some { b with refundedAt := some ctx.now } :=
            (Table.get?_modify_self _ _ _).trans (congrArg _ hb)
          obtain ⟨b', hb', -, -, hdated'⟩ := htouched.rows _ _ hrow
          exact ⟨b', hb', hdated' rfl⟩
        · exact hdated r' hr' hpaid'
    · -- it was not
      rename_i hnone
      obtain ⟨hok, rfl⟩ := Prod.mk.injEq .. ▸ hfirst
      obtain ⟨-, rfl⟩ := Prod.mk.injEq .. ▸ Except.ok.inj hok
      have hunpaid : r.2.isPaymentCaptured = false := by
        by_contra hpaid
        obtain ⟨⟨at', hat⟩, intent', hintent⟩ :=
          isPaymentCaptured_iff.mp (Bool.not_eq_false _ ▸ hpaid)
        exact hnone at' intent' hat hintent
      refine ⟨htouched, ?_, fun r' hr' hpaid => ?_⟩
      · rw [hrefunds]
        simp [listedBookings, EndedBooking.intent?, hunpaid]
      · rcases List.mem_cons.mp hr' with rfl | hr'
        · exact absurd (hunpaid.symm.trans hpaid) Bool.false_ne_true
        · exact hdated r' hr' hpaid

/-- A ride that its driver cancels, right after its bookings have been listed. -/
theorem ended_cancelRideTx {settings : Settings} (hmode : settings.bypassPayment = false)
    {rideId : ℕ} {ctx : Ctx} {cancelled : List ℕ}
    (hrun : (cancelRideTx settings rideId (d.bookings.filter (isActiveOn rideId)) ctx).atomic d s =
      (.ok (cancelled, d'), s')) :
    cancelled = (d.bookings.filter (isActiveOn rideId)).map Prod.fst ∧
      Ended Booking.Uncancelled d s d' s' (listedBookings (d.bookings.filter (isActiveOn rideId))) := by
  obtain ⟨ride, d₁, s₁, hride, hrun⟩ := StripeTx.atomic_bind.mp hrun
  obtain ⟨ids, d₂, s₂, hcancel, hrun⟩ := StripeTx.atomic_bind.mp hrun
  obtain ⟨u, d₃, s₃, hannounce, hrun⟩ := StripeTx.atomic_bind.mp hrun
  rw [hmode, if_neg Bool.false_ne_true] at hrun
  obtain ⟨u', d₄, s₄, hrefund, hrun⟩ := StripeTx.atomic_bind.mp hrun
  obtain ⟨hok, rfl⟩ := Prod.mk.injEq .. ▸ hrun
  obtain ⟨rfl, rfl⟩ := Prod.mk.injEq .. ▸ Except.ok.inj hok
  obtain ⟨hbookings, rfl⟩ := bookings_cancelRide hride
  obtain ⟨hok, rfl⟩ := Prod.mk.injEq .. ▸ hcancel
  obtain ⟨rfl, rfl⟩ := Prod.mk.injEq .. ▸ Except.ok.inj hok
  generalize hlisted : d.bookings.filter (isActiveOn rideId) = listed at hannounce hrefund ⊢
  have hids : ∀ b ∈ listed, b.1 ∈ listed.map Prod.fst := fun b hb => List.mem_map_of_mem hb
  obtain ⟨htouched, rfl⟩ := touched_announce hids hannounce
  obtain ⟨htouched', hrefunds, hdated⟩ := touched_refundListed hids hrefund
  have htouched := htouched.trans htouched'
  have hmem : ∀ id b, (id, b) ∈ listed ↔ d.bookings.get? id = some b ∧ isActiveOn rideId id b = true := by
    intro id b
    rw [← hlisted]
    exact Table.mem_filter_iff
  -- the batch cancels exactly the listed bookings
  have hbatch : ∀ id, ((updateMany bookings (isActiveOn rideId)
      (Booking.cancelledWithRide ctx.now)).write d₁ d₁).bookings.get? id =
      (d.bookings.get? id).map fun b =>
        if isActiveOn rideId id b = true then b.cancelledWithRide ctx.now else b := by
    intro id
    refine (Table.get?_modifyWhere _ _ _ _).trans ?_
    rw [show bookings.get d₁ = d.bookings from hbookings]
    cases hb : d.bookings.get? id with
    | none => rfl
    | some b => simp [Table.holds, hb]
  refine ⟨?_, ?_, fun e he => ?_, fun id hid => ?_, hrefunds⟩
  · rw [← hlisted, ← hbookings]
    rfl
  · rw [listedBookings, List.map_map, ← hlisted]
    exact Table.nodup_filter _ _
  · obtain ⟨⟨id, b⟩, hb, rfl⟩ := List.mem_map.mp he
    obtain ⟨hrow, hactive⟩ := (hmem id b).mp hb
    have hlive : b.status ≠ .cancelled := by
      intro hcancelled
      simp [isActiveOn, hcancelled, BookingStatus.goesWithRide] at hactive
    have hrow' := hbatch id
    rw [hrow, Option.map_some, if_pos hactive] at hrow'
    obtain ⟨b', hb', hstatus, hintent, -⟩ := htouched.rows _ _ hrow'
    refine ⟨hrow, hlive, ⟨b', hb', hstatus, hintent, fun hpaid => ?_⟩, fun hpaid => ?_, fun _ => hlive⟩
    · obtain ⟨b'', hb'', hsome⟩ := hdated (id, b) hb hpaid
      obtain rfl := Option.some.inj (hb'.symm.trans hb'')
      exact hsome
    · exact Option.isSome_iff_exists.mpr (isPaymentCaptured_iff.mp hpaid).2
  · have hnot : id ∉ listed.map Prod.fst := by
      rwa [listedBookings, List.map_map] at hid
    rw [htouched.others id hnot, hbatch id]
    cases hb : d.bookings.get? id with
    | none => rfl
    | some b =>
      rw [Option.map_some, if_neg]
      exact fun hactive => hnot (List.mem_map_of_mem ((hmem id b).mpr ⟨hb, hactive⟩))

end Transactions

/-! ## Transactions that are rolled back -/

/-- Stripe is asked for refunds only, and of intents that satisfy `P`. -/
def TxCall.OnlyRefunds (P : ℕ → Prop) {β : Type} : TxCall β → Prop
  | .stmt _ => True
  | .stripe request => ∀ s b s', request s = .ok (b, s') →
    ∃ paymentIntent, P paymentIntent ∧ s'.refundedIntents = s.refundedIntents ++ [paymentIntent]

section RolledBack

variable {α : Type} {P : ℕ → Prop}

/-- What Stripe has done in a transaction, whatever has become of that, are such refunds. -/
theorem StripeTx.attempt_refunds {body : StripeTx α} (hbody : body.Issues (TxCall.OnlyRefunds P))
    (replies : List Reply) (d : Db) (s : Stripe) (took : Bool) :
    ∃ extra, (body.attempt replies d s took).stripe.refundedIntents = s.refundedIntents ++ extra ∧
      (∀ paymentIntent ∈ extra, P paymentIntent) ∧
      ((body.attempt replies d s took).took = true → took = true ∨ extra ≠ []) := by
  have hnone : ∃ extra, s.refundedIntents = s.refundedIntents ++ extra ∧
      (∀ paymentIntent ∈ extra, P paymentIntent) ∧ (took = true → took = true ∨ extra ≠ []) :=
    ⟨[], (List.append_nil _).symm, fun _ h => absurd h List.not_mem_nil, Or.inl⟩
  induction body generalizing replies d s took with
  | ret b =>
    rcases replies with _ | ⟨_ | _ | _, l⟩
    all_goals exact hnone
  | throw e => exact hnone
  | step c k ih =>
    cases c with
    | stmt c =>
      rcases replies with _ | ⟨_ | _ | _, l⟩
      · exact hnone
      · exact ih _ (hbody.2 _) l _ s took hnone
      · exact hnone
      · exact hnone
    | stripe request =>
      -- a request that takes place is a refund
      have htook : ∀ b s', request s = .ok (b, s') → ∃ extra, s'.refundedIntents =
          s.refundedIntents ++ extra ∧ (∀ paymentIntent ∈ extra, P paymentIntent) ∧ extra ≠ [] := by
        intro b s' hr
        obtain ⟨paymentIntent, hP, hrefunds⟩ := hbody.1 s b s' hr
        refine ⟨[paymentIntent], hrefunds, fun intent' hintent => ?_, List.cons_ne_nil _ _⟩
        rw [List.mem_singleton.mp hintent]
        exact hP
      rcases replies with _ | ⟨_ | _ | _, l⟩
      · exact hnone
      · simp only [StripeTx.attempt]
        cases hr : request s with
        | error e => exact ih _ (hbody.2 _) l d s took hnone
        | ok r =>
          obtain ⟨extra, hextra, hP, hne⟩ := htook r.1 r.2 hr
          obtain ⟨rest, hrest, hP', -⟩ := ih (.ok r.1) (hbody.2 _) l d r.2 true
            ⟨[], (List.append_nil _).symm, fun _ h => absurd h List.not_mem_nil, Or.inl⟩
          refine ⟨extra ++ rest, ?_, fun p hp => ?_, fun _ => Or.inr ?_⟩
          · rw [← List.append_assoc, ← hextra]
            exact hrest
          · exact (List.mem_append.mp hp).elim (hP p) (hP' p)
          · exact List.append_ne_nil_of_left_ne_nil hne _
      · exact hnone
      · simp only [StripeTx.attempt]
        cases hr : request s with
        | error e => exact hnone
        | ok r =>
          obtain ⟨extra, hextra, hP, hne⟩ := htook r.1 r.2 hr
          exact ⟨extra, hextra, hP, fun _ => Or.inr hne⟩

/-- A statement asks Stripe for nothing. -/
theorem onlyRefunds_lift (body : Tx α) : body.lift.Issues (TxCall.OnlyRefunds P) := by
  induction body with
  | ret a => trivial
  | throw e => trivial
  | step c k ih => exact ⟨trivial, ih⟩

theorem onlyRefunds_txWriteBooking (bookingId : ℕ) (f : Booking → Booking) :
    (txWriteBooking bookingId f).Issues (TxCall.OnlyRefunds P) :=
  ((Program.issues_perform _).mpr trivial).bind fun _ => trivial

theorem onlyRefunds_txRefund {paymentIntent : ℕ} (hP : P paymentIntent) (amount : ℤ) :
    (txRefund paymentIntent amount).Issues (TxCall.OnlyRefunds P) :=
  (Program.issues_perform _).mpr fun _ _ _ hr => ⟨paymentIntent, hP, refundedIntents_createRefund hr⟩

theorem onlyRefunds_closeBooking (ctx : Ctx) {listed : ℕ × Booking} (totalSeats : ℤ)
    (hP : ∀ paymentIntent, listed.2.stripePaymentIntentId = some paymentIntent → P paymentIntent) :
    (closeBooking ctx listed totalSeats).Issues (TxCall.OnlyRefunds P) := by
  refine (onlyRefunds_lift _).bind fun _ => ?_
  unfold refundClosed
  cases hrefundable : listed.2.refundable with
  | none => trivial
  | some r =>
    refine (onlyRefunds_txRefund (hP r.1 ?_) _).bind fun _ => onlyRefunds_txWriteBooking _ _
    exact stripePaymentIntentId_of_refundable hrefundable

theorem onlyRefunds_closeRide (ctx : Ctx) {closed : ClosedRide}
    (hP : ∀ b ∈ closed.bookings, ∀ paymentIntent, b.2.stripePaymentIntentId = some paymentIntent →
      P paymentIntent) : (closeRide closed ctx).Issues (TxCall.OnlyRefunds P) := by
  refine ((Program.issues_perform _).mpr trivial).bind fun _ => ?_
  exact Program.Issues.forEach_mem fun b hb => onlyRefunds_closeBooking ctx _ (hP b hb)

theorem onlyRefunds_cancelRideTx (settings : Settings) (rideId : ℕ) {listed : List (ℕ × Booking)}
    (ctx : Ctx) (hP : ∀ b ∈ listed, ∀ paymentIntent,
      b.2.stripePaymentIntentId = some paymentIntent → P paymentIntent) :
    (cancelRideTx settings rideId listed ctx).Issues (TxCall.OnlyRefunds P) := by
  refine ((Program.issues_perform _).mpr trivial).bind fun _ => ?_
  refine ((Program.issues_command _).mpr trivial).bind fun cancelled => ?_
  refine Program.Issues.bind (Program.Issues.forEach fun b => onlyRefunds_txWriteBooking _ _)
    fun _ => ?_
  split_ifs
  · trivial
  refine Program.Issues.bind (Program.Issues.forEach_mem fun b hb => ?_) fun _ => trivial
  unfold refundListedBooking
  split
  · rename_i _ _ _ paymentIntent _ hintent
    exact (onlyRefunds_txRefund (hP b hb paymentIntent hintent) _).bind fun _ =>
      onlyRefunds_txWriteBooking _ _
  · trivial

theorem onlyRefunds_cancelUnansweredBooking (settings : Settings) (bookingId : ℕ) {b : Booking}
    (ride : Ride) (ctx : Ctx)
    (hP : ∀ paymentIntent, b.stripePaymentIntentId = some paymentIntent → P paymentIntent) :
    (cancelUnansweredBooking settings bookingId b ride ctx).Issues (TxCall.OnlyRefunds P) := by
  refine (onlyRefunds_lift _).bind fun _ => Program.Issues.bind ?_ fun refund => ?_
  · unfold refundUnansweredBooking
    split_ifs
    · trivial
    split
    · rename_i _ _ _ paymentIntent _ hintent
      exact (onlyRefunds_txRefund (hP paymentIntent hintent) _).bind fun _ => trivial
    · trivial
  · split_ifs
    · exact onlyRefunds_txWriteBooking _ _
    · trivial

theorem onlyRefunds_adminRefundTx (bookingId : ℕ) {paymentIntent : ℕ} (amount : ℤ) (ctx : Ctx)
    (hP : P paymentIntent) :
    (adminRefundTx bookingId paymentIntent amount ctx).Issues (TxCall.OnlyRefunds P) := by
  refine (onlyRefunds_txWriteBooking _ _).bind fun _ => ?_
  exact (onlyRefunds_txRefund hP _).bind fun _ => onlyRefunds_txWriteBooking _ _

end RolledBack

end Deliivo
