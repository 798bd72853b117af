import Deliivo.Booking.RefundedEnding
import Deliivo.Store.History

/-!
# Cancellations that fail

A call that refunds from within its transactions can fail anywhere. What fails after a refund rolls the
transaction back, and Stripe keeps the refund; what fails after the commit throws although bookings were
cancelled.

**A call that throws has settled what it has refunded and changed no other booking, exactly if no
transaction of it was rolled back in which Stripe had made a refund, and every booking that it has
cancelled was refunded. While that is so, no booking is refunded twice, however often the calls are
repeated** (`failed_calls_refund_once`).

## Main definitions

* `RefundingCall`, `RefundAttempt`: the four calls, and one of them with what its steps are answered
* `FailsClean`, `RefundAttempt.FailsCleanly`: what is asked of a call that throws
* `RefundAttempt.RefundsStand`: the condition
* `RefundedAtMostOnce`: what is asked of a sequence of calls

## Main results

* `comesTo_cancelRide`, `comesTo_deleteUserAccount` and so on: what a call can come to
* `failed_calls_refund_once`
-/

namespace Deliivo

/-! ## What is asked -/

/-- Stripe has refunded the booking between two worlds. -/
def Booking.RefundedBetween (booking : Booking) (w w' : World) : Prop :=
  ∃ paymentIntent ∈ w.stripe.intentsSince w'.stripe,
    booking.stripePaymentIntentId = some paymentIntent

/-- A call from `w` to `w'` has settled every booking that Stripe has refunded meanwhile, and left every
other booking as it was. -/
structure FailsClean (w w' : World) : Prop where
  settled : ∀ id b, w.db.bookings.get? id = some b → b.RefundedBetween w w' →
    ∃ b', w'.db.bookings.get? id = some b' ∧ b'.Settled
  others : ∀ id b, w.db.bookings.get? id = some b → ¬ b.RefundedBetween w w' →
    w'.db.bookings.get? id = some b

/-! ## What a call has come to -/

/-- The call has ended these bookings so far, and said so; nothing has been rolled back under a refund. -/
structure Going (live : Booking → Prop) (x y : Attempted) (ended : List EndedBooking) : Prop where
  undone : y.undone = false
  rows : Ended live x.world.db x.world.stripe y.world.db y.world.stripe ended
  log : ∀ id refunded, .bookingEnded id refunded ∈ y.log ↔ .bookingEnded id refunded ∈ x.log ∨
    ∃ e ∈ ended, e.id = id ∧ e.refunded = refunded

/-- A booking has been refunded, and is still there as it was before the call. -/
structure Stranded (live : Booking → Prop) (x y : Attempted) : Prop where
  undone : y.undone = true
  intents : x.world.db.SameIntents y.world.db
  booking : ∃ id b paymentIntent extra, x.world.db.bookings.get? id = some b ∧ live b ∧
    y.world.db.bookings.get? id = some b ∧ b.stripePaymentIntentId = some paymentIntent ∧
    y.world.stripe.refundedIntents = x.world.stripe.refundedIntents ++ extra ∧ paymentIntent ∈ extra

/-- How a call that has started in `x` stands in `y`. -/
def ComesTo {α : Type} (live : Booking → Prop) (x : Attempted) (r : Except Err α) (y : Attempted) :
    Prop :=
  (∃ ended, Going live x y ended) ∨ (∃ e, r = .error e) ∧ Stranded live x y

/-- What other steps of these calls leave alone: the bookings, and the refunds. -/
def besideBookings : Frame where
  db d := d.bookings
  stripe s := s.refundedIntents
  events e := ∀ id refunded, e ≠ .bookingEnded id refunded

/-- A step that is no transaction with calls to Stripe, and leaves the bookings and the refunds alone. -/
def Call.Beside {β : Type} (c : Call β) : Prop := c.Plain ∧ c.Leaves besideBookings

section ComesTo

variable {α β : Type} {live : Booking → Prop} {x y z : Attempted} {ended ended' : List EndedBooking}

theorem Going.refl (live : Booking → Prop) (hx : x.undone = false) : Going live x x [] where
  undone := hx
  rows := .of_same rfl rfl
  log _ _ := (or_iff_left fun ⟨_, he, _⟩ => absurd he List.not_mem_nil).symm

theorem Going.append (h : Going Booking.Uncancelled x y ended)
    (h' : Going Booking.Uncancelled y z ended') : Going Booking.Uncancelled x z (ended ++ ended') where
  undone := h'.undone
  rows := h.rows.append h'.rows
  log id refunded := by
    rw [h'.log, h.log, or_assoc]
    refine or_congr_right ?_
    simp only [List.mem_append, or_and_right, exists_or]

theorem Stranded.after (h : Going Booking.Uncancelled x y ended)
    (h' : Stranded Booking.Uncancelled y z) : Stranded Booking.Uncancelled x z where
  undone := h'.undone
  intents := h'.intents.trans h.rows.sameIntents
  booking := by
    obtain ⟨id, b, paymentIntent, extra, hy, hlive, hz, hintent, hrefunds, hmem⟩ := h'.booking
    refine ⟨id, b, paymentIntent, ended.filterMap EndedBooking.intent? ++ extra, ?_, hlive, hz, hintent,
      ?_, List.mem_append_right _ hmem⟩
    · -- a booking that has ended is cancelled
      rw [← h.rows.others id fun hid => ?_]
      · exact hy
      · obtain ⟨e, he, rfl⟩ := List.mem_map.mp hid
        obtain ⟨b', hb', hcancelled, -⟩ := (h.rows.rows e he).after
        obtain rfl := Option.some.inj (hy.symm.trans hb')
        exact hlive hcancelled
    · rw [hrefunds, h.rows.refunds, List.append_assoc]

theorem ComesTo.after {r : Except Err α} (h : Going Booking.Uncancelled x y ended)
    (h' : ComesTo Booking.Uncancelled y r z) : ComesTo Booking.Uncancelled x r z := by
  rcases h' with ⟨ended', h'⟩ | ⟨hthrown, h'⟩
  · exact Or.inl ⟨_, h.append h'⟩
  · exact Or.inr ⟨hthrown, .after h h'⟩

/-- Steps beside the bookings. -/
theorem wp_beside {p : Service α} (hp : p.Issues fun {_} c => c.Beside) (hx : x.undone = false) :
    p.Wp attemptWorld (fun _ y => Going live x y []) x := by
  have hsame : ∀ y, y.undone = false → y.world.db.bookings = x.world.db.bookings →
      y.world.stripe.refundedIntents = x.world.stripe.refundedIntents →
      (∀ id refunded, .bookingEnded id refunded ∈ y.log ↔ .bookingEnded id refunded ∈ x.log) →
      p.Wp attemptWorld (fun _ y => Going live x y []) y := by
    induction p with
    | ret a | throw e =>
      intro y hy hdb hstripe hlog
      refine ⟨hy, .of_same hdb hstripe, fun id refunded => (hlog id refunded).trans ?_⟩
      exact (or_iff_left fun ⟨_, he, _⟩ => absurd he List.not_mem_nil).symm
    | step c k ih =>
      intro y hy hdb hstripe hlog replies
      obtain ⟨hplain, hleaves⟩ := hp.1
      obtain ⟨hdb', hstripe', hevents⟩ := hleaves.exec (replies.head?.getD .refused) y.world
      have hexec := Call.attempt_plain hplain replies y
      simp only [attemptWorld, hexec]
      refine ih _ (hp.2 _) _ hy (hdb'.trans hdb) (hstripe'.trans hstripe) fun id refunded => ?_
      rw [List.mem_append, hlog, or_iff_left fun hmem => hevents _ hmem id refunded rfl]
  exact hsame x hx rfl rfl fun _ _ => Iff.rfl

/-- **A transaction that refunds**: it commits and has ended these bookings, or throws with nothing done,
or throws after a refund. -/
theorem wp_refunding {body : Ctx → StripeTx β} {report : β → List Event} (live : Booking → Prop)
    (ended : List EndedBooking) (hx : x.undone = false)
    (hcommit : ∀ ctx b d s, (body ctx).atomic x.world.db x.world.stripe = (.ok (b, d), s) →
      Ended live x.world.db x.world.stripe d s ended ∧
        ∀ id refunded, .bookingEnded id refunded ∈ report b ↔
          ∃ e ∈ ended, e.id = id ∧ e.refunded = refunded)
    (hrefunds : ∀ ctx, (body ctx).Issues (TxCall.OnlyRefunds fun paymentIntent =>
      ∃ id b, x.world.db.bookings.get? id = some b ∧ live b ∧
        b.stripePaymentIntentId = some paymentIntent)) :
    (Program.perform (.transactWithStripe body report) : Service β).Wp attemptWorld
      (fun r y => Going live x y ended ∨
        (∃ e, r = .error e) ∧ (Going live x y [] ∨ Stranded live x y)) x := by
  intro replies
  show Program.Wp attemptWorld _
    (Program.ofExcept ((Call.transactWithStripe body report).attempt replies x).1)
    ((Call.transactWithStripe body report).attempt replies x).2.2
  have hwp : ∀ (r : Except Err β) y, (Going live x y ended ∨
      (∃ e, r = .error e) ∧ (Going live x y [] ∨ Stranded live x y)) →
      (Program.ofExcept r : Service β).Wp attemptWorld (fun r y => Going live x y ended ∨
        (∃ e, r = .error e) ∧ (Going live x y [] ∨ Stranded live x y)) y := by
    intro r y h
    cases r with
    | ok a => exact h
    | error e => exact h
  refine hwp _ _ ?_
  obtain ⟨extra, hextra, hP, hne⟩ := StripeTx.attempt_refunds
    (hrefunds ⟨x.world.now, x.world.db.freshId⟩) replies x.world.db x.world.stripe false
  simp only [Call.attempt]
  generalize hout : (body ⟨x.world.now, x.world.db.freshId⟩).attempt replies x.world.db
    x.world.stripe false = out at hextra hne
  cases hcommitted : out.committed with
  | some c =>
    -- the transaction has committed, whether or not that was answered
    obtain ⟨b, d⟩ := c
    obtain ⟨hended, hreport⟩ := hcommit _ b d _ (StripeTx.attempt_committed (hout ▸ hcommitted))
    rw [hout] at hended
    refine Or.inl ⟨by simp [hx], hended, fun id refunded => ?_⟩
    rw [List.mem_append]
    exact or_congr_right (hreport id refunded)
  | none =>
    have hthrown : ∃ e, out.answer = .error e := by
      cases ha : out.answer with
      | error e => exact ⟨e, rfl⟩
      | ok a =>
        obtain ⟨d', hd'⟩ := StripeTx.attempt_ok (hout ▸ ha)
        rw [hout, hcommitted] at hd'
        cases hd'
    refine Or.inr ⟨hthrown, ?_⟩
    cases htook : out.took with
    | false =>
      have hsame := (StripeTx.attempt_untouched (hout ▸ htook)).2
      rw [hout] at hsame
      refine Or.inl ⟨by simp [hx], .of_same rfl (by rw [hsame]), fun id refunded => ?_⟩
      simp
    | true =>
      obtain ⟨paymentIntent, hmem⟩ := List.exists_mem_of_ne_nil extra
        ((hne htook).resolve_left Bool.false_ne_true)
      obtain ⟨id, b, hb, hlive, hintent⟩ := hP paymentIntent hmem
      exact Or.inr ⟨by simp, rfl, id, b, paymentIntent, extra, hb, hlive, hb, hintent, hextra, hmem⟩

end ComesTo

/-! ## The calls -/

section Calls

variable {α β : Type} {live : Booking → Prop} {x y z : Attempted} {ended : List EndedBooking}

theorem issues_beside {p : Service α} (hplain : p.Issues fun {_} c => c.Plain)
    (hleaves : p.Leaves besideBookings) : p.Issues fun {_} c => c.Beside := by
  induction p with
  | ret a => trivial
  | throw e => trivial
  | step c k ih => exact ⟨⟨hplain.1, hleaves.1⟩, fun b => ih b (hplain.2 b) (hleaves.2 b)⟩

theorem beside_sql {s : Stmt β} (h : ∀ seen d, (s.write seen d).bookings = d.bookings) :
    (sql s).Issues fun {_} c => c.Beside :=
  issues_beside ((Program.issues_perform _).mpr trivial) (leaves_sql h)

theorem beside_notify : notify.Issues fun {_} c => c.Beside := beside_sql fun _ _ => rfl

theorem plain_assertTransition (current target : PaymentStatus) :
    (assertTransition current target).Issues fun {_} c => c.Plain := by
  unfold assertTransition
  split_ifs <;> trivial

theorem plain_recordRefunded (paymentId driverId : ℕ) (payment : Payment) (amount : ℤ) :
    (recordRefunded paymentId driverId payment amount).Issues fun {_} c => c.Plain := by
  refine (plain_assertTransition _ _).bind fun _ => ?_
  refine ((Program.issues_perform _).mpr trivial).bind fun updated => ?_
  exact ((Program.issues_perform _).mpr trivial).bind fun _ => trivial

/-- Marking a payment as refunded is beside the bookings. -/
theorem beside_markBookingPaymentRefunded (bookingId driverId : ℕ) (amount : Option ℤ) :
    (markBookingPaymentRefunded bookingId driverId amount).Issues fun {_} c => c.Beside := by
  refine issues_beside ?_ (leaves_markBookingPaymentRefunded (fun _ _ _ _ => rfl)
    (fun _ _ _ _ _ h => by cases h) (fun _ _ => rfl) _ _ _)
  refine ((Program.issues_perform _).mpr trivial).bind fun found => ?_
  cases found with
  | none => trivial
  | some found =>
    refine Program.Issues.bind (((Program.issues_perform _).mpr trivial).bind fun payment => ?_)
      fun _ => trivial
    split_ifs
    · trivial
    · exact plain_recordRefunded _ _ _ _
    · refine (plain_assertTransition _ _).bind fun _ => ?_
      exact ((Program.issues_perform _).mpr trivial).bind fun _ => plain_recordRefunded _ _ _ _

theorem beside_bestEffort {p : Service Unit} (hp : p.Issues fun {_} c => c.Beside) :
    (bestEffort p).Issues fun {_} c => c.Beside := hp.tryCatch fun _ => trivial

theorem Going.beside (h : Going live x y ended) {live' : Booking → Prop} (h' : Going live' y z []) :
    Going live x z ended where
  undone := h'.undone
  rows := by
    have hsame : ∀ id, z.world.db.bookings.get? id = y.world.db.bookings.get? id :=
      fun id => h'.rows.others id List.not_mem_nil
    refine ⟨h.rows.nodup, fun e he => ?_, fun id hid => (hsame id).trans (h.rows.others id hid), ?_⟩
    · exact { h.rows.rows e he with after := by rw [hsame]; exact (h.rows.rows e he).after }
    · rw [h'.rows.refunds, h.rows.refunds]
      exact List.append_nil _
  log id refunded := by
    rw [h'.log, h.log]
    exact or_iff_left fun ⟨_, he, _⟩ => absurd he List.not_mem_nil

/-- What follows a step that has come to something. -/
theorem comesTo_bind {p : Service α} {f : α → Service β}
    (hp : p.Wp attemptWorld (ComesTo Booking.Uncancelled x) x)
    (hf : ∀ a y ended, Going Booking.Uncancelled x y ended →
      (f a).Wp attemptWorld (ComesTo Booking.Uncancelled y) y) :
    (p.bind f).Wp attemptWorld (ComesTo Booking.Uncancelled x) x := by
  refine Program.Wp.bind (hp.mono ?_)
  rintro (e | a) y hy
  · exact hy.imp id fun h => ⟨⟨e, rfl⟩, h.2⟩
  · rcases hy with ⟨ended, hgoing⟩ | ⟨⟨e, herror⟩, -⟩
    · exact (hf a y ended hgoing).mono fun r z hz => .after hgoing hz
    · cases herror

/-- Steps beside the bookings, on their own. -/
theorem comesTo_beside {p : Service α} (hp : p.Issues fun {_} c => c.Beside) (hx : x.undone = false) :
    p.Wp attemptWorld (ComesTo live x) x :=
  (wp_beside hp hx).mono fun _ _ h => Or.inl ⟨_, h⟩

/-- Reading changes nothing. -/
theorem wp_read {s : Stmt β} (h : ∀ seen d, s.write seen d = d) (x : Attempted) :
    (sql s).Wp attemptWorld
      (fun r y => (r = .ok (s.answer x.world.db) ∨ ∃ e, r = .error e) ∧ y = x) x := by
  intro replies
  have hplain : (Call.transact (fun _ => Program.command s) fun _ => []).Plain := trivial
  simp only [attemptWorld, Call.attempt_plain hplain]
  cases replies.head?.getD .refused with
  | ok =>
    refine ⟨Or.inl rfl, ?_⟩
    simp [Call.exec, Program.command, Tx.atomic, h]
  | refused | lost =>
    refine ⟨Or.inr ⟨_, rfl⟩, ?_⟩
    simp [Call.exec]

/-- What follows a read. -/
theorem comesTo_read {s : Stmt β} {f : β → Service α} (h : ∀ seen d, s.write seen d = d)
    (hx : x.undone = false)
    (hf : (f (s.answer x.world.db)).Wp attemptWorld (ComesTo live x) x) :
    Program.Wp attemptWorld (ComesTo live x) ((sql s).bind f) x := by
  refine Program.Wp.bind ((wp_read h x).mono ?_)
  rintro (e | b) y ⟨hr, rfl⟩
  · exact Or.inl ⟨[], .refl live hx⟩
  · rcases hr with hr | ⟨e, hr⟩
    · rw [Except.ok.inj hr]
      exact hf
    · cases hr

/-- What follows a transaction that refunds. -/
theorem comesTo_refunding {body : Ctx → StripeTx β} {report : β → List Event} {f : β → Service α}
    (ended : List EndedBooking) (hx : x.undone = false)
    (hcommit : ∀ ctx b d s, (body ctx).atomic x.world.db x.world.stripe = (.ok (b, d), s) →
      Ended live x.world.db x.world.stripe d s ended ∧
        ∀ id refunded, .bookingEnded id refunded ∈ report b ↔
          ∃ e ∈ ended, e.id = id ∧ e.refunded = refunded)
    (hrefunds : ∀ ctx, (body ctx).Issues (TxCall.OnlyRefunds fun paymentIntent =>
      ∃ id b, x.world.db.bookings.get? id = some b ∧ live b ∧
        b.stripePaymentIntentId = some paymentIntent))
    (hf : ∀ b y, Going live x y ended → (f b).Wp attemptWorld (ComesTo live x) y) :
    Program.Wp attemptWorld (ComesTo live x)
      ((Program.perform (.transactWithStripe body report)).bind f) x := by
  refine Program.Wp.bind ((wp_refunding live ended hx hcommit hrefunds).mono ?_)
  rintro r y (hy | ⟨⟨e, rfl⟩, hy | hy⟩)
  · cases r with
    | error e => exact Or.inl ⟨_, hy⟩
    | ok b => exact hf b y hy
  · exact Or.inl ⟨_, hy⟩
  · exact Or.inr ⟨⟨e, rfl⟩, hy⟩

/-- Nothing but steps beside the bookings follows. -/
theorem comesTo_end {p : Service α} (hp : p.Issues fun {_} c => c.Beside) (hy : Going live x y ended) :
    p.Wp attemptWorld (ComesTo live x) y :=
  (@wp_beside _ live _ _ hp hy.undone).mono fun _ _ hz => Or.inl ⟨_, hy.beside hz⟩

/-! ### A ride that is cancelled -/

theorem mem_reportRideCancelled_iff {rideId : ℕ} {listed : List (ℕ × Booking)}
    (hnodup : (listed.map Prod.fst).Nodup) {id : ℕ} {refunded : Bool} :
    .bookingEnded id refunded ∈ reportRideCancelled rideId listed (listed.map Prod.fst) ↔
      ∃ e ∈ listedBookings listed, e.id = id ∧ e.refunded = refunded := by
  have hany : ∀ b ∈ listed, (listed.any fun b' => b'.1 == b.1 && b'.2.isPaymentCaptured) =
      b.2.isPaymentCaptured := by
    intro b hb
    rw [Bool.eq_iff_iff, List.any_eq_true]
    constructor
    · rintro ⟨b', hb', hcaptured⟩
      obtain ⟨hid, hcaptured⟩ := (Bool.and_eq_true _ _).mp hcaptured
      rwa [← List.inj_on_of_nodup_map hnodup hb' hb (eq_of_beq hid)]
    · exact fun hcaptured => ⟨b, hb, by simp [hcaptured]⟩
  rw [reportRideCancelled, List.mem_cons, List.map_map, listedBookings]
  constructor
  · rintro (heq | hmem)
    · cases heq
    · obtain ⟨b, hb, heq⟩ := List.mem_map.mp hmem
      obtain ⟨rfl, rfl⟩ := Event.bookingEnded.injEq .. ▸ heq
      exact ⟨_, List.mem_map_of_mem hb, rfl, (hany b hb).symm⟩
  · rintro ⟨e, he, rfl, rfl⟩
    obtain ⟨b, hb, rfl⟩ := List.mem_map.mp he
    refine Or.inr (List.mem_map.mpr ⟨b, hb, ?_⟩)
    exact congrArg (Event.bookingEnded b.1) (hany b hb)

theorem beside_markListedRefund (settings : Settings) (driverId : ℕ) (booking : ℕ × Booking) :
    (markListedRefund settings driverId booking).Issues fun {_} c => c.Beside := by
  unfold markListedRefund
  split_ifs
  · refine Program.Issues.bind ((Program.issues_command _).mpr ⟨trivial, fun e he => ?_⟩) fun _ => ?_
    · rw [List.mem_singleton.mp he]
      exact fun _ _ h => by cases h
    · exact beside_bestEffort ((beside_markBookingPaymentRefunded _ _ _).bind fun _ => trivial)
  · trivial

theorem comesTo_cancelRide {settings : Settings} (hmode : settings.bypassPayment = false)
    (driverId rideId : ℕ) (hx : x.undone = false) :
    (cancelRide settings driverId rideId).Wp attemptWorld (ComesTo Booking.Uncancelled x) x := by
  refine comesTo_read (fun _ _ => rfl) hx ?_
  split
  · exact Or.inl ⟨[], .refl _ hx⟩
  refine comesTo_read (fun _ _ => rfl) hx ?_
  have hlive : ∀ b ∈ x.world.db.bookings.filter (isActiveOn rideId),
      x.world.db.bookings.get? b.1 = some b.2 ∧ b.2.Uncancelled := by
    rintro ⟨id, b⟩ hb
    obtain ⟨hrow, hactive⟩ := Table.mem_filter_iff.mp hb
    refine ⟨hrow, fun hcancelled => ?_⟩
    have hstatus : b.status = .cancelled := hcancelled
    simp [isActiveOn, hstatus, BookingStatus.goesWithRide] at hactive
  refine comesTo_refunding (listedBookings (x.world.db.bookings.filter (isActiveOn rideId))) hx
    (fun ctx b d s hrun => ?_) (fun ctx => ?_) fun cancelled y hy => ?_
  · obtain ⟨rfl, hended⟩ := ended_cancelRideTx hmode hrun
    exact ⟨hended, fun id refunded => mem_reportRideCancelled_iff (Table.nodup_filter _ _)⟩
  · refine onlyRefunds_cancelRideTx _ _ _ fun b hb paymentIntent hintent => ?_
    obtain ⟨hrow, hlive⟩ := hlive b hb
    exact ⟨b.1, b.2, hrow, hlive, hintent⟩
  · refine comesTo_end (Program.Issues.bind ?_ fun _ => ?_) hy
    · exact Program.Issues.forEach fun b => beside_markListedRefund _ _ _
    · exact Program.Issues.forEach fun _ => beside_notify

/-! ### An account that is deleted -/

theorem mem_reportClosed_iff {listed : List (ℕ × Booking)} {id : ℕ} {refunded : Bool} :
    .bookingEnded id refunded ∈ reportClosed listed ↔
      ∃ e ∈ closedBookings listed, e.id = id ∧ e.refunded = refunded := by
  rw [reportClosed, closedBookings, List.mem_map]
  constructor
  · rintro ⟨b, hb, heq⟩
    obtain ⟨rfl, rfl⟩ := Event.bookingEnded.injEq .. ▸ heq
    exact ⟨_, List.mem_map_of_mem hb, rfl, rfl⟩
  · rintro ⟨e, he, rfl, rfl⟩
    obtain ⟨b, hb, rfl⟩ := List.mem_map.mp he
    exact ⟨b, hb, rfl⟩

/-- The rides on a list differ, and the bookings on them are there as they were listed. -/
structure RidesListedNow (d : Db) (activeRides : List ClosedRide) : Prop where
  nodup : (activeRides.map ClosedRide.rideId).Nodup
  bookings : ∀ closed ∈ activeRides, (closed.bookings.map Prod.fst).Nodup ∧ ListedNow d closed.bookings ∧
    ∀ b ∈ closed.bookings, b.2.rideId = closed.rideId

theorem ids_closedBookings (listed : List (ℕ × Booking)) :
    (closedBookings listed).map EndedBooking.id = listed.map Prod.fst := List.map_map

/-- Closing one ride leaves the bookings on the others. -/
theorem RidesListedNow.tail {closed : ClosedRide} {activeRides : List ClosedRide} {d d' : Db}
    {s s' : Stripe} (h : RidesListedNow d (closed :: activeRides)) {ended : List EndedBooking}
    (hended : Ended live d s d' s' ended)
    (hids : ∀ id ∈ ended.map EndedBooking.id, id ∈ closed.bookings.map Prod.fst) :
    RidesListedNow d' activeRides where
  nodup := (List.nodup_cons.mp h.nodup).2
  bookings other hother := by
    obtain ⟨hnodup, hlisted, hride⟩ := h.bookings other (List.mem_cons_of_mem _ hother)
    refine ⟨hnodup, fun b hb => ?_, hride⟩
    obtain ⟨hrow, hlive⟩ := hlisted b hb
    refine ⟨hended.row_of_notMem hrow fun hid => ?_, hlive⟩
    -- a booking is on one ride
    obtain ⟨-, hlisted', hride'⟩ := h.bookings closed List.mem_cons_self
    obtain ⟨b', hb', heq⟩ := List.mem_map.mp (hids _ hid)
    have hrow' := (hlisted' b' hb').1
    rw [heq, hrow] at hrow'
    refine (List.nodup_cons.mp h.nodup).1 ?_
    rw [← hride' b' hb', ← Option.some.inj hrow', hride b hb]
    exact List.mem_map_of_mem hother

/-- The intent of a listed booking. -/
theorem ListedNow.intent {listed : List (ℕ × Booking)} {d : Db} (h : ListedNow d listed) {b : ℕ × Booking}
    (hb : b ∈ listed) {paymentIntent : ℕ} (hintent : b.2.stripePaymentIntentId = some paymentIntent) :
    ∃ id b, d.bookings.get? id = some b ∧ b.Uncancelled ∧
      b.stripePaymentIntentId = some paymentIntent :=
  ⟨b.1, b.2, (h b hb).1, (h b hb).2, hintent⟩

/-- The loop over the rides. -/
theorem comesTo_closeRides {activeRides : List ClosedRide} (hx : x.undone = false)
    (hlisted : RidesListedNow x.world.db activeRides) :
    (Program.forEach activeRides fun closed => Program.perform
        (.transactWithStripe (closeRide closed) fun _ => reportClosed closed.bookings) :
      Service Unit).Wp attemptWorld (ComesTo Booking.Uncancelled x) x := by
  induction activeRides generalizing x with
  | nil => exact Or.inl ⟨[], .refl _ hx⟩
  | cons closed activeRides ih =>
    obtain ⟨hnodup, hnow, -⟩ := hlisted.bookings closed List.mem_cons_self
    refine comesTo_refunding (closedBookings closed.bookings) hx (fun ctx b d s hrun => ?_)
      (fun ctx => ?_) fun _ y hy => ?_
    · exact ⟨ended_closeRide hnodup hnow hrun, fun _ _ => mem_reportClosed_iff⟩
    · exact onlyRefunds_closeRide _ fun b hb _ hintent => hnow.intent hb hintent
    · refine (ih hy.undone (hlisted.tail hy.rows fun id hid => ?_)).mono fun r z hz => .after hy hz
      rwa [ids_closedBookings] at hid

/-- The loop over the bookings of the user's own. -/
theorem comesTo_closeBookings {activeBookings : List ((ℕ × Booking) × ℤ)} (hx : x.undone = false)
    (hnodup : (activeBookings.map fun b => b.1.1).Nodup)
    (hlisted : ListedNow x.world.db (activeBookings.map Prod.fst)) :
    (Program.forEach activeBookings fun booking => Program.perform
        (.transactWithStripe (fun ctx => closeBooking ctx booking.1 booking.2)
          fun _ => reportClosed [booking.1]) : Service Unit).Wp attemptWorld
      (ComesTo Booking.Uncancelled x) x := by
  induction activeBookings generalizing x with
  | nil => exact Or.inl ⟨[], .refl _ hx⟩
  | cons booking activeBookings ih =>
    obtain ⟨hrow, hlive⟩ := hlisted booking.1 List.mem_cons_self
    rw [List.map_cons, List.nodup_cons] at hnodup
    refine comesTo_refunding (closedBookings [booking.1]) hx (fun ctx b d s hrun => ?_)
      (fun ctx => ?_) fun _ y hy => ?_
    · exact ⟨ended_closeBooking hrow hlive hrun, fun _ _ => mem_reportClosed_iff⟩
    · exact onlyRefunds_closeBooking _ _ fun _ hintent => ⟨_, _, hrow, hlive, hintent⟩
    · refine (ih hy.undone hnodup.2 fun b hb => ?_).mono fun r z hz => .after hy hz
      obtain ⟨hrow', hlive'⟩ := hlisted b (List.mem_cons_of_mem _ hb)
      refine ⟨hy.rows.row_of_notMem hrow' fun hid => hnodup.1 ?_, hlive'⟩
      obtain ⟨b', hb', rfl⟩ := List.mem_map.mp hb
      rw [← show b'.1.1 = booking.1.1 from List.mem_singleton.mp hid]
      exact List.mem_map_of_mem (f := fun b : (ℕ × Booking) × ℤ => b.1.1) hb'

theorem ridesListedNow_findActiveRides (userId : ℕ) (d : Db) :
    RidesListedNow d ((findActiveRides userId).answer d) where
  nodup := by
    simp only [findActiveRides, List.map_map]
    exact Table.nodup_filter _ _
  bookings closed hclosed := by
    obtain ⟨r, hr, rfl⟩ := List.mem_map.mp hclosed
    have hmem : ∀ b ∈ d.bookings.filter (fun _ b => b.rideId == r.1 && b.status.closesWithAccount),
        (d.bookings.get? b.1 = some b.2 ∧ b.2.Uncancelled) ∧ b.2.rideId = r.1 := by
      rintro ⟨id, b⟩ hb
      obtain ⟨hrow, hactive⟩ := Table.mem_filter_iff.mp hb
      obtain ⟨hride, hactive⟩ := (Bool.and_eq_true _ _).mp hactive
      refine ⟨⟨hrow, fun hcancelled => ?_⟩, eq_of_beq hride⟩
      have hstatus : b.status = .cancelled := hcancelled
      simp [hstatus, BookingStatus.closesWithAccount] at hactive
    have hnodup := Table.nodup_filter d.bookings fun _ b => b.rideId == r.1 && b.status.closesWithAccount
    exact ⟨hnodup, fun b hb => (hmem b hb).1, fun b hb => (hmem b hb).2⟩

theorem listedNow_findActiveBookings (userId : ℕ) (d : Db) :
    (((findActiveBookings userId).answer d).map fun b => b.1.1).Nodup ∧
      ListedNow d (((findActiveBookings userId).answer d).map Prod.fst) := by
  generalize hfound : d.bookings.filter (fun _ b => b.passengerId == userId &&
    b.status.closesWithAccount) = found
  have hmap : ((findActiveBookings userId).answer d).map Prod.fst =
      found.filter fun b => (d.rides.get? b.2.rideId).isSome := by
    simp only [findActiveBookings, hfound]
    clear hfound
    induction found with
    | nil => rfl
    | cons b found ih =>
      rw [List.filterMap_cons, List.filter_cons]
      cases hride : d.rides.get? b.2.rideId with
      | none => simpa [hride] using ih
      | some ride => simpa [hride] using ih
  constructor
  · rw [show (fun b : (ℕ × Booking) × ℤ => b.1.1) = Prod.fst ∘ Prod.fst from rfl, ← List.map_map, hmap]
    refine List.Nodup.sublist (List.filter_sublist.map _) ?_
    rw [← hfound]
    exact Table.nodup_filter _ _
  · intro b hb
    rw [hmap, List.mem_filter, ← hfound] at hb
    obtain ⟨hrow, hactive⟩ := Table.mem_filter_iff.mp hb.1
    refine ⟨hrow, fun hcancelled => ?_⟩
    have hstatus : b.2.status = .cancelled := hcancelled
    simp [hstatus, BookingStatus.closesWithAccount] at hactive

theorem comesTo_deleteUserAccount (userId : ℕ) (hx : x.undone = false) :
    (deleteUserAccount userId).Wp attemptWorld (ComesTo Booking.Uncancelled x) x := by
  refine comesTo_read (fun _ _ => rfl) hx ?_
  split_ifs
  · exact Or.inl ⟨[], .refl _ hx⟩
  refine comesTo_bind (comesTo_beside (beside_sql fun _ _ => rfl) hx) fun _ y _ hy => ?_
  refine comesTo_bind (comesTo_beside (beside_sql fun _ _ => rfl) hy.undone) fun _ z _ hz => ?_
  refine comesTo_read (fun _ _ => rfl) hz.undone ?_
  refine comesTo_bind (comesTo_closeRides hz.undone (ridesListedNow_findActiveRides _ _))
    fun _ v _ hv => ?_
  refine comesTo_read (fun _ _ => rfl) hv.undone ?_
  obtain ⟨hnodup, hlisted⟩ := listedNow_findActiveBookings userId v.world.db
  refine comesTo_bind (comesTo_closeBookings hv.undone hnodup hlisted) fun _ w _ hw => ?_
  refine comesTo_beside ((beside_sql fun _ _ => rfl).bind fun _ => Program.Issues.bind ?_ fun _ => ?_)
    hw.undone
  · exact issues_beside ((Program.issues_perform _).mpr trivial)
      (leaves_sqlOrThrow fun _ _ => rfl)
  · exact beside_notify.bind fun _ => beside_notify

/-! ### A booking that nobody has answered, and one that an administrator refunds -/

theorem comesTo_handleExtendedDeadline {settings : Settings} (hmode : settings.bypassPayment = false)
    (bookingId : ℕ) (hx : x.undone = false) :
    (handleExtendedDeadline settings bookingId).Wp attemptWorld (ComesTo Booking.Uncancelled x) x := by
  refine comesTo_read (fun _ _ => rfl) hx ?_
  split
  · exact Or.inl ⟨[], .refl _ hx⟩
  rename_i booking ride hfound
  split_ifs with hanswered
  · exact Or.inl ⟨[], .refl _ hx⟩
  obtain ⟨hrow, -⟩ := findBookingWithRide_eq_some.mp hfound
  have hlive : booking.Uncancelled := by
    intro hcancelled
    have hpending : booking.status = .driverPending := not_not.mp fun h => hanswered (Or.inl h)
    rw [hpending] at hcancelled
    cases hcancelled
  refine comesTo_refunding [⟨bookingId, booking, booking.isPaymentCaptured⟩] hx
    (fun ctx b d s hrun => ?_) (fun ctx => ?_) fun _ y hy => comesTo_end beside_notify hy
  · refine ⟨ended_cancelUnansweredBooking hmode hrow hlive hrun, fun id refunded => ?_⟩
    simp [eq_comm]
  · exact onlyRefunds_cancelUnansweredBooking _ _ _ _ fun _ hintent => ⟨_, _, hrow, hlive, hintent⟩

theorem comesTo_adminRefundBooking (bookingId : ℕ) (hx : x.undone = false) :
    (adminRefundBooking bookingId).Wp attemptWorld (ComesTo (fun b => ¬ b.Settled) x) x := by
  refine comesTo_read (fun _ _ => rfl) hx ?_
  split
  · exact Or.inl ⟨[], .refl _ hx⟩
  rename_i booking hrow
  split_ifs with hdone
  · exact Or.inl ⟨[], .refl _ hx⟩
  cases hrefundable : booking.refundable with
  | none => exact Or.inl ⟨[], .refl _ hx⟩
  | some r =>
    obtain ⟨paymentIntent, amount⟩ := r
    have hintent := stripePaymentIntentId_of_refundable hrefundable
    have hlive : ¬ booking.Settled := fun hsettled => hdone hsettled.2
    refine comesTo_refunding [⟨bookingId, booking, true⟩] hx (fun ctx b d s hrun => ?_)
      (fun ctx => ?_) fun _ y hy => comesTo_end (beside_bestEffort ?_) hy
    · refine ⟨ended_adminRefundTx hrow hlive hintent hrun, fun id refunded => ?_⟩
      simp [eq_comm]
    · exact onlyRefunds_adminRefundTx _ _ _ ⟨_, _, hrow, hlive, hintent⟩
    · refine (beside_sql fun _ _ => rfl).bind fun found => ?_
      cases found with
      | none => trivial
      | some found => exact (beside_markBookingPaymentRefunded _ _ _).bind fun _ => trivial

end Calls

/-! ## Sequences of calls -/

/-- The calls that refund from within their transactions. -/
inductive RefundingCall
  | cancelRide (driverId rideId : ℕ)
  | deleteUserAccount (userId : ℕ)
  | adminRefundBooking (bookingId : ℕ)
  | handleExtendedDeadline (bookingId : ℕ)

def RefundingCall.program (settings : Settings) : RefundingCall → Service Unit
  | .cancelRide driverId rideId => Deliivo.cancelRide settings driverId rideId
  | .deleteUserAccount userId => Deliivo.deleteUserAccount userId
  | .adminRefundBooking bookingId => Deliivo.adminRefundBooking bookingId
  | .handleExtendedDeadline bookingId => Deliivo.handleExtendedDeadline settings bookingId

/-- A call, with what each of its steps is answered: one reply for every step within a transaction that
calls Stripe, the commit last. -/
structure RefundAttempt where
  call : RefundingCall
  replies : ℕ → List Reply

/-- How the call ends. -/
def RefundAttempt.result (settings : Settings) (w : World) (a : RefundAttempt) :
    Except Err Unit × Attempted :=
  let r := Program.run attemptWorld a.replies (a.call.program settings) 0 { world := w }
  (r.1, r.2.2)

/-- The world that it leaves. -/
def RefundAttempt.step (settings : Settings) (w : World) (a : RefundAttempt) : World :=
  (a.result settings w).2.world

/-- If the call throws, it has failed clean. -/
def RefundAttempt.FailsCleanly (settings : Settings) (w : World) (a : RefundAttempt) : Prop :=
  ∀ e, (a.result settings w).1 = .error e → FailsClean w (a.step settings w)

/-- The condition on a call: no transaction of it is rolled back in which Stripe has made a refund, and if
it throws, every booking that it has cancelled by then was refunded. -/
structure RefundAttempt.RefundsStand (settings : Settings) (w : World) (a : RefundAttempt) : Prop where
  kept : (a.result settings w).2.undone = false
  charged : ∀ e, (a.result settings w).1 = .error e →
    ∀ id, .bookingEnded id false ∉ (a.result settings w).2.log

/-- No booking of `w` has been refunded twice since. -/
def RefundedAtMostOnce (w w' : World) : Prop :=
  ∀ id b paymentIntent, w.db.bookings.get? id = some b →
    b.stripePaymentIntentId = some paymentIntent →
    (w.stripe.intentsSince w'.stripe).count paymentIntent ≤ 1

section Sequences

variable {settings : Settings} {w : World} {a : RefundAttempt}

theorem comesTo_program (hmode : settings.bypassPayment = false) (call : RefundingCall)
    {x : Attempted} (hx : x.undone = false) :
    (call.program settings).Wp attemptWorld (ComesTo (fun b => ¬ b.Settled) x) x := by
  have hmono : ∀ (r : Except Err Unit) y, ComesTo Booking.Uncancelled x r y →
      ComesTo (fun b => ¬ b.Settled) x r y := by
    rintro r y (⟨ended, hy⟩ | ⟨hthrown, hy⟩)
    · exact Or.inl ⟨ended, hy.undone, hy.rows.mono fun b hlive hsettled => hlive hsettled.1, hy.log⟩
    · obtain ⟨id, b, paymentIntent, extra, hb, hlive, hrest⟩ := hy.booking
      exact Or.inr ⟨hthrown, hy.undone, hy.intents, id, b, paymentIntent, extra, hb,
        fun hsettled => hlive hsettled.1, hrest⟩
  cases call with
  | cancelRide driverId rideId => exact (comesTo_cancelRide hmode _ _ hx).mono hmono
  | deleteUserAccount userId => exact (comesTo_deleteUserAccount _ hx).mono hmono
  | adminRefundBooking bookingId => exact comesTo_adminRefundBooking _ hx
  | handleExtendedDeadline bookingId => exact (comesTo_handleExtendedDeadline hmode _ hx).mono hmono

theorem comesTo_result (hmode : settings.bypassPayment = false) (w : World) (a : RefundAttempt) :
    ComesTo (fun b => ¬ b.Settled) { world := w } (a.result settings w).1 (a.result settings w).2 :=
  Program.wp_run (comesTo_program hmode a.call rfl) a.replies 0

theorem sameIntents_step (hmode : settings.bypassPayment = false) (w : World) (a : RefundAttempt) :
    w.db.SameIntents (a.step settings w).db := by
  rcases comesTo_result hmode w a with ⟨ended, hgoing⟩ | ⟨-, hstranded⟩
  · exact hgoing.rows.sameIntents
  · exact hstranded.intents

/-- A booking that Stripe has refunded has ended with a refund. -/
theorem Ended.of_refunded {live : Booking → Prop} {d d' : Db} {s s' : Stripe}
    {ended : List EndedBooking} (h : Ended live d s d' s' ended) (hunique : d.IntentsUnique) {id : ℕ}
    {b : Booking} (hb : d.bookings.get? id = some b) {paymentIntent : ℕ}
    (hmem : paymentIntent ∈ ended.filterMap EndedBooking.intent?)
    (hintent : b.stripePaymentIntentId = some paymentIntent) :
    ∃ e ∈ ended, e.id = id ∧ e.refunded = true := by
  obtain ⟨e, he, heq⟩ := List.mem_filterMap.mp hmem
  unfold EndedBooking.intent? at heq
  split_ifs at heq with hrefunded
  exact ⟨e, he, hunique _ _ _ _ _ (h.rows e he).before hb heq hintent, hrefunded⟩

/-- **A call that throws fails clean exactly if its refunds stand.** -/
theorem failsCleanly_iff (hmode : settings.bypassPayment = false) (hunique : w.db.IntentsUnique)
    (a : RefundAttempt) : a.FailsCleanly settings w ↔ a.RefundsStand settings w := by
  rcases comesTo_result hmode w a with ⟨ended, hgoing⟩ | ⟨⟨e, hthrown⟩, hstranded⟩
  · have hsince := intentsSince_of_append hgoing.rows.refunds
    constructor
    · refine fun hclean => ⟨hgoing.undone, fun e hthrown id hmem => ?_⟩
      obtain ⟨e', he', rfl, hrefunded⟩ :=
        ((hgoing.log id false).mp hmem).resolve_left List.not_mem_nil
      have hrow := hgoing.rows.rows e' he'
      obtain ⟨b, hb, hcancelled, -⟩ := hrow.after
      -- a booking that has ended without a refund has changed
      have hkept := (hclean e hthrown).others e'.id e'.row hrow.before ?_
      · obtain rfl := Option.some.inj (hb.symm.trans hkept)
        exact hrow.uncharged hrefunded hcancelled
      · rintro ⟨paymentIntent, hmem, hintent⟩
        rw [RefundAttempt.step, hsince] at hmem
        obtain ⟨e'', he'', hid, hrefunded'⟩ :=
          hgoing.rows.of_refunded hunique hrow.before hmem hintent
        obtain rfl := List.inj_on_of_nodup_map hgoing.rows.nodup he'' he' hid
        exact Bool.false_ne_true (hrefunded.symm.trans hrefunded')
    · intro hstand e hthrown
      have hall : ∀ e' ∈ ended, e'.refunded = true := by
        intro e' he'
        by_contra hrefunded
        refine hstand.charged e hthrown e'.id ((hgoing.log _ _).mpr (Or.inr ⟨e', he', rfl, ?_⟩))
        exact Bool.eq_false_of_not_eq_true hrefunded
      refine ⟨fun id b hb => ?_, fun id b hb hnot => ?_⟩
      · rintro ⟨paymentIntent, hmem, hintent⟩
        rw [RefundAttempt.step, hsince] at hmem
        obtain ⟨e', he', rfl, hrefunded⟩ := hgoing.rows.of_refunded hunique hb hmem hintent
        obtain ⟨b', hb', hcancelled, -, hdated⟩ := (hgoing.rows.rows e' he').after
        exact ⟨b', hb', hcancelled, hdated hrefunded⟩
      · refine hgoing.rows.row_of_notMem hb fun hid => hnot ?_
        obtain ⟨e', he', rfl⟩ := List.mem_map.mp hid
        have hrow := hgoing.rows.rows e' he'
        obtain rfl := Option.some.inj (hrow.before.symm.trans hb)
        obtain ⟨paymentIntent, hintent⟩ :=
          Option.isSome_iff_exists.mp (hrow.charged (hall e' he'))
        refine ⟨paymentIntent, ?_, hintent⟩
        rw [RefundAttempt.step, hsince]
        refine List.mem_filterMap.mpr ⟨e', he', ?_⟩
        rw [EndedBooking.intent?, if_pos (hall e' he'), hintent]
  · obtain ⟨id, b, paymentIntent, extra, hb, hlive, hb', hintent, hrefunds, hmem⟩ := hstranded.booking
    constructor
    · intro hclean
      obtain ⟨b₂, hb₂, hsettled⟩ := (hclean e hthrown).settled id b hb
        ⟨paymentIntent, by rwa [RefundAttempt.step, intentsSince_of_append hrefunds], hintent⟩
      obtain rfl := Option.some.inj (hb'.symm.trans hb₂)
      exact absurd hsettled hlive
    · intro hstand
      exact absurd (hstand.kept.symm.trans hstranded.undone) Bool.false_ne_true

/-- What has been refunded since is settled, and was refunded once. -/
structure RefundedAndSettled (w w' : World) : Prop where
  intents : w.db.SameIntents w'.db
  refunds : ∃ extra, w'.stripe.refundedIntents = w.stripe.refundedIntents ++ extra ∧ extra.Nodup ∧
    ∀ paymentIntent ∈ extra, ∃ id b, w'.db.bookings.get? id = some b ∧
      b.stripePaymentIntentId = some paymentIntent ∧ b.Settled

/-- Refunds of bookings that have ended are of different intents. -/
theorem Ended.nodup_intents {live : Booking → Prop} {d d' : Db} {s s' : Stripe}
    {ended : List EndedBooking} (h : Ended live d s d' s' ended) (hunique : d.IntentsUnique) :
    (ended.filterMap EndedBooking.intent?).Nodup := by
  have hids : ended.Pairwise fun e e' => e.id ≠ e'.id := List.pairwise_map.mp h.nodup
  refine List.pairwise_filterMap.mpr (hids.imp_of_mem fun {e e'} he he' hne => ?_)
  rintro paymentIntent hintent _ hintent' rfl
  unfold EndedBooking.intent? at hintent hintent'
  split_ifs at hintent hintent'
  exact hne (hunique _ _ _ _ _ (h.rows e he).before (h.rows e' he').before hintent hintent')

theorem RefundedAndSettled.refl (w : World) : RefundedAndSettled w w where
  intents := rfl
  refunds := ⟨[], (List.append_nil _).symm, List.nodup_nil, fun _ h => absurd h List.not_mem_nil⟩

/-- A call whose refunds stand refunds nothing that has been refunded. -/
theorem RefundedAndSettled.step (hmode : settings.bypassPayment = false) {w₀ : World}
    (hunique : w₀.db.IntentsUnique) (h : RefundedAndSettled w₀ w) (hstand : a.RefundsStand settings w) :
    RefundedAndSettled w₀ (a.step settings w) := by
  -- a refund left standing by an undone step is what the condition excludes
  rcases comesTo_result hmode w a with ⟨ended, hgoing⟩ | ⟨-, hstranded⟩
  swap
  · exact absurd (hstand.kept.symm.trans hstranded.undone) Bool.false_ne_true
  have hunique' : w.db.IntentsUnique := hunique.same h.intents
  obtain ⟨extra, hextra, hnodup, hsettled⟩ := h.refunds
  refine ⟨(sameIntents_step hmode w a).trans h.intents,
    extra ++ ended.filterMap EndedBooking.intent?, ?_, ?_, fun paymentIntent hmem => ?_⟩
  · rw [← List.append_assoc, ← hextra]
    exact hgoing.rows.refunds
  · rw [List.nodup_append]
    refine ⟨hnodup, hgoing.rows.nodup_intents hunique', ?_⟩
    rintro paymentIntent hold _ hnew rfl
    obtain ⟨id, b, hb, hintent, hdone⟩ := hsettled paymentIntent hold
    -- a payment refunded before and again now: its booking has already ended, yet the step took it live
    obtain ⟨e, he, rfl, -⟩ := hgoing.rows.of_refunded hunique' hb hnew hintent
    have hrow := hgoing.rows.rows e he
    obtain rfl := Option.some.inj (hrow.before.symm.trans hb)
    exact hrow.live hdone
  · rcases List.mem_append.mp hmem with hold | hnew
    · obtain ⟨id, b, hb, hintent, hdone⟩ := hsettled paymentIntent hold
      refine ⟨id, b, hgoing.rows.row_of_notMem hb fun hid => ?_, hintent, hdone⟩
      obtain ⟨e, he, rfl⟩ := List.mem_map.mp hid
      have hrow := hgoing.rows.rows e he
      obtain rfl := Option.some.inj (hrow.before.symm.trans hb)
      exact hrow.live hdone
    · obtain ⟨e, he, heq⟩ := List.mem_filterMap.mp hnew
      unfold EndedBooking.intent? at heq
      split_ifs at heq with hrefunded
      obtain ⟨b, hb, hcancelled, hintent, hdated⟩ := (hgoing.rows.rows e he).after
      exact ⟨e.id, b, hb, hintent.trans heq, hcancelled, hdated hrefunded⟩

theorem RefundedAndSettled.atMostOnce {w₀ w : World} (h : RefundedAndSettled w₀ w) :
    RefundedAtMostOnce w₀ w := by
  intro id b paymentIntent _ _
  obtain ⟨extra, hextra, hnodup, -⟩ := h.refunds
  rw [intentsSince_of_append hextra]
  exact List.nodup_iff_count_le_one.mp hnodup paymentIntent

/-- **Calls that fail.** In a sequence of calls, each of which may fail anywhere, every call that throws
has settled what it has refunded and changed no other booking exactly if the refunds of every call
stand; and then no booking has been refunded twice. -/
theorem failed_calls_refund_once (settings : Settings) (hmode : settings.bypassPayment = false)
    (w : World) (hunique : w.db.IntentsUnique) (attempts : List RefundAttempt) :
    (History.Each (RefundAttempt.step settings) (fun w a => a.FailsCleanly settings w) w attempts ↔
      History.Each (RefundAttempt.step settings) (fun w a => a.RefundsStand settings w) w attempts) ∧
    (History.Each (RefundAttempt.step settings) (fun w a => a.RefundsStand settings w) w attempts →
      RefundedAtMostOnce w (History.after (RefundAttempt.step settings) w attempts)) := by
  have hkeep : ∀ w (a : RefundAttempt), w.db.IntentsUnique → (a.step settings w).db.IntentsUnique :=
    fun w a h => h.same (sameIntents_step hmode w a)
  refine ⟨⟨fun h => ?_, fun h => ?_⟩, fun h => ?_⟩
  · exact h.imp hkeep (fun w a hw => (failsCleanly_iff hmode hw a).mp) hunique
  · exact h.imp hkeep (fun w a hw => (failsCleanly_iff hmode hw a).mpr) hunique
  · have hruns := History.always_of_each (fun w' a hw' ha => hw'.step hmode hunique ha)
      (RefundedAndSettled.refl w) h
    exact hruns.last.atMostOnce

end Sequences

/-! ### One ride with one rider -/

section Runs

/-- A published ride whose rider has paid. -/
private def paidRideWorld : World where
  db := {
    rides := Table.single 1 {
      driverId := 4
      totalSeats := 4
      availableSeats := 3
      status := .published
      departureAt := 90000000 }
    bookings := Table.single 7 {
      rideId := 1
      passengerId := 5
      seatsBooked := 1
      totalPrice := 1020
      status := .confirmed
      stripePaymentIntentId := some 3
      paymentAmount := some 1020
      paymentCapturedAt := some 5
      seatsReservedAt := some 5 } }
  stripe := {
    intents := Table.single 3 {
      bookingId := some 7
      amount := 1020
      amountReceived := 1020
      status := .succeeded } }

/-- The driver cancels the ride; the first step of the transaction that fails is the one after `replies`. -/
private def rideCancelled (replies : List Reply) : RefundAttempt where
  call := .cancelRide 4 1
  replies n := if n = 2 then replies else [.ok]

theorem intentsUnique_paidRide : paidRideWorld.db.IntentsUnique := by
  intro id id' b b' paymentIntent hb hb' _ _
  have hid : ∀ id b, paidRideWorld.db.bookings.get? id = some b → id = 7 := by
    intro id b hb
    by_contra hne
    rw [show paidRideWorld.db.bookings.get? id = none from (Table.get?_singleton _ _ _ _).trans
      (if_neg hne)] at hb
    cases hb
  exact (hid id b hb).trans (hid id' b' hb').symm

/-- The transaction fails before the refund; the driver tries again. -/
theorem ride_cancelled_at_second_try :
    History.Each (RefundAttempt.step {}) (fun w a => a.FailsCleanly {} w) paidRideWorld
      [rideCancelled [.ok, .ok], rideCancelled [.ok, .ok, .ok, .ok, .ok, .ok]] ∧
    RefundedAtMostOnce paidRideWorld (History.after (RefundAttempt.step {}) paidRideWorld
      [rideCancelled [.ok, .ok], rideCancelled [.ok, .ok, .ok, .ok, .ok, .ok]]) := by
  have hstand : History.Each (RefundAttempt.step {}) (fun w a => a.RefundsStand {} w) paidRideWorld
      [rideCancelled [.ok, .ok], rideCancelled [.ok, .ok, .ok, .ok, .ok, .ok]] := by
    refine ⟨⟨rfl, fun e _ id hmem => ?_⟩, ⟨rfl, fun e hthrown => ?_⟩, trivial⟩
    · cases hmem
    · cases hthrown
  obtain ⟨hiff, honce⟩ := failed_calls_refund_once {} rfl paidRideWorld intentsUnique_paidRide
    [rideCancelled [.ok, .ok], rideCancelled [.ok, .ok, .ok, .ok, .ok, .ok]]
  exact ⟨hiff.mpr hstand, honce hstand⟩

/-- **The commit fails after the refund**: Stripe keeps it, and the booking is confirmed as before. -/
theorem refunded_ride_not_cancelled :
    ((rideCancelled [.ok, .ok, .ok, .ok, .ok, .refused]).result {} paidRideWorld).1 =
        .error .unavailable ∧
      ¬ (rideCancelled [.ok, .ok, .ok, .ok, .ok, .refused]).FailsCleanly {} paidRideWorld := by
  refine ⟨rfl, fun hclean => ?_⟩
  obtain ⟨b, hb, hsettled⟩ := (hclean _ rfl).settled 7 _ rfl ⟨3, List.mem_singleton_self _, rfl⟩
  obtain rfl := Option.some.inj hb
  cases hsettled.1

end Runs

end Deliivo
