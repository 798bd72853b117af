import Deliivo.Booking.Creation
import Deliivo.Booking.PaymentSucceeded
import Deliivo.Payment.Frame

/-!
# What bookings leave alone

Taking and giving back seats writes bookings, rides and edges; matching a request writes offers and
requests as well; applying a payment writes what the payment service writes, and issues.

## Main results

* `leaves_releaseBookingSeats`, `leaves_reserveSeatsForBooking`
* `leaves_confirmRequestBooking`, `leaves_claimCapturedBooking`
* `leaves_applyStripePaymentSucceededToBooking`
* `leaves_reserveOfferOf`, `leaves_resolveBookingPlan`, `leaves_createPayment`
* `leaves_refundEndedBooking`, `leaves_completeRefusal`, `leaves_settleCancelledBooking`
-/

namespace Deliivo

variable {φ : Type} {get : Db → φ} {F : Frame}

theorem leaves_findBookingWithRide (bookingId : ℕ) : (findBookingWithRide bookingId).Leaves get :=
  fun _ _ => rfl

theorem findBookingWithRide_eq_some {d : Db} {bookingId : ℕ} {booking : Booking} {ride : Ride} :
    (findBookingWithRide bookingId).answer d = some (booking, ride) ↔
      d.bookings.get? bookingId = some booking ∧ d.rides.get? booking.rideId = some ride := by
  simp only [findBookingWithRide]
  cases hb : d.bookings.get? bookingId with
  | none => simp
  | some b =>
    cases hr : d.rides.get? b.rideId with
    | none =>
      suffices b = booking → ¬ d.rides.get? booking.rideId = some ride by simpa [hr] using this
      rintro rfl h
      rw [hr] at h
      cases h
    | some r =>
      suffices b = booking ∧ r = ride ↔ b = booking ∧ d.rides.get? booking.rideId = some ride by
        simpa [hr] using this
      refine and_congr_right ?_
      rintro rfl
      rw [hr, Option.some.injEq]

/-! ## Seats -/

/-- Counting the seats of a ride does not change the part `get`. -/
def SeatCountApart (get : Db → φ) : Prop :=
  ∀ d id (seats : ℤ),
    get { d with rides := d.rides.modify id fun r => { r with availableSeats := seats } } = get d

theorem TableRef.Apart.seatCount (h : rides.Apart get) : SeatCountApart get := fun d _ _ => h d _

section Seats

variable (hs : segments.Apart get) (hr : SeatCountApart get)

include hs in
theorem leaves_updateBookedRange (hold : SeatHold) (P : Segment → Bool) (f : Segment → Segment) :
    (updateBookedRange hold P f).Leaves get := by
  unfold updateBookedRange
  split
  · exact ((Program.issues_command _).mpr (hs.updateMany _ _)).bind fun _ => trivial
  · trivial

include hr in
theorem leaves_writeAvailableSeats (rideId : ℕ) (seats : ℤ) :
    (writeAvailableSeats rideId seats).Leaves get :=
  ((Program.issues_perform _).mpr fun _ _ => hr _ _ _).bind fun _ => trivial

include hs hr

theorem leaves_releaseSegmentSeats (hold : SeatHold) : (releaseSegmentSeats hold).Leaves get := by
  refine ((Program.issues_command _).mpr fun _ _ => rfl).bind fun _ => ?_
  refine (leaves_updateBookedRange hs _ _ _).bind fun _ => ?_
  exact ((Program.issues_command _).mpr fun _ _ => rfl).bind fun _ =>
    leaves_writeAvailableSeats hr _ _

theorem leaves_reserveRideSeats (hold : SeatHold) (bookingId : Option ℕ) :
    (reserveRideSeats hold bookingId).Leaves get := by
  refine ((Program.issues_command _).mpr fun _ _ => rfl).bind fun _ => ?_
  refine ((Program.issues_command _).mpr fun _ _ => rfl).bind fun held => ?_
  split_ifs with hfull
  · trivial
  · exact (leaves_updateBookedRange hs _ _ _).bind fun _ => leaves_writeAvailableSeats hr _ _

theorem leaves_reserveSeatsForBooking (hold : SeatHold) (bookingId : Option ℕ)
    (allowDraft : Bool) : (reserveSeatsForBooking hold bookingId allowDraft).Leaves get := by
  refine (leaves_reserveRideSeats hs hr _ _).bind fun _ => ?_
  refine ((Program.issues_command _).mpr (leaves_findUnique _)).bind fun ride => ?_
  dsimp only
  split_ifs <;> trivial

variable (hb : bookings.Apart get)

include hb

theorem leaves_releaseBookingSeats (bookingId : ℕ) (hold : SeatHold) :
    (releaseBookingSeats bookingId hold).Leaves get := by
  refine ((Program.issues_command _).mpr (hb.updateMany _ _)).bind fun claimed => ?_
  split_ifs with hnone
  · trivial
  · exact (leaves_releaseSegmentSeats hs hr _).bind fun _ => trivial

end Seats

/-! ## Requests -/

section Requests

variable (hp : payments.Apart get)

include hp in
theorem leaves_upsertPayment (id bookingId : ℕ) (row : Payment) :
    (upsertPayment id bookingId row).Leaves get := by
  intro seen d
  simp only [upsertPayment]
  split
  · rfl
  · exact hp _ _

include hp in
theorem leaves_ensureRequestPayment (feePercent : Option ℚ) (uuid bookingId : ℕ)
    (booking : Booking) : (ensureRequestPayment feePercent uuid bookingId booking).Leaves get := by
  unfold ensureRequestPayment
  split
  · trivial
  · trivial
  · split
    · trivial
    · refine ((Program.issues_command _).mpr (leaves_upsertPayment hp _ _ _)).bind fun found => ?_
      dsimp only
      split_ifs with hmatch hlinked
      · refine ((Program.issues_command _).mpr (hp.updateMany _ _)).bind fun linked => ?_
        split_ifs <;> trivial
      · trivial
      · trivial

/-- Seeing to the payment of a request does not change the part `get` of the database. -/
def RequestPaymentApart (get : Db → φ) : Prop :=
  ∀ feePercent uuid bookingId booking,
    (ensureRequestPayment feePercent uuid bookingId booking).Leaves get

theorem RequestPaymentApart.of_apart (hp : payments.Apart get) : RequestPaymentApart get :=
  leaves_ensureRequestPayment hp

section Confirm

variable {bookingId : ℕ}
  (hbk : ∀ (d : Db) (f : Booking → Booking), (∀ b, (f b).rideId = b.rideId) →
    get { d with bookings := d.bookings.modify bookingId f } = get d)
  (hr : rides.Apart get) (ho : offers.Apart get) (hq : requests.Apart get)
  (hpay : ∀ feePercent uuid booking,
    (ensureRequestPayment feePercent uuid bookingId booking).Leaves get)

include hbk hr ho hq

theorem leaves_matchRequest (ctx : Ctx) (view : OfferView) :
    (matchRequest ctx bookingId view).Leaves get := by
  refine ((Program.issues_perform _).mpr fun _ d => hbk d _ ?_).bind fun _ => ?_
  · exact fun _ => rfl
  refine ((Program.issues_perform _).mpr (hr.update _ _)).bind fun _ => ?_
  refine ((Program.issues_perform _).mpr (ho.update _ _)).bind fun _ => ?_
  refine ((Program.issues_perform _).mpr (hq.update _ _)).bind fun _ => ?_
  exact ((Program.issues_command _).mpr (ho.updateMany _ _)).bind fun _ => trivial

include hpay

theorem leaves_confirmRequestBooking (feePercent : Option ℚ) (ctx : Ctx) :
    (confirmRequestBooking feePercent ctx bookingId).Leaves get := by
  refine ((Program.issues_command _).mpr fun _ _ => rfl).bind fun found => ?_
  cases found with
  | none => trivial
  | some view =>
    dsimp only
    split_ifs with hstatus hdeparted
    · trivial
    · trivial
    · cases view.booking with
      | none => trivial
      | some booking =>
        dsimp only
        split_ifs with hintent
        · exact (hpay _ _ _).bind fun _ =>
            leaves_matchRequest hbk hr ho hq _ _
        · exact leaves_matchRequest hbk hr ho hq _ _

end Confirm

variable (hb : bookings.Apart get) (hr : rides.Apart get) (ho : offers.Apart get)
  (hq : requests.Apart get) (hens : RequestPaymentApart get) (hs : segments.Apart get)

include hb hr ho hq hens hs

theorem leaves_claimCapturedBooking (settings : Settings) (bookingId paymentIntent : ℕ)
    (intent : Intent) (now : ℕ) (ctx : Ctx) :
    (claimCapturedBooking settings bookingId paymentIntent intent now ctx).Leaves get := by
  refine ((Program.issues_command _).mpr (hb.updateMany _ _)).bind fun claimed => ?_
  split_ifs with hnone
  · trivial
  · refine ((Program.issues_perform _).mpr fun _ _ => rfl).bind fun found => ?_
    refine (leaves_confirmRequestBooking (fun _ _ _ => hb _ _) hr ho hq
      (fun _ _ _ => hens _ _ _ _) _ _).bind fun _ => ?_
    exact (leaves_reserveSeatsForBooking hs hr.seatCount _ _ _).bind fun _ => trivial

end Requests

/-! ## Applying a payment -/

section Apply

theorem leaves_claimPayment {settings : Settings} {bookingId paymentIntent : ℕ} {intent : Intent}
    {now : ℕ} (h : ∀ ctx, (claimCapturedBooking settings bookingId paymentIntent intent now
      ctx).Leaves F.db) (hclaimed : F.events (.bookingClaimed bookingId)) :
    (claimPayment settings bookingId paymentIntent intent now).Leaves F := by
  refine Program.Issues.tryCatch ((Program.issues_perform _).mpr ⟨h, ?_⟩) fun e => ?_
  · intro outcome e he
    cases outcome with
    | claimed => exact List.mem_singleton.mp he ▸ hclaimed
    | alreadyApplied | rideFull => exact absurd he List.not_mem_nil
  · split_ifs <;> trivial

theorem leaves_bestEffort {p : Service Unit} (h : p.Leaves F) : (bestEffort p).Leaves F :=
  h.tryCatch fun _ => trivial

variable (hp : PaymentWritesApart F.db) (hl : LedgerApart F.db) (hout : outbox.Apart F.db)
  (hi : ∀ d l, F.db { d with issues := l } = F.db d)
  (hw : ∀ paymentId read written, F.events (.paymentWritten paymentId read written))

include hi in
theorem leaves_createIssue (issue : ReconciliationIssue) : (createIssue issue).Leaves F :=
  leaves_sql fun _ _ => hi _ _

include hl in
theorem leaves_recordProviderFeeForIntent (paymentIntent bookingId : ℕ) :
    (recordProviderFeeForIntent paymentIntent bookingId).Leaves F := by
  refine leaves_bestEffort ((leaves_sql (leaves_findFirst _)).bind fun found => ?_)
  cases found with
  | none => trivial
  | some found =>
    refine (leaves_retrievePaymentIntent _).bind fun charged => ?_
    split
    · trivial
    · unfold recordProviderFeeExpense
      split_ifs
      · exact hl.recordGroup _
      · trivial

include hp hl hout hw

theorem leaves_syncAcceptedOffer (bookingId : ℕ) : (syncAcceptedOffer bookingId).Leaves F := by
  refine (leaves_sql (leaves_findFirst _)).bind fun accepted => ?_
  cases accepted with
  | none => trivial
  | some found =>
    dsimp only
    split_ifs with haccepted
    · exact (leaves_markBookingPaymentPaid hp hw hl hout _ _).bind fun _ => trivial
    · trivial

include hi

theorem leaves_syncClaimedPayment (bookingId driverId : ℕ) :
    (syncClaimedPayment bookingId driverId).Leaves F := by
  refine Program.Issues.tryCatch ?_ fun _ => leaves_bestEffort (leaves_createIssue hi _)
  exact (leaves_markBookingPaymentPaid hp hw hl hout _ _).bind fun _ => trivial

section Deadline

/-- Changing the deadline of a booking does not change the part `get`. -/
def DeadlineApart (get : Db → φ) : Prop :=
  ∀ (d : Db) (id : ℕ) (deadline : Option ℕ), get { d with
    bookings := d.bookings.modify id fun b => { b with driverDecisionDeadlineAt := deadline } } = get d

variable (hd : DeadlineApart F.db)

include hd

theorem leaves_completeClaim (bookingId paymentIntent now : ℕ) :
    (completeClaim bookingId paymentIntent now).Leaves F := by
  refine (leaves_sql (leaves_findBookingWithRide _)).bind fun found => ?_
  cases found with
  | none => trivial
  | some found =>
    dsimp only
    split_ifs with hconfirmed
    · refine (leaves_markBookingPaymentPaid hp hw hl hout _ _).bind fun _ => ?_
      exact (leaves_bestEffort leaves_notify).bind fun _ => leaves_bestEffort leaves_notify
    · refine (leaves_sqlOrThrow fun _ _ => hd _ _ _).bind fun _ => ?_
      refine (leaves_recordProviderFeeForIntent hl _ _).bind fun _ => ?_
      refine (leaves_syncClaimedPayment hp hl hout hi hw _ _).bind fun _ => ?_
      exact leaves_bestEffort (leaves_notify.bind fun _ => leaves_notify)

end Deadline

variable (hb : bookings.Apart F.db) (href : RefundsApart F.stripe)

include hb href

theorem leaves_refundRideFullPayment (bookingId paymentIntent : ℕ) :
    (refundRideFullPayment bookingId paymentIntent).Leaves F := by
  refine (leaves_transaction fun ctx => (Program.issues_command _).mpr (hb.updateMany _ _)).bind
    fun claimed => ?_
  split_ifs with hnone
  · trivial
  · refine (leaves_sql (leaves_findBookingWithRide _)).bind fun found => ?_
    cases found with
    | none => trivial
    | some found =>
      refine Program.Issues.bind ?_ fun _ => ?_
      · refine ((leaves_refundPaymentIntent href _ _).bind fun _ => ?_).tryCatch fun _ =>
          leaves_bestEffort (leaves_createIssue hi _)
        refine (leaves_transaction fun ctx => ?_).bind fun _ => trivial
        exact (Program.issues_perform _).mpr (hb.update _ _)
      refine (leaves_bestEffort ?_).bind fun _ => leaves_bestEffort leaves_notify
      refine (leaves_markBookingPaymentPaid hp hw hl hout _ _).bind fun _ => ?_
      exact (leaves_markBookingPaymentRefunded hp hw hl _ _ _).bind fun _ => trivial

variable (hr : rides.Apart F.db) (hs : segments.Apart F.db) (ho : offers.Apart F.db)
  (hq : requests.Apart F.db) (hens : RequestPaymentApart F.db)
  (hclaimed : ∀ bookingId, F.events (.bookingClaimed bookingId))

include hr hs ho hq hens hclaimed

theorem leaves_applyStripePaymentSucceededToBooking (settings : Settings) (paymentIntent : ℕ)
    (intent : Intent) :
    (applyStripePaymentSucceededToBooking settings paymentIntent intent).Leaves F := by
  unfold applyStripePaymentSucceededToBooking
  split
  · trivial
  · refine ((Program.issues_command _).mpr trivial).bind fun now => ?_
    refine Program.Issues.bind (leaves_claimPayment (fun ctx => ?_) (hclaimed _)) fun outcome => ?_
    · exact leaves_claimCapturedBooking hb hr ho hq hens hs _ _ _ _ _ _
    cases outcome with
    | alreadyApplied => exact (leaves_syncAcceptedOffer hp hl hout hw _).bind fun _ => trivial
    | rideFull => exact (leaves_refundRideFullPayment hp hl hout hi hw hb href _ _).bind fun _ =>
        trivial
    | claimed =>
      exact (leaves_completeClaim hp hl hout hi hw (fun _ _ _ => hb _ _) _ _ _).bind fun _ => trivial

end Apply

/-! ## Creating a booking -/

section Creation

variable {settings : Settings} {rules : BookingRules} {overlaps : ℕ → ℕ → Db → Bool}
  {passengerId bookingId : ℕ} {input : CreateBookingInput} {requestOfferId : Option ℕ} {now : ℕ}
  {ctx : Ctx}

theorem leaves_reserveOfferOf (hq : requests.Apart get) (ho : offers.Apart get) :
    (reserveOfferOf overlaps passengerId input requestOfferId ctx).Leaves get := by
  unfold reserveOfferOf
  split
  · trivial
  · refine ((Program.issues_command _).mpr fun _ _ => rfl).bind fun found => ?_
    cases found with
    | none => trivial
    | some found =>
      dsimp only
      split_ifs with hunavailable
      · trivial
      · refine ((Program.issues_command _).mpr fun _ _ => rfl).bind fun _ => ?_
        refine ((Program.issues_command _).mpr fun _ _ => rfl).bind fun overlap => ?_
        split_ifs with hoverlap
        · trivial
        · refine ((Program.issues_command _).mpr (hq.updateMany _ _)).bind fun changed => ?_
          split_ifs with hchanged
          · trivial
          · refine ((Program.issues_command _).mpr (ho.updateMany _ _)).bind fun selected => ?_
            split_ifs <;> trivial

theorem leaves_resolveBookingPlan (answersRequest : Bool) :
    (resolveBookingPlan settings rules passengerId input now answersRequest).Leaves get := by
  refine ((Program.issues_command _).mpr (leaves_findFirst _)).bind fun found => ?_
  cases found with
  | none => trivial
  | some found =>
    refine (Program.issues_ofExcept _).bind fun _ => ?_
    refine ((Program.issues_command _).mpr (leaves_findFirst _)).bind fun existing => ?_
    split_ifs with hexisting
    · trivial
    · exact Program.issues_ofExcept _

theorem leaves_createPayment {plan : BookingPlan} {rideId : ℕ} {currency : String}
    {paymentIntent : Option ℕ} (hp : payments.Apart get) :
    (createPayment plan bookingId passengerId rideId currency paymentIntent ctx).Leaves get :=
  (Program.issues_ofExcept _).bind fun _ =>
    ((Program.issues_command _).mpr (hp.create _ _)).bind fun _ => trivial

theorem leaves_linkOffer (ho : offers.Apart get) : (linkOffer requestOfferId bookingId).Leaves get := by
  unfold linkOffer
  split
  · trivial
  · exact ((Program.issues_perform _).mpr (ho.update _ _)).bind fun _ => trivial

/-- A row is created only where there was none. -/
theorem atomic_createBookingRow {d d' : Db} {booking : Booking} {u : Unit}
    (h : Tx.atomic (Program.perform (createBookingRow bookingId booking)) d = .ok (u, d')) :
    d.bookings.get? bookingId = none ∧
      d' = { d with bookings := d.bookings.insert bookingId booking } := by
  simp only [Program.perform, Tx.atomic, createBookingRow] at h
  cases hrow : d.bookings.get? bookingId with
  | some row => simp [hrow, Tx.atomic] at h
  | none =>
    simp only [hrow, Option.isSome_none, Bool.false_eq_true, if_false, Program.ofExcept_ok,
      Tx.atomic, Except.ok.injEq, Prod.mk.injEq] at h
    exact ⟨rfl, h.2.symm⟩

end Creation

/-! ## Ending a booking -/

section Ending

/-- Taking the seats off bookings does not change the part `get`. -/
def SeatHoldApart (get : Db → φ) : Prop :=
  ∀ (d : Db) (P : ℕ → Booking → Bool), get { d with
    bookings := d.bookings.modifyWhere P fun b => { b with seatsReservedAt := none } } = get d

/-- Dating the refund of a booking does not change the part `get`. -/
def RefundDateApart (get : Db → φ) : Prop :=
  ∀ (d : Db) (id : ℕ) (date : Option ℕ), get { d with
    bookings := d.bookings.modify id fun b => { b with refundedAt := date } } = get d

/-- Writing the intents does not change the part `keep` of Stripe. -/
def IntentsApart {ψ : Type} (keep : Stripe → ψ) : Prop :=
  ∀ s t, keep { s with intents := t } = keep s

theorem leaves_giveSeatsBack (hs : segments.Apart get) (hr : SeatCountApart get)
    (hb : SeatHoldApart get) (bookingId : ℕ) (hold : SeatHold) :
    (releaseBookingSeats bookingId hold).Leaves get := by
  refine ((Program.issues_command _).mpr fun _ d => hb d _).bind fun claimed => ?_
  split_ifs with hnone
  · trivial
  · exact (leaves_releaseSegmentSeats hs hr _).bind fun _ => trivial

theorem leaves_requireDriverBooking (driverId bookingId : ℕ) :
    (requireDriverBooking driverId bookingId).Leaves F := by
  refine (leaves_sql (leaves_findBookingWithRide _)).bind fun found => ?_
  cases found with
  | none => trivial
  | some found =>
    dsimp only
    split_ifs <;> trivial

theorem leaves_assertDecisionWindowOpen (deadlineAt : Option ℕ) :
    (assertDecisionWindowOpen deadlineAt).Leaves F := by
  refine ((Program.issues_command _).mpr trivial).bind fun now => ?_
  split_ifs <;> trivial

theorem leaves_cancelPaymentIntent (hi : IntentsApart F.stripe) (paymentIntent : ℕ) :
    (cancelPaymentIntent paymentIntent).Leaves F := by
  refine leaves_stripe fun s b s' h => ?_
  split at h
  · cases h
  · split_ifs at h
    obtain ⟨-, rfl⟩ := Prod.mk.injEq .. ▸ Except.ok.inj h
    exact hi _ _

theorem leaves_releaseUnpaidPaymentIntent (hi : IntentsApart F.stripe) (paymentIntent : ℕ) :
    (releaseUnpaidPaymentIntent paymentIntent).Leaves F :=
  leaves_bestEffort (leaves_cancelPaymentIntent hi _)

section Refund

variable (href : RefundsApart F.stripe)

include href

theorem leaves_refundDecidedBooking (settings : Settings) (booking : Booking) :
    (refundDecidedBooking settings booking).Leaves F := by
  unfold refundDecidedBooking
  split_ifs with hbypass
  · trivial
  · split
    · exact (leaves_refundPaymentIntent href _ _).bind fun _ => trivial
    · trivial

variable (hdate : RefundDateApart F.db)

include hdate

theorem leaves_refundEndedBooking (bookingId paymentIntent : ℕ) (refundAmount : ℤ) :
    (refundEndedBooking bookingId paymentIntent refundAmount).Leaves F := by
  refine (leaves_refundPaymentIntent href _ _).bind fun _ => ?_
  exact (leaves_transaction fun ctx => (Program.issues_perform _).mpr fun _ d =>
    hdate d _ _).bind fun _ => trivial

variable (hi : IntentsApart F.stripe)

include hi

theorem leaves_settleCancelledBooking (bookingId : ℕ) (booking : Booking) (refundAmount : ℤ) :
    (settleCancelledBooking bookingId booking refundAmount).Leaves F := by
  unfold settleCancelledBooking
  split
  · trivial
  · split_ifs with hcaptured hamount
    · exact (leaves_refundEndedBooking href hdate _ _ _).bind fun _ => trivial
    · trivial
    · exact (leaves_releaseUnpaidPaymentIntent hi _).bind fun _ => trivial

theorem leaves_settleWithdrawnBooking (settings : Settings) (bookingId : ℕ) (booking : Booking) :
    (settleWithdrawnBooking settings bookingId booking).Leaves F := by
  unfold settleWithdrawnBooking
  split_ifs with hbypass
  · trivial
  · split
    · exact (leaves_releaseUnpaidPaymentIntent hi _).bind fun _ => trivial
    · exact (leaves_refundEndedBooking href hdate _ _ _).bind fun _ => trivial
    · trivial

end Refund

variable (hp : PaymentWritesApart F.db) (hl : LedgerApart F.db)
  (hw : ∀ paymentId read written, F.events (.paymentWritten paymentId read written))

include hp hl hw

theorem leaves_syncRefund (bookingId driverId : ℕ) (refundAmount : ℤ) :
    (syncRefund bookingId driverId refundAmount).Leaves F :=
  leaves_bestEffort ((leaves_markBookingPaymentRefunded hp hw hl _ _ _).bind fun _ => trivial)

theorem leaves_completeRefusal (driverId bookingId : ℕ) (booking : Booking) (refunded : Bool) :
    (completeRefusal driverId bookingId booking refunded).Leaves F := by
  unfold completeRefusal
  split_ifs with hrefunded
  · exact (leaves_syncRefund hp hl hw _ _ _).bind fun _ => leaves_notify.bind fun _ => leaves_notify
  · exact leaves_notify.bind fun _ => leaves_notify

end Ending

end Deliivo
