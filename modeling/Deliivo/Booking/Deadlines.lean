import Deliivo.Booking.Creation
import Deliivo.Booking.Extension
import Deliivo.Booking.Frame
import Deliivo.Domain.Pool
import Deliivo.Domain.Preserves
import Deliivo.Program.Traced
import Deliivo.Store.RowView

/-!
# The driver decides before the departure

The deadline of the driver's decision is capped at the departure where it is worked out from the choice
of the rider. Two writers work it out otherwise: a payment that is captured gives the driver an hour from
the time that the call has read, until the next write of the same call, and a rider who extends the wait
gives the driver an hour more.

**If whoever gives the driver an hour does so while there is an hour left, then no booking is ever due
after the departure of its ride** (`decisions_due_in_time`).

## Main definitions

* `Db.DueInTime`: the invariant
* `DeadlineOp`, `deadlinePool`: the calls that write deadlines, next to each other
* `DeadlineStep`: the condition on their steps

## Main results

* `calculateDeadline_le`: the cap
* `claimCapturedBooking_due`, `createPaidBooking_due`: the transactions
* `decisions_due_in_time`
-/

namespace Deliivo

open Program (Logged Pool Move Protocol)

/-! ## The invariant -/

/-- The departures of the rides. -/
def departureTimes (d : Db) : ℕ → Option ℕ := d.rides.viewed Ride.departureAt

/-- A booking that waits for its driver does so at most until the departure of its ride. -/
def Booking.DueInTime (departureTimes : ℕ → Option ℕ) (booking : Booking) : Prop :=
  booking.status = .driverPending → ∃ deadline departureAt,
    booking.driverDecisionDeadlineAt = some deadline ∧
      departureTimes booking.rideId = some departureAt ∧ deadline ≤ departureAt

/-- No booking is due after the departure of its ride. -/
def Db.DueInTime (d : Db) : Prop :=
  d.bookings.Every fun _ b => b.DueInTime (departureTimes d)

/-- None but this one. -/
def Db.DueInTimeBut (bookingId : ℕ) (d : Db) : Prop :=
  d.bookings.Every fun id b => id ≠ bookingId → b.DueInTime (departureTimes d)

/-- **The cap**: whatever the rider has chosen, the deadline is not after the departure. -/
theorem calculateDeadline_le (option : Option ExpiryOption) (departureAt now : ℕ) :
    calculateDeadline option departureAt now ≤ departureAt := by
  unfold calculateDeadline
  split
  · exact min_le_right _ _
  · exact min_le_right _ _

/-- What the invariant is about: the departures, and of the bookings their rides, statuses and
deadlines. -/
def dueView (d : Db) : (ℕ → Option ℕ) × (ℕ → Option (ℕ × BookingStatus × Option ℕ)) :=
  (departureTimes d,
    d.bookings.viewed fun b => (b.rideId, b.status, b.driverDecisionDeadlineAt))

section Invariant

variable {d d' : Db} {bookingId : ℕ} {f : Booking → Booking}

theorem dueInTimeBut_of_view (hview : dueView d' = dueView d) (h : d.DueInTimeBut bookingId) :
    d'.DueInTimeBut bookingId := by
  intro id b' hb' hid
  obtain ⟨hrides, hrows⟩ := Prod.mk.injEq .. ▸ hview
  obtain ⟨b, hb, heq⟩ := Table.viewed_eq_some.mp
    ((congrFun hrows id).symm.trans (Table.viewed_of_get? hb'))
  obtain ⟨hride, heq⟩ := Prod.mk.injEq .. ▸ heq
  obtain ⟨hstatus, hdeadline⟩ := Prod.mk.injEq .. ▸ heq
  have hdue := h id b hb hid
  unfold Booking.DueInTime at hdue ⊢
  rwa [hride, hstatus, hdeadline, ← hrides] at hdue

theorem Db.DueInTime.of_view (hview : dueView d' = dueView d) (h : d.DueInTime) : d'.DueInTime := by
  intro id b' hb'
  refine @dueInTimeBut_of_view _ _ (id + 1) hview ?_ id b' hb' (Nat.ne_of_lt id.lt_succ_self)
  exact Table.Every.mono h fun _ _ hdue _ => hdue

/-- A booking that is not waiting, or waits long enough, once it has been written. -/
theorem Db.DueInTimeBut.modify (h : d.DueInTimeBut bookingId)
    (hf : ∀ b, d.bookings.get? bookingId = some b → (f b).DueInTime (departureTimes d)) :
    Db.DueInTime { d with bookings := d.bookings.modify bookingId f } := by
  intro id b' hb'
  have hrow : (d.bookings.modify bookingId f).get? id = some b' := hb'
  by_cases hid : id = bookingId
  · subst hid
    rw [Table.get?_modify_self] at hrow
    obtain ⟨b, hb, rfl⟩ := Option.map_eq_some_iff.mp hrow
    exact hf b hb
  · rw [Table.get?_modify_ne _ _ hid] at hrow
    exact h id b' hrow hid

theorem Db.DueInTime.but (h : d.DueInTime) (bookingId : ℕ) : d.DueInTimeBut bookingId :=
  Table.Every.mono h fun _ _ hdue _ => hdue

end Invariant

/-! ## What a transaction makes of it -/

/-- The invariant is kept, and with it the departures and the rides of the bookings. -/
structure DueKept (d d' : Db) : Prop where
  departures : departureTimes d' = departureTimes d
  rideIds : RowsKeep (· = ·) (d.bookings.viewed Booking.rideId) (d'.bookings.viewed Booking.rideId)
  due : d.DueInTime → d'.DueInTime

/-- The same, where this booking may have been due too late before. -/
structure DueMended (bookingId : ℕ) (d d' : Db) : Prop where
  departures : departureTimes d' = departureTimes d
  rideIds : RowsKeep (· = ·) (d.bookings.viewed Booking.rideId) (d'.bookings.viewed Booking.rideId)
  due : d.DueInTimeBut bookingId → d'.DueInTime

section Kept

variable {α : Type} {d d' d'' : Db} {bookingId : ℕ}

theorem DueKept.refl (d : Db) : DueKept d d := ⟨rfl, RowsKeep.refl (fun _ => rfl) _, id⟩

theorem DueKept.trans (h : DueKept d d') (h' : DueKept d' d'') : DueKept d d'' where
  departures := h'.departures.trans h.departures
  rideIds := h.rideIds.trans (fun _ _ _ => Eq.trans) h'.rideIds
  due hd := h'.due (h.due hd)

theorem DueKept.of_view (hview : dueView d' = dueView d) : DueKept d d' where
  departures := congrArg Prod.fst hview
  rideIds := by
    intro id rideId hid
    obtain ⟨b, hb, rfl⟩ := Table.viewed_eq_some.mp hid
    have hrow := (congrFun (congrArg Prod.snd hview) id).trans (Table.viewed_of_get? hb)
    obtain ⟨b', hb', heq⟩ := Table.viewed_eq_some.mp hrow
    exact ⟨b'.rideId, Table.viewed_of_get? hb', (congrArg Prod.fst heq).symm⟩
  due := .of_view hview

theorem dueKept_of_leaves {body : Tx α} (h : body.Leaves dueView) {a : α}
    (hrun : body.atomic d = .ok (a, d')) : DueKept d d' := .of_view (h.atomic hrun)

theorem DueMended.kept (h : DueMended bookingId d d') : DueKept d d' :=
  ⟨h.departures, h.rideIds, fun hd => h.due (hd.but bookingId)⟩

theorem DueMended.trans (h : DueMended bookingId d d') (h' : DueKept d' d'') :
    DueMended bookingId d d'' where
  departures := h'.departures.trans h.departures
  rideIds := h.rideIds.trans (fun _ _ _ => Eq.trans) h'.rideIds
  due hd := h'.due (h.due hd)

/-- A booking is written, and is in time afterwards. -/
theorem dueMended_modify {f : Booking → Booking} (hride : ∀ b, (f b).rideId = b.rideId)
    (hf : ∀ b, d.bookings.get? bookingId = some b → (f b).DueInTime (departureTimes d)) :
    DueMended bookingId d { d with bookings := d.bookings.modify bookingId f } where
  departures := rfl
  rideIds := by
    rw [Table.viewed_modify_of_same hride]
    exact RowsKeep.refl (fun _ => rfl) _
  due hd := hd.modify hf

theorem dueView_seatCount : SeatCountApart dueView := by
  intro d id seats
  refine Prod.ext ?_ rfl
  exact Table.viewed_modify_of_same (f := fun r : Ride => { r with availableSeats := seats })
    (fun _ => rfl) id

theorem dueView_segments : segments.Apart dueView := fun _ _ => rfl

/-! ### Requests -/

/-- The ride that is offered is published at the same departure. -/
theorem leaves_publish (rideId : ℕ) :
    (update rides rideId fun r => { r with status := .published }).Leaves dueView := by
  intro _ d
  refine Prod.ext ?_ rfl
  exact Table.viewed_modify_of_same (f := fun r : Ride => { r with status := .published })
    (fun _ => rfl) rideId

/-- Matching a request confirms the booking, which then waits for nobody. -/
theorem matchRequest_due {ctx : Ctx} {view : OfferView} {u : Unit}
    (hrun : (matchRequest ctx bookingId view).atomic d = .ok (u, d')) : DueMended bookingId d d' := by
  obtain ⟨b, d₁, hconfirm, hrest⟩ := Tx.atomic_bind.mp hrun
  obtain ⟨-, -, -, rfl⟩ := Service.atomic_update hconfirm
  refine (dueMended_modify ?_ ?_).trans (dueKept_of_leaves ?_ hrest)
  · exact fun _ => rfl
  · intro b _ hpending
    cases hpending
  · refine ((Program.issues_perform _).mpr (leaves_publish _)).bind fun _ => ?_
    refine ((Program.issues_perform _).mpr fun _ _ => rfl).bind fun _ => ?_
    refine ((Program.issues_perform _).mpr fun _ _ => rfl).bind fun _ => ?_
    exact ((Program.issues_command _).mpr fun _ _ => rfl).bind fun _ => trivial

/-- Whether the booking answers a request. -/
def AnswersRequest (d : Db) (bookingId : ℕ) : Prop := (viewOfferOfBooking bookingId).answer d ≠ none

/-- Writing bookings makes none answer a request. -/
theorem answersRequest_bookings {t : Table Booking} :
    AnswersRequest { d with bookings := t } bookingId ↔ AnswersRequest d bookingId := by
  have hoffer : (findOfferOfBooking bookingId).answer { d with bookings := t } =
      (findOfferOfBooking bookingId).answer d := rfl
  unfold AnswersRequest viewOfferOfBooking
  simp only [hoffer]
  cases (findOfferOfBooking bookingId).answer d with
  | none => exact Iff.rfl
  | some found =>
    obtain ⟨offerId, offer⟩ := found
    cases hrequest : d.requests.get? offer.requestId <;> cases hride : d.rides.get? offer.rideId <;>
      simp [hrequest, hride]

/-- **Confirming the booking of a request** leaves it waiting for nobody; any other is left alone. -/
theorem confirmRequestBooking_due {feePercent : Option ℚ} {ctx : Ctx} {u : Unit}
    (hrun : (confirmRequestBooking feePercent ctx bookingId).atomic d = .ok (u, d')) :
    d' = d ∧ ¬ AnswersRequest d bookingId ∨ DueMended bookingId d d' := by
  obtain ⟨found, d₁, hfound, hrest⟩ := Tx.atomic_bind.mp hrun
  obtain ⟨rfl, rfl⟩ := Prod.mk.injEq .. ▸ Except.ok.inj hfound
  cases hview : (viewOfferOfBooking bookingId).answer d with
  | none =>
    rw [hview] at hrest
    obtain ⟨-, rfl⟩ := Prod.mk.injEq .. ▸ Except.ok.inj hrest
    exact Or.inl ⟨rfl, fun hanswers => hanswers hview⟩
  | some view =>
    rw [hview] at hrest
    right
    dsimp only at hrest
    split_ifs at hrest with hstatus hdeparted
    · cases hrest
    · cases hrest
    · cases hbooking : view.booking with
      | none =>
        rw [hbooking] at hrest
        cases hrest
      | some booking =>
        rw [hbooking] at hrest
        dsimp only at hrest
        split_ifs at hrest with hintent
        · obtain ⟨u, d₂, hpayment, hrest⟩ := Tx.atomic_bind.mp hrest
          -- seeing to the payment touches no booking
          have hsame := (@leaves_ensureRequestPayment _ (fun d => (dueView d, d.bookings))
            (fun _ _ => rfl) _ _ _ _).atomic hpayment
          obtain ⟨hview, hbookings⟩ := Prod.mk.injEq .. ▸ hsame
          have hmended := matchRequest_due hrest
          have hkept := DueKept.of_view hview
          refine ⟨hmended.departures.trans hkept.departures,
            hkept.rideIds.trans (fun _ _ _ => Eq.trans) hmended.rideIds, fun hd => ?_⟩
          exact hmended.due (dueInTimeBut_of_view hview hd)
        · exact matchRequest_due hrest

end Kept

/-! ### Payments -/

section Claim

variable {d d' : Db} {bookingId : ℕ}

/-- There are this many milliseconds left before the ride of the booking departs. -/
def LeavesTime (d : Db) (bookingId now window : ℕ) : Prop :=
  ∀ booking ride, d.bookings.get? bookingId = some booking →
    d.rides.get? booking.rideId = some ride → now + window ≤ ride.departureAt

/-- Writing bookings that stay with their rides. -/
theorem rideIds_updateMany {P : ℕ → Booking → Bool} {f : Booking → Booking}
    (hride : ∀ b, (f b).rideId = b.rideId) :
    RowsKeep (· = ·) (d.bookings.viewed Booking.rideId)
      (((updateMany bookings P f).write d d).bookings.viewed Booking.rideId) := by
  have hsame : ((updateMany bookings P f).write d d).bookings.viewed Booking.rideId =
      d.bookings.viewed Booking.rideId := Table.viewed_modifyWhere_of_same hride _
  rw [hsame]
  exact RowsKeep.refl (fun _ => rfl) _

/-- A write that finds no booking. -/
theorem dueKept_of_unclaimed {f : Booking → Booking} (hride : ∀ b, (f b).rideId = b.rideId)
    (hnone : (updateMany bookings (isPendingBooking bookingId) f).answer d = []) :
    DueKept d ((updateMany bookings (isPendingBooking bookingId) f).write d d) where
  departures := rfl
  rideIds := rideIds_updateMany hride
  due hd := by
    refine Table.Every.modifyWhere (t := d.bookings) (C := isPendingBooking bookingId) hd ?_
    intro id b hb hpending
    have hmem : id ∈ (updateMany bookings (isPendingBooking bookingId) f).answer d :=
      List.mem_map.mpr ⟨(id, b), Table.mem_filter_iff.mpr ⟨hb, hpending⟩, rfl⟩
    rw [hnone] at hmem
    cases hmem

theorem withCapture_rideId (paymentIntent : ℕ) (intent : Intent) (now : ℕ) (b : Booking) :
    (b.withCapture paymentIntent intent now).rideId = b.rideId := rfl

/-- A booking that has been found with its ride. -/
theorem atomic_findBookingWithRideOrThrow {found : Booking × Ride}
    (hrun : Tx.atomic (Program.perform (findBookingWithRideOrThrow bookingId)) d =
      .ok (found, d')) :
    d.bookings.get? bookingId = some found.1 ∧ d.rides.get? found.1.rideId = some found.2 ∧
      d' = d := by
  simp only [Program.perform, Tx.atomic, findBookingWithRideOrThrow] at hrun
  cases hfound : (findBookingWithRide bookingId).answer d with
  | none => simp [hfound, Tx.atomic] at hrun
  | some found' =>
    simp only [hfound, Option.elim_some, Program.ofExcept_ok, Tx.atomic, Except.ok.injEq,
      Prod.mk.injEq] at hrun
    obtain ⟨rfl, rfl⟩ := hrun
    obtain ⟨hbooking, hride⟩ := findBookingWithRide_eq_some.mp hfound
    exact ⟨hbooking, hride, rfl⟩

/-- **The claim** gives the driver an hour from the time that the call has read: there has to be one,
unless the booking is confirmed at once. -/
theorem claimCapturedBooking_due {settings : Settings} {paymentIntent : ℕ} {intent : Intent}
    {now : ℕ} {ctx : Ctx} {applied : Applied}
    (hrun : (claimCapturedBooking settings bookingId paymentIntent intent now ctx).atomic d =
      .ok (applied, d'))
    (htime : applied = .claimed → ¬ AnswersRequest d bookingId →
      LeavesTime d bookingId now driverDecisionWindowMs) : DueKept d d' := by
  obtain ⟨claimed, d₁, hclaim, hrest⟩ := Tx.atomic_bind.mp hrun
  obtain ⟨rfl, hd₁⟩ := Prod.mk.injEq .. ▸ Except.ok.inj hclaim
  by_cases hnone : (updateMany bookings (isPendingBooking bookingId)
      (Booking.withCapture paymentIntent intent now)).answer d = []
  · rw [if_pos hnone] at hrest
    obtain ⟨rfl, rfl⟩ := Prod.mk.injEq .. ▸ Except.ok.inj hrest
    exact hd₁ ▸ dueKept_of_unclaimed (withCapture_rideId paymentIntent intent now) hnone
  rw [if_neg hnone] at hrest
  obtain ⟨b, hb, hpending⟩ := pending_of_claimed hnone
  have hrow : d₁.bookings.get? bookingId = some (b.withCapture paymentIntent intent now) :=
    hd₁ ▸ get?_claimed hb hpending
  have hrides : RowsKeep (· = ·) (d.bookings.viewed Booking.rideId)
      (d₁.bookings.viewed Booking.rideId) :=
    hd₁ ▸ rideIds_updateMany (withCapture_rideId paymentIntent intent now)
  have hdepartures : departureTimes d₁ = departureTimes d := by
    rw [← hd₁]
    rfl
  -- the booking is claimed; from here on it alone may be due too late
  have hbut : d.DueInTime → d₁.DueInTimeBut bookingId := by
    intro hd id b' hb' hid
    have hold : d.bookings.get? id = some b' := by
      rw [← hd₁] at hb'
      exact (get?_claimed_ne hid).symm.trans hb'
    rw [hdepartures]
    exact hd id b' hold
  obtain ⟨⟨booking, ride⟩, d₂, hfound, hrest⟩ := Tx.atomic_bind.mp hrest
  obtain ⟨hbooking, hride, hsame⟩ := atomic_findBookingWithRideOrThrow hfound
  obtain ⟨u, d₃, hconfirm, hrest⟩ := Tx.atomic_bind.mp hrest
  rw [hsame] at hconfirm
  obtain ⟨u, d₄, hreserve, hrest⟩ := Tx.atomic_bind.mp hrest
  obtain ⟨rfl, rfl⟩ := Prod.mk.injEq .. ▸ Except.ok.inj hrest
  have hmended : DueKept d d₃ := by
    obtain ⟨rfl, hanswers⟩ | hmended := confirmRequestBooking_due hconfirm
    · -- no request: the driver has an hour, and the ride departs no sooner
      refine ⟨hdepartures, hrides, fun hd id b' hb' => ?_⟩
      by_cases hid : id = bookingId
      · subst hid
        obtain rfl := Option.some.inj (hrow.symm.trans hb')
        obtain rfl := Option.some.inj (hrow.symm.trans hbooking)
        intro _
        have hunanswered : ¬ AnswersRequest d id := by
          rw [← hd₁] at hanswers
          exact fun h => hanswers (answersRequest_bookings.mpr h)
        have hride' : d.rides.get? b.rideId = some ride := by
          rw [← hd₁] at hride
          exact hride
        refine ⟨_, ride.departureAt, rfl, Table.viewed_of_get? hride, ?_⟩
        exact htime rfl hunanswered b ride hb hride'
      · exact hbut hd id b' hb' hid
    · refine ⟨hmended.departures.trans hdepartures, hrides.trans (fun _ _ _ => Eq.trans)
        hmended.rideIds, fun hd => hmended.due (hbut hd)⟩
  exact hmended.trans (dueKept_of_leaves
    (leaves_reserveSeatsForBooking dueView_segments dueView_seatCount _ _ _) hreserve)

end Claim

/-! ### Bookings that begin -/

section Created

variable {settings : Settings} {rules : BookingRules} {overlaps : ℕ → ℕ → Db → Bool}
  {passengerId bookingId : ℕ} {input : CreateBookingInput} {requestOfferId : Option ℕ} {now : ℕ}
  {ctx : Ctx} {d d' : Db}

theorem planOn_deadline {ride : Ride} {plan : BookingPlan}
    (h : planOn settings rules input ride now = .ok plan) :
    plan.driverDecisionDeadlineAt = decisionDeadline settings input ride.departureAt now := by
  unfold planOn at h
  cases hroute : rules.route ride with
  | error e =>
    rw [hroute] at h
    split_ifs at h
  | ok route =>
    rw [hroute] at h
    split_ifs at h
    obtain rfl := Except.ok.inj h
    rfl

/-- In bypass mode the plan has the deadline that is worked out from the departure of its ride. -/
theorem resolveBookingPlan_deadline {answersRequest : Bool} {plan : BookingPlan}
    (hbypass : settings.bypassPayment = true)
    (hrun : (resolveBookingPlan settings rules passengerId input now answersRequest).atomic d =
      .ok (plan, d')) :
    ∃ departureAt, departureTimes d input.rideId = some departureAt ∧
      plan.driverDecisionDeadlineAt = calculateDeadline input.responseExpiryOption departureAt now := by
  obtain ⟨found, d₁, hfound, hrest⟩ := Tx.atomic_bind.mp hrun
  obtain ⟨rfl, rfl⟩ := Prod.mk.injEq .. ▸ Except.ok.inj hfound
  cases hfirst : (findFirst rides fun id r =>
      id == input.rideId && r.status == if answersRequest then .draft else .published).answer d with
  | none =>
    rw [hfirst] at hrest
    cases hrest
  | some found =>
    obtain ⟨rideId, ride⟩ := found
    rw [hfirst] at hrest
    obtain ⟨u, d₂, hcheck, hchecked⟩ := Tx.atomic_bind.mp hrest
    obtain ⟨existing, d₃, hexisting, hplanned⟩ := Tx.atomic_bind.mp hchecked
    split_ifs at hplanned
    · cases hplanned
    -- the ride is the one that was asked for
    obtain ⟨hride, hguard⟩ := Table.mem_filter_iff.mp (List.mem_of_mem_head? hfirst)
    obtain rfl : rideId = input.rideId := beq_iff_eq.mp (Bool.and_eq_true _ _ ▸ hguard).1
    refine ⟨ride.departureAt, Table.viewed_of_get? hride, ?_⟩
    cases hplan : planOn settings rules input ride now with
    | error e =>
      rw [hplan] at hplanned
      cases hplanned
    | ok plan' =>
      rw [hplan] at hplanned
      obtain ⟨rfl, -⟩ := Prod.mk.injEq .. ▸ Except.ok.inj hplanned
      rw [planOn_deadline hplan, decisionDeadline, if_pos hbypass]

/-- Linking an offer to the booking that answers it, and matching its request. -/
theorem linkPaidOffer_due {u : Unit}
    (hrun : (linkPaidOffer settings requestOfferId bookingId ctx).atomic d = .ok (u, d')) :
    DueKept d d' := by
  cases requestOfferId with
  | none =>
    obtain ⟨-, rfl⟩ := Prod.mk.injEq .. ▸ Except.ok.inj hrun
    exact .refl d
  | some offerId =>
    obtain ⟨offer, d₁, hlink, hrest⟩ := Tx.atomic_bind.mp hrun
    obtain ⟨-, -, -, rfl⟩ := Service.atomic_update hlink
    have hkept : DueKept d (offers.set d ((offers.get d).modify offerId fun o =>
        { o with bookingId := some bookingId })) := .of_view rfl
    obtain ⟨rfl, -⟩ | hmended := confirmRequestBooking_due hrest
    · exact hkept
    · exact hkept.trans hmended.kept

/-- A booking that is due in time is created. -/
theorem dueKept_insert {booking : Booking} (habsent : d.bookings.get? bookingId = none)
    (hdue : booking.DueInTime (departureTimes d)) :
    DueKept d { d with bookings := d.bookings.insert bookingId booking } where
  departures := rfl
  rideIds := by
    intro id rideId hid
    obtain ⟨b, hb, rfl⟩ := Table.viewed_eq_some.mp hid
    refine ⟨b.rideId, Table.viewed_of_get? ?_, rfl⟩
    have hne : id ≠ bookingId := by
      rintro rfl
      rw [habsent] at hb
      cases hb
    show (d.bookings.insert bookingId booking).get? id = some b
    rw [Table.get?_insert habsent, if_neg hne]
    exact hb
  due hd := Table.Every.insert (t := d.bookings)
    (P := fun _ (b : Booking) => b.DueInTime (departureTimes d)) hd hdue

/-- **A paid booking** is created with a deadline that is capped at the departure. -/
theorem createPaidBooking_due {created : BookingPlan × ℕ} (hbypass : settings.bypassPayment = true)
    (hrun : (createPaidBooking settings rules overlaps passengerId input requestOfferId now bookingId
      ctx).atomic d = .ok (created, d')) : DueKept d d' := by
  obtain ⟨u₁, d₁, hoffer, hrest⟩ := Tx.atomic_bind.mp hrun
  obtain ⟨plan, d₂, hplan, hrest⟩ := Tx.atomic_bind.mp hrest
  obtain ⟨u₂, d₃, hseats, hrest⟩ := Tx.atomic_bind.mp hrest
  obtain ⟨u₃, d₄, hcreate, hrest⟩ := Tx.atomic_bind.mp hrest
  obtain ⟨u₄, d₅, hlink, hrest⟩ := Tx.atomic_bind.mp hrest
  obtain ⟨paymentId, d₆, hpayment, hend⟩ := Tx.atomic_bind.mp hrest
  obtain ⟨-, rfl⟩ := Prod.mk.injEq .. ▸ Except.ok.inj hend
  have hreserved := dueKept_of_leaves
    (leaves_reserveOfferOf (fun _ _ => rfl) (fun _ _ => rfl)) hoffer
  have hplanned := dueKept_of_leaves (leaves_resolveBookingPlan _) hplan
  have hseated := dueKept_of_leaves
    (leaves_reserveSeatsForBooking dueView_segments dueView_seatCount _ _ _) hseats
  have hpaid := dueKept_of_leaves (leaves_createPayment fun _ _ => rfl) hpayment
  obtain ⟨habsent, rfl⟩ := atomic_createBookingRow hcreate
  refine hreserved.trans <| hplanned.trans <| hseated.trans <|
    (dueKept_insert habsent ?_).trans <| (linkPaidOffer_due hlink).trans hpaid
  obtain ⟨departureAt, hdeparture, hdeadline⟩ := resolveBookingPlan_deadline hbypass hplan
  intro _
  refine ⟨plan.driverDecisionDeadlineAt, departureAt, rfl, ?_, ?_⟩
  · rw [hseated.departures, hplanned.departures]
    exact hdeparture
  · rw [hdeadline]
    exact calculateDeadline_le _ _ _

end Created

/-! ### Deadlines that are written -/

section Written

variable {d : Db} {bookingId : ℕ}

/-- A deadline is written that is not after the departure, or of a booking that waits for nobody. -/
theorem dueKept_writeDeadline {deadline : ℕ} {f : Booking → Booking}
    (hride : ∀ b, (f b).rideId = b.rideId) (hstatus : ∀ b, (f b).status = b.status)
    (hdeadline : ∀ b, (f b).driverDecisionDeadlineAt = some deadline)
    (htime : ∀ b, d.bookings.get? bookingId = some b → b.status = .driverPending →
      ∀ departureAt, departureTimes d b.rideId = some departureAt → deadline ≤ departureAt)
    (hd : d.DueInTime) :
    Db.DueInTime { d with bookings := d.bookings.modify bookingId f } := by
  refine (hd.but bookingId).modify fun b hb hpending => ?_
  rw [hstatus] at hpending
  obtain ⟨_, departureAt, -, hdeparture, -⟩ := hd bookingId b hb hpending
  refine ⟨deadline, departureAt, hdeadline b, ?_, htime b hb hpending departureAt hdeparture⟩
  rw [hride]
  exact hdeparture

/-- Writing a booking that stays with its ride. -/
theorem rideIds_update {f : Booking → Booking} (hride : ∀ b, (f b).rideId = b.rideId) :
    RowsKeep (· = ·) (d.bookings.viewed Booking.rideId)
      ((d.bookings.modify bookingId f).viewed Booking.rideId) := by
  rw [Table.viewed_modify_of_same hride]
  exact RowsKeep.refl (fun _ => rfl) _

end Written

/-! ## The calls -/

/-- The calls that write deadlines. A call that crashes is one that is not moved any more. -/
inductive DeadlineOp
  | createBooking (settings : Settings) (hbypass : settings.bypassPayment = true)
    (rules : BookingRules) (overlaps : ℕ → ℕ → Db → Bool) (passengerId : ℕ)
    (input : CreateBookingInput) (requestOfferId : Option ℕ)
  | paymentSucceeded (settings : Settings) (paymentIntent : ℕ) (intent : Intent)
  | extendWaitForDriver (passengerId bookingId : ℕ)

def DeadlineOp.program : DeadlineOp → Service Unit
  | .createBooking settings _ rules overlaps passengerId input requestOfferId =>
    Deliivo.createBooking settings rules overlaps passengerId input requestOfferId
  | .paymentSucceeded settings paymentIntent intent => do
    let _ ← applyStripePaymentSucceededToBooking settings paymentIntent intent
  | .extendWaitForDriver passengerId bookingId =>
    Deliivo.extendWaitForDriver passengerId bookingId

/-- The times that a step reads. -/
def readings {β : Type} : Call β → Reply → World → List ℕ
  | .clock, _, w => [w.now]
  | _, _, _ => []

/-- The calls, next to each other; the times that they read are logged. -/
abbrev deadlinePool := (servicePool DeadlineOp.program besidesBookings).traced readings

/-- The condition on the steps of the calls, by the clock as the call has read it last. A payment that
is claimed for a booking that answers no request, and is not confirmed at once, leaves the driver an
hour, and so does a rider who extends the wait for a driver who has not decided. -/
structure DeadlineStep (_op : DeadlineOp) (tid : ℕ) (x : Logged (Event ⊕ ℕ) World) (_reply : Reply)
    (seen : List (Event ⊕ ℕ)) : Prop where
  claimed : ∀ id now, .inl (.bookingClaimed id) ∈ seen → ¬ AnswersRequest x.state.db id →
    (x.seen tid).getLast? = some now → LeavesTime x.state.db id now driverDecisionWindowMs
  extended : ∀ id now b, .inl (.deadlineExtended id) ∈ seen →
    x.state.db.bookings.get? id = some b → b.status = .driverPending →
    (x.seen tid).getLast? = some now → LeavesTime x.state.db id now extendedDeadlineMs

/-- What else goes on does not move a departure. -/
def KeepsDepartures (w : World) (x : Logged (Event ⊕ ℕ) World) : Prop :=
  departureTimes w.db = departureTimes x.state.db

/-- What the calls keep for each other: the departures, the rides of the bookings, and what the others
have read. -/
structure DeadlineRely (tid : ℕ) (x y : Logged (Event ⊕ ℕ) World) : Prop where
  departures : departureTimes y.state.db = departureTimes x.state.db
  rideIds : RowsKeep (· = ·) (x.state.db.bookings.viewed Booking.rideId)
    (y.state.db.bookings.viewed Booking.rideId)
  readings : y.seen tid = x.seen tid

/-- No booking is due after the departure of its ride. -/
def deadlineProtocol : Protocol deadlinePool DeadlineStep KeepsDepartures where
  Inv x := x.state.db.DueInTime
  Rely := DeadlineRely
  Guar tid x y := ∀ t, t ≠ tid → DeadlineRely t x y
  Post _ _ _ := True
  rely_refl _ _ := ⟨rfl, RowsKeep.refl (fun _ => rfl) _, rfl⟩
  rely_trans h h' := ⟨h'.departures.trans h.departures,
    h.rideIds.trans (fun _ _ _ => Eq.trans) h'.rideIds, h'.readings.trans h.readings⟩
  guar_rely hne _ h := h _ hne
  env_inv {w x} hx hw := by
    intro id b hb hpending
    obtain ⟨deadline, departureAt, hdeadline, hdeparture, hle⟩ := hx id b hb hpending
    exact ⟨deadline, departureAt, hdeadline, (congrFun hw b.rideId).trans hdeparture, hle⟩
  env_rely _ _ hw := ⟨hw, RowsKeep.refl (fun _ => rfl) _, rfl⟩
  post_stable _ _ _ := trivial

section Safe

variable {op : DeadlineOp} {tid : ℕ} {α β : Type} {x y : Logged (Event ⊕ ℕ) World}

/-- The logged world after a step. -/
def afterStep (y : Logged (Event ⊕ ℕ) World) (tid : ℕ) (c : Call β) (i : Reply) :
    Logged (Event ⊕ ℕ) World :=
  y.next tid (Program.seenEvents (c.exec i y.state).2.1 (readings c i y.state)) (c.exec i y.state).2.2

/-- A step that keeps the invariant where it meets the condition. -/
theorem keeps_deadline {c : Call β} {Q : β → Logged (Event ⊕ ℕ) World → Prop}
    (hinv : deadlineProtocol.Inv y)
    (h : ∀ i, DeadlineStep op tid y i
      (Program.seenEvents (c.exec i y.state).2.1 (readings c i y.state)) →
      DueKept y.state.db (c.exec i y.state).2.2.db ∧ Q (c.exec i y.state).1 (afterStep y tid c i)) :
    deadlineProtocol.Keeps op tid c y Q := by
  refine Program.Protocol.keeps_traced fun i b es s hexec hcond => ?_
  obtain ⟨rfl, rfl, rfl⟩ := exec_eq hexec
  obtain ⟨hkept, hQ⟩ := h i hcond
  refine ⟨fun t ht => ?_, hkept.due hinv, hQ⟩
  exact ⟨hkept.departures, hkept.rideIds, Logged.seen_next_ne ht⟩

/-- A step keeps the invariant whatever it reports. -/
def DueCall (c : Call β) : Prop := ∀ i w, DueKept w.db (c.exec i w).2.2.db

theorem stable_anything : deadlineProtocol.Stable tid fun _ => True := fun _ _ _ _ _ => trivial

theorem safe_due {p : Service α} (h : p.Issues fun {_} c => DueCall c) :
    deadlineProtocol.Safe op tid (fun _ _ => True) p x :=
  Protocol.Safe.issues stable_anything
    (h.mono fun _ hc _ _ hinv => keeps_deadline hinv fun i _ => ⟨hc i _, trivial⟩) trivial

/-- What a step may do that leaves the deadlines alone. -/
def dueFrame : Frame where
  db := dueView
  stripe _ := ()
  events _ := True

theorem due_of_leaves {p : Service α} (h : p.Leaves dueFrame) : p.Issues fun {_} c => DueCall c :=
  h.mono fun _ hc i w => .of_view (hc.exec i w).1

theorem dueCall_transact {body : Ctx → Tx β} {report : β → List Event}
    (h : ∀ ctx d b d', (body ctx).atomic d = .ok (b, d') → DueKept d d') :
    DueCall (.transact body report) := by
  intro i w
  obtain ⟨b, d, hbody, hexec⟩ | ⟨e, hexec⟩ := exec_transact body report i w
  · rw [hexec]
    exact h _ _ _ _ hbody
  · rw [hexec]
    exact .refl _

/-! ### Creating a booking -/

theorem dueView_paymentWrites : PaymentWritesApart dueView := fun _ _ _ _ => rfl

theorem due_createBooking {settings : Settings} (hbypass : settings.bypassPayment = true)
    {rules : BookingRules} {overlaps : ℕ → ℕ → Db → Bool} {passengerId : ℕ}
    {input : CreateBookingInput} {requestOfferId : Option ℕ} :
    (createBooking settings rules overlaps passengerId input requestOfferId).Issues
      fun {_} c => DueCall c := by
  refine (Program.issues_ofExcept _).bind fun _ => ?_
  refine ((Program.issues_command _).mpr fun _ _ => .refl _).bind fun now => ?_
  refine ((Program.issues_command _).mpr fun _ _ => .refl _).bind fun bookingId => ?_
  rw [if_pos hbypass]
  refine Program.Issues.bind ?_ fun created => due_of_leaves (Program.Issues.bind ?_ fun _ => ?_)
  · exact ((Program.issues_perform _).mpr (dueCall_transact fun _ _ _ _ hrun =>
      createPaidBooking_due hbypass hrun)).tryCatch fun _ => trivial
  · refine leaves_bestEffort (Program.Issues.bind ?_ fun _ => trivial)
    exact leaves_markPaymentPaid dueView_paymentWrites (fun _ _ _ => trivial) (fun _ _ => rfl)
      (fun _ _ => rfl) _ _
  · split_ifs with hoffer
    · trivial
    · exact leaves_bestEffort (leaves_notify.bind fun _ => leaves_notify.bind fun _ =>
        leaves_notify.bind fun _ => leaves_notify)

/-! ### Reading the clock -/

/-- The call has read this time last. -/
def HasRead (tid now : ℕ) (x : Logged (Event ⊕ ℕ) World) : Prop := (x.seen tid).getLast? = some now

theorem stable_hasRead (now : ℕ) : deadlineProtocol.Stable tid (HasRead tid now) := by
  intro x y hx hrely _
  rw [HasRead, hrely.readings]
  exact hx

theorem safe_clock :
    deadlineProtocol.Safe op tid (fun r x => ∀ now, r = .ok now → HasRead tid now x)
      (Program.command .clock) x := by
  refine Protocol.Safe.command stable_anything trivial fun y _ hinv => ?_
  refine keeps_deadline hinv fun i _ => ⟨.refl _, ?_⟩
  rintro now ⟨⟩
  rw [HasRead, afterStep, Logged.seen_next_self, List.getLast?_append]
  rfl

/-! ### The payment -/

variable {settings : Settings} {paymentIntent bookingId now : ℕ} {intent : Intent}

theorem keeps_claim_due (hinv : deadlineProtocol.Inv y) (hread : HasRead tid now y) :
    deadlineProtocol.Keeps op tid
      (.transact (claimCapturedBooking settings bookingId paymentIntent intent now)
        (Applied.events bookingId)) y fun _ _ => True := by
  refine keeps_deadline hinv fun i hcond => ⟨?_, trivial⟩
  obtain ⟨applied, d, hbody, hexec⟩ | ⟨e, hexec⟩ := exec_transact
    (claimCapturedBooking settings bookingId paymentIntent intent now)
    (Applied.events bookingId) i y.state
  · rw [hexec] at hcond ⊢
    refine claimCapturedBooking_due hbody fun happlied hanswers => ?_
    refine hcond.claimed bookingId now (Program.inl_mem_seenEvents.mpr ?_) hanswers hread
    rw [happlied]
    exact List.mem_singleton_self _
  · rw [hexec]
    exact .refl _

theorem safe_claimPayment_due (hread : HasRead tid now x) :
    deadlineProtocol.Safe op tid (fun _ _ => True)
      (claimPayment settings bookingId paymentIntent intent now) x := by
  refine Protocol.Safe.guarded (Protocol.Safe.perform (stable_hasRead now) hread
    fun y hread hinv => keeps_claim_due hinv hread) fun e y _ => ?_
  split_ifs <;> trivial

theorem due_refundRideFullPayment :
    (refundRideFullPayment bookingId paymentIntent).Issues fun {_} c => DueCall c := by
  have hclaim : ∀ ctx d claimed d',
      Tx.atomic (Program.command (claimRideFull bookingId paymentIntent ctx)) d = .ok (claimed, d') →
        DueKept d d' := by
    intro ctx d claimed d' hrun
    obtain ⟨-, rfl⟩ := Prod.mk.injEq .. ▸ Except.ok.inj hrun
    refine ⟨rfl, rideIds_updateMany fun _ => rfl, fun hd => ?_⟩
    refine Table.Every.modifyWhere (t := d.bookings) (C := isPendingBooking bookingId) hd ?_
    intro id b _ _ hpending
    cases hpending
  refine ((Program.issues_perform _).mpr (dueCall_transact hclaim)).bind fun claimed => ?_
  split_ifs with hnone
  · trivial
  refine due_of_leaves ((leaves_sql (leaves_findBookingWithRide _)).bind fun found => ?_)
  cases found with
  | none => trivial
  | some found =>
    refine Program.Issues.bind ?_ fun _ => Program.Issues.bind ?_ fun _ =>
      leaves_bestEffort leaves_notify
    · refine ((leaves_refundPaymentIntent (fun _ _ => rfl) _ _).bind fun _ => ?_).tryCatch fun _ =>
        leaves_bestEffort (leaves_createIssue (fun _ _ => rfl) _)
      refine (leaves_transaction fun ctx => (Program.issues_perform _).mpr fun _ d => ?_).bind
        fun _ => trivial
      exact Prod.ext rfl (Table.viewed_modify_of_same (by intros; rfl) _)
    · refine leaves_bestEffort ((leaves_markBookingPaymentPaid dueView_paymentWrites
        (fun _ _ _ => trivial) (fun _ _ => rfl) (fun _ _ => rfl) _ _).bind fun _ => ?_)
      exact (leaves_markBookingPaymentRefunded dueView_paymentWrites (fun _ _ _ => trivial)
        (fun _ _ => rfl) _ _ _).bind fun _ => trivial

theorem due_syncAcceptedOffer : (syncAcceptedOffer bookingId).Issues fun {_} c => DueCall c :=
  due_of_leaves (leaves_syncAcceptedOffer dueView_paymentWrites (fun _ _ => rfl) (fun _ _ => rfl)
    (fun _ _ _ => trivial) _)

/-- The booking is on the ride that was read with it, which departs as it did. -/
def OnRide (bookingId rideId departureAt : ℕ) (x : Logged (Event ⊕ ℕ) World) : Prop :=
  x.state.db.bookings.viewed Booking.rideId bookingId = some rideId ∧
    departureTimes x.state.db rideId = some departureAt

theorem stable_onRide (rideId departureAt : ℕ) :
    deadlineProtocol.Stable tid (OnRide bookingId rideId departureAt) := by
  rintro x y ⟨hbooking, hride⟩ hrely _
  obtain ⟨rideId', hbooking', rfl⟩ := hrely.rideIds bookingId rideId hbooking
  exact ⟨hbooking', hrely.departures ▸ hride⟩

/-- A deadline that is not after the departure that has been read. -/
theorem dueCall_writeDecisionDeadline {rideId departureAt deadline : ℕ}
    (hride : OnRide bookingId rideId departureAt y) (hle : deadline ≤ departureAt) (i : Reply) :
    DueKept y.state.db ((Call.transact (fun _ => Program.perform (update bookings bookingId fun b =>
      { b with driverDecisionDeadlineAt := some deadline })) fun _ => []).exec i y.state).2.2.db := by
  obtain ⟨row, d, hbody, hexec⟩ | ⟨e, hexec⟩ := exec_transact (fun _ => Program.perform
    (update bookings bookingId fun b => { b with driverDecisionDeadlineAt := some deadline }))
    (fun _ => []) i y.state
  · rw [hexec]
    obtain ⟨-, -, -, rfl⟩ := Service.atomic_update hbody
    refine ⟨rfl, rideIds_update fun _ => rfl, dueKept_writeDeadline (fun _ => rfl) (fun _ => rfl)
      (fun _ => rfl) fun b hb _ departureAt' hdeparture => ?_⟩
    -- the booking is still on the ride, and the ride departs as it did
    obtain rfl := Option.some.inj (hride.1.symm.trans (Table.viewed_of_get? hb))
    obtain rfl := Option.some.inj (hride.2.symm.trans hdeparture)
    exact hle
  · rw [hexec]
    exact .refl _

/-- What follows the claim: the deadline that the rider has chosen, capped at the departure. -/
theorem safe_completeClaim_due :
    deadlineProtocol.Safe op tid (fun _ _ => True) (completeClaim bookingId paymentIntent now) x := by
  refine Protocol.Safe.bind (Protocol.Safe.mono (Q := fun r x => ∀ booking ride,
    r = .ok (some (booking, ride)) → OnRide bookingId booking.rideId ride.departureAt x) ?_ ?_)
  · -- the claim reads the booking with its ride, whose departure nobody moves afterwards
    refine Protocol.Safe.perform stable_anything trivial fun y _ hinv => ?_
    refine keeps_deadline hinv fun i _ => ?_
    obtain ⟨found, d, hbody, hexec⟩ | ⟨e, hexec⟩ := exec_transact
      (fun _ => Program.command (findBookingWithRide bookingId)) (fun _ => []) i y.state
    · obtain ⟨rfl, rfl⟩ := Prod.mk.injEq .. ▸ Except.ok.inj hbody
      rw [afterStep, hexec]
      refine ⟨.refl _, fun booking ride hfound => ?_⟩
      obtain ⟨hbooking, hride⟩ := findBookingWithRide_eq_some.mp (Except.ok.inj hfound)
      exact ⟨Table.viewed_of_get? hbooking, Table.viewed_of_get? hride⟩
    · rw [hexec]
      exact ⟨.refl _, fun booking ride hfound => by cases hfound⟩
  · rintro (e | found) y hy
    · trivial
    cases found with
    | none => trivial
    | some found =>
      obtain ⟨booking, ride⟩ := found
      dsimp only
      split_ifs with hconfirmed
      · -- a confirmed booking is only marked paid: no deadline is written
        refine safe_due (due_of_leaves ?_)
        refine (leaves_markBookingPaymentPaid dueView_paymentWrites (fun _ _ _ => trivial)
          (fun _ _ => rfl) (fun _ _ => rfl) _ _).bind fun _ => ?_
        exact (leaves_bestEffort leaves_notify).bind fun _ => leaves_bestEffort leaves_notify
      · refine Protocol.Safe.sequence (Protocol.Safe.perform (stable_onRide _ _)
          (hy booking ride rfl) fun z hz hinv => ?_) fun _ z _ => safe_due (due_of_leaves ?_)
        · -- the write of the deadline, at most the ride's departure
          exact keeps_deadline hinv fun i _ => ⟨dueCall_writeDecisionDeadline hz
            (calculateDeadline_le _ _ _) i, trivial⟩
        · refine (leaves_recordProviderFeeForIntent (fun _ _ => rfl) _ _).bind fun _ => ?_
          refine (leaves_syncClaimedPayment dueView_paymentWrites (fun _ _ => rfl) (fun _ _ => rfl)
            (fun _ _ => rfl) (fun _ _ _ => trivial) _ _).bind fun _ => ?_
          exact leaves_bestEffort (leaves_notify.bind fun _ => leaves_notify)

theorem safe_payment_due :
    deadlineProtocol.Safe op tid (fun _ _ => True)
      (applyStripePaymentSucceededToBooking settings paymentIntent intent) x := by
  unfold applyStripePaymentSucceededToBooking
  split
  · trivial
  · refine Protocol.Safe.bind (safe_clock.mono ?_)
    rintro (e | now) y hread
    · trivial
    refine Protocol.Safe.sequence (safe_claimPayment_due (hread now rfl)) fun outcome z _ => ?_
    cases outcome with
    | alreadyApplied =>
      exact Protocol.Safe.sequence (safe_due due_syncAcceptedOffer) fun _ _ _ => trivial
    | rideFull =>
      exact Protocol.Safe.sequence (safe_due due_refundRideFullPayment) fun _ _ _ => trivial
    | claimed => exact Protocol.Safe.sequence safe_completeClaim_due fun _ _ _ => trivial

/-! ### The extension -/

theorem keeps_writeExtendedDeadline (hinv : deadlineProtocol.Inv y) (hread : HasRead tid now y) :
    deadlineProtocol.Keeps op tid
      (.transact (fun ctx => Program.perform
          (writeExtendedDeadline bookingId (now + extendedDeadlineMs) ctx))
        fun _ => [.deadlineExtended bookingId]) y fun _ _ => True := by
  refine keeps_deadline hinv fun i hcond => ⟨?_, trivial⟩
  obtain ⟨row, d, hbody, hexec⟩ | ⟨e, hexec⟩ := exec_transact
    (fun ctx => Program.perform (writeExtendedDeadline bookingId (now + extendedDeadlineMs) ctx))
    (fun _ => [.deadlineExtended bookingId]) i y.state
  · rw [hexec] at hcond ⊢
    obtain ⟨-, -, -, rfl⟩ := Service.atomic_update hbody
    refine ⟨rfl, rideIds_update fun _ => rfl, dueKept_writeDeadline (fun _ => rfl) (fun _ => rfl)
      (fun _ => rfl) fun b hb hpending departureAt hdeparture => ?_⟩
    obtain ⟨ride, hride, rfl⟩ := Table.viewed_eq_some.mp hdeparture
    exact hcond.extended bookingId now b
      (Program.inl_mem_seenEvents.mpr (List.mem_singleton_self _)) hb hpending hread b ride hb hride
  · rw [hexec]
    exact .refl _

theorem safe_extendWaitForDriver {passengerId : ℕ} :
    deadlineProtocol.Safe op tid (fun _ _ => True) (extendWaitForDriver passengerId bookingId) x := by
  refine Protocol.Safe.sequence (safe_due (due_of_leaves (leaves_sql (leaves_findFirst _))))
    fun found y _ => ?_
  cases found with
  | none => trivial
  | some found =>
    refine Protocol.Safe.sequence (safe_due ((Program.issues_command _).mpr fun _ _ => .refl _))
      fun _ y _ => ?_
    refine Protocol.Safe.sequence (safe_due (Program.issues_ofExcept _)) fun _ y _ => ?_
    refine Protocol.Safe.bind (safe_clock.mono ?_)
    rintro (e | now) y hread
    · trivial
    refine Protocol.Safe.sequence (Protocol.Safe.perform (stable_hasRead now) (hread now rfl)
      fun z hread hinv => keeps_writeExtendedDeadline hinv hread) fun _ z _ => ?_
    exact safe_due (due_of_leaves leaves_notify)

/-- Every call is safe. -/
theorem safeOperations_deadline : deadlineProtocol.SafeOperations := by
  intro op tid x _ _
  cases op with
  | createBooking settings hbypass rules overlaps passengerId input requestOfferId =>
    exact safe_due (due_createBooking hbypass)
  | paymentSucceeded settings paymentIntent intent =>
    exact Protocol.Safe.sequence safe_payment_due fun _ _ _ => trivial
  | extendWaitForDriver passengerId bookingId => exact safe_extendWaitForDriver

end Safe

/-! ## Whole runs -/

/-- The pool before any call has been started. -/
def deadlineStart (w : World) : Pool Call Err (Event ⊕ ℕ) World DeadlineOp := { now := { state := w } }

/-- **A driver's decision is never due after the departure**, in any interleaving of the calls in which
whoever gives the driver an hour does so while there is an hour left. -/
theorem decisions_due_in_time (w : World) (hw : w.db.DueInTime)
    (moves : List (Move DeadlineOp Reply World))
    (hmeets : History.Each (Pool.step deadlinePool)
      (Pool.Meets deadlinePool DeadlineStep KeepsDepartures) (deadlineStart w) moves) :
    History.Always (Pool.step deadlinePool) (fun p => p.now.state.db.DueInTime) (deadlineStart w)
      moves := by
  have hstart : deadlineProtocol.Holds (deadlineStart w) := Protocol.holds_of_inv hw rfl rfl
  exact (Protocol.sound safeOperations_deadline hstart hmeets).imp fun _ h => h.inv

/-! ## Runs -/

section Runs

/-- A booking that waits for its payment, on a ride that departs at this time. -/
private def unpaidUntil (departureAt : ℕ) : World where
  db := {
    rides := ⟨[(1, {
      driverId := 9, totalSeats := 3, availableSeats := 3, status := .published,
      departureAt })], by simp⟩
    bookings := ⟨[(7, {
      rideId := 1, passengerId := 2, seatsBooked := 1, totalPrice := 1020,
      status := .paymentPending })], by simp⟩ }

/-- Its payment is captured, and the call that applies it crashes once it has claimed the booking. -/
private def capturedAndCrashed : List (Move DeadlineOp Reply World) :=
  [.start (.paymentSucceeded {} 5 { bookingId := some 7, amount := 1020, currency := "eur" }),
    .step 0 .ok, .step 0 .ok]

private theorem dueInTime_unpaidUntil (departureAt : ℕ) : (unpaidUntil departureAt).db.DueInTime := by
  intro id b hb hpending
  obtain ⟨-, rfl⟩ := Prod.mk.injEq .. ▸ List.mem_singleton.mp (Table.mem_rows_iff.mpr hb)
  cases hpending

/-- A payment two hours before the departure. -/
theorem decision_due_before_departure :
    History.Always (Pool.step deadlinePool) (fun p => p.now.state.db.DueInTime)
      (deadlineStart (unpaidUntil (2 * hourMs))) capturedAndCrashed := by
  refine decisions_due_in_time _ (dueInTime_unpaidUntil _) _ ⟨trivial, ?_, ?_, trivial⟩
  · rintro op rest ⟨⟩ b es s ⟨⟩
    exact ⟨fun id now h => (by cases List.mem_singleton.mp h),
      fun id now b h => (by cases List.mem_singleton.mp h)⟩
  · rintro op rest ⟨⟩ b es s ⟨⟩
    constructor
    · rintro id now hclaimed - hread booking ride hbooking hride
      obtain rfl : 7 = id := Event.bookingClaimed.injEq .. ▸ Sum.inl.inj
        (List.mem_singleton.mp hclaimed).symm
      obtain rfl := Option.some.inj hread
      obtain rfl := Option.some.inj hbooking
      obtain rfl := Option.some.inj hride
      decide
    · intro id now b hextended
      cases List.mem_singleton.mp hextended

/-- A payment half an hour before the departure gives the driver an hour. -/
theorem decision_due_after_departure :
    (unpaidUntil (hourMs / 2)).db.DueInTime ∧
      ¬ History.Always (Pool.step deadlinePool) (fun p => p.now.state.db.DueInTime)
        (deadlineStart (unpaidUntil (hourMs / 2))) capturedAndCrashed := by
  refine ⟨dueInTime_unpaidUntil _, fun h => ?_⟩
  obtain ⟨deadline, departureAt, hdeadline, hdeparture, hle⟩ := h.last 7 _ rfl rfl
  obtain rfl := Option.some.inj hdeadline
  obtain rfl := Option.some.inj hdeparture
  exact absurd hle (by decide)

end Runs

end Deliivo
