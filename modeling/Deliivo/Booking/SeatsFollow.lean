import Deliivo.Booking.Confirmation
import Deliivo.Booking.Frame
import Deliivo.Dispute.Settlement
import Deliivo.Domain.Pool
import Deliivo.Domain.Preserves
import Deliivo.Program.Confined
import Deliivo.Ride.Overdue
import Deliivo.Store.RowView
import Deliivo.Webhook.Handler

/-!
# Seats follow the status

A booking that waits for its payment or has been ended holds no seats, and one that waits for its
driver or its pickup holds them. The status and the seats are two columns; every writer of the status
but the settlement of disputes moves both in one transaction.

**Seats follow the status** along an interleaving of the calls exactly if every status that a
settlement writes agrees with the seats that the booking holds when it is written
(`seats_follow_status`).

## Main definitions

* `Db.SeatsFollow`: the invariant
* `SeatOp`, `seatPool`: the calls that write the status, next to each other
* `SeatStep`: the condition on their steps

## Main results

* `endBooking_seats`, `endBookingWhere_seats`: ending a booking
* `opsConfined_seats`: what every step of the calls does to the invariant
* `settleViewed_writes`: which status a settlement writes for which resolution
* `seats_follow_status`
-/

namespace Deliivo

open Program (Logged Pool Move)

/-! ## The invariant -/

/-- Whether a booking in this status is to hold its seats; nothing is said once the trip has begun. -/
def BookingStatus.holdsSeats : BookingStatus → Option Bool
  | .paymentPending | .paymentFailed | .cancelled | .rideFullRefunded => some false
  | .driverPending | .confirmed | .waitingForPickup => some true
  | _ => none

/-- A status agrees with the seats that a booking holds. -/
def BookingStatus.Agrees (status : BookingStatus) (booking : Booking) : Prop :=
  ∀ held, status.holdsSeats = some held → booking.seatsReservedAt.isSome = held

/-- The seats of a booking follow its status. -/
def Booking.SeatsFollow (booking : Booking) : Prop := booking.status.Agrees booking

/-- The seats of all bookings follow their statuses. -/
def Db.SeatsFollow (d : Db) : Prop := ∀ id b, d.bookings.get? id = some b → b.SeatsFollow

/-- The same but for bookings in `L`, which have been ended and may not have given their seats back
yet. -/
def Db.SeatsFollowBut (L : ℕ → Prop) (d : Db) : Prop :=
  ∀ id b, d.bookings.get? id = some b →
    (L id → b.status.holdsSeats = some false) ∧ (¬ L id → b.SeatsFollow)

/-- The columns that the invariant is about. -/
def seatsView (d : Db) : ℕ → Option (BookingStatus × Option ℕ) :=
  fun id => (d.bookings.get? id).map fun b => (b.status, b.seatsReservedAt)

section Invariant

variable {d d' : Db} {L : ℕ → Prop} {id : ℕ}

theorem Db.SeatsFollowBut.of_view (hview : seatsView d' = seatsView d) (h : d.SeatsFollowBut L) :
    d'.SeatsFollowBut L := by
  intro id b' hb'
  have hrow : (d.bookings.get? id).map (fun b => (b.status, b.seatsReservedAt)) =
      some (b'.status, b'.seatsReservedAt) :=
    (congrFun hview id).symm.trans (by simp only [seatsView, hb', Option.map_some])
  obtain ⟨b, hb, heq⟩ := Option.map_eq_some_iff.mp hrow
  obtain ⟨hstatus, hseats⟩ := Prod.mk.injEq .. ▸ heq
  have hb₀ := h id b hb
  unfold Booking.SeatsFollow BookingStatus.Agrees at hb₀ ⊢
  rwa [hstatus, hseats] at hb₀

theorem seatsFollowBut_false : d.SeatsFollowBut (fun _ => False) ↔ d.SeatsFollow :=
  ⟨fun h id b hb => (h id b hb).2 not_false, fun h id b hb => ⟨False.elim, fun _ => h id b hb⟩⟩

theorem Db.SeatsFollow.of_view (hview : seatsView d' = seatsView d) (h : d.SeatsFollow) :
    d'.SeatsFollow :=
  seatsFollowBut_false.mp (.of_view hview (seatsFollowBut_false.mpr h))

/-- A change of some bookings that keeps their seats in line. -/
theorem Db.SeatsFollow.modify {f : Booking → Booking} (h : d.SeatsFollow)
    (hf : ∀ b, d.bookings.get? id = some b → (f b).SeatsFollow) :
    Db.SeatsFollow { d with bookings := d.bookings.modify id f } :=
  Table.Every.modify (t := d.bookings) (P := fun _ (b : Booking) => b.SeatsFollow) h hf

theorem Db.SeatsFollow.modifyWhere {P : ℕ → Booking → Bool} {f : Booking → Booking}
    (h : d.SeatsFollow)
    (hf : ∀ id b, d.bookings.get? id = some b → P id b = true → (f b).SeatsFollow) :
    Db.SeatsFollow { d with
      bookings := d.bookings.modifyWhere (fun id _ => d.bookings.holds P id) f } :=
  Table.Every.modifyWhere (t := d.bookings) (P := fun _ (b : Booking) => b.SeatsFollow) h hf

theorem Db.SeatsFollow.insert {b : Booking} (h : d.SeatsFollow) (hb : b.SeatsFollow) :
    Db.SeatsFollow { d with bookings := d.bookings.insert id b } :=
  Table.Every.insert (t := d.bookings) (P := fun _ (b : Booking) => b.SeatsFollow) h hb

end Invariant

/-! ## Ending bookings -/

section Ending

variable {d d' : Db} {L : ℕ → Prop} {bookingId : ℕ} {hold : SeatHold} {f : Booking → Booking}

/-- A booking that is moved to an ended status may still hold its seats. -/
theorem Db.SeatsFollowBut.ended (h : d.SeatsFollowBut L)
    (hf : ∀ b, d.bookings.get? bookingId = some b → (f b).status.holdsSeats = some false) :
    Db.SeatsFollowBut (fun id => id = bookingId ∨ L id)
      { d with bookings := d.bookings.modify bookingId f } := by
  intro id b' hb'
  rw [Table.get?_modify] at hb'
  split_ifs at hb' with hid
  · obtain ⟨b, hb, rfl⟩ := Option.map_eq_some_iff.mp hb'
    exact ⟨fun _ => hf b (hid ▸ hb), fun hnot => absurd (Or.inl hid) hnot⟩
  · obtain ⟨hended, hfollow⟩ := h id b' hb'
    exact ⟨fun hL => hended (hL.resolve_left hid), fun hnot => hfollow fun hL => hnot (Or.inr hL)⟩

theorem seatsView_leaves {α : Type} {body : Tx α} (h : body.Leaves Db.bookings)
    {a : α} (hrun : body.atomic d = .ok (a, d')) : seatsView d' = seatsView d := by
  unfold seatsView
  rw [h.atomic hrun]

/-- **Giving the seats back** brings an ended booking in line. -/
theorem releaseBookingSeats_follow {released : Bool}
    (h : d.SeatsFollowBut fun id => id = bookingId ∨ L id)
    (hrun : (releaseBookingSeats bookingId hold).atomic d = .ok (released, d')) :
    d'.SeatsFollowBut L := by
  obtain ⟨claimed, d₁, hclaim, hrest⟩ := Tx.atomic_bind.mp hrun
  obtain ⟨-, rfl⟩ := Prod.mk.injEq .. ▸ Except.ok.inj hclaim
  have hclaimed : Db.SeatsFollowBut L ((claimSeatRelease bookingId).write d d) := by
    intro id b' hb'
    have hrow : (d.bookings.modifyWhere (fun id _ => d.bookings.holds
        (fun id b => id == bookingId && b.seatsReservedAt.isSome) id)
        fun b => { b with seatsReservedAt := none }).get? id = some b' := hb'
    rw [Table.get?_modifyWhere] at hrow
    obtain ⟨b, hb, rfl⟩ := Option.map_eq_some_iff.mp hrow
    simp only [Table.holds, hb, Option.elim_some, Bool.and_eq_true, beq_iff_eq]
    obtain ⟨hended, hfollow⟩ := h id b hb
    by_cases hid : id = bookingId
    · -- the booking itself: it is ended, and by now holds nothing
      have hunheld := hended (Or.inl hid)
      by_cases hseats : b.seatsReservedAt.isSome = true
      · rw [if_pos ⟨hid, hseats⟩]
        refine ⟨fun _ => hunheld, fun _ held hheld => ?_⟩
        obtain rfl := Option.some.inj (hheld.symm.trans hunheld)
        rfl
      · rw [if_neg fun hand => hseats hand.2]
        refine ⟨fun _ => hunheld, fun _ held hheld => ?_⟩
        obtain rfl := Option.some.inj (hheld.symm.trans hunheld)
        simpa using hseats
    · rw [if_neg fun hand => hid hand.1]
      exact ⟨fun hL => hended (Or.inr hL), fun hnot => hfollow fun hL => hnot (hL.resolve_left hid)⟩
  refine Db.SeatsFollowBut.of_view ?_ hclaimed
  split_ifs at hrest with hnone
  · obtain ⟨-, rfl⟩ := Prod.mk.injEq .. ▸ Except.ok.inj hrest
    rfl
  · obtain ⟨u, d₂, hrelease, hend⟩ := Tx.atomic_bind.mp hrest
    obtain ⟨-, rfl⟩ := Prod.mk.injEq .. ▸ Except.ok.inj hend
    exact seatsView_leaves (leaves_releaseSegmentSeats (fun _ _ => rfl) (fun _ _ _ => rfl) hold) hrelease

/-- **Ending a booking by its id**: it is written in an ended status, and gives its seats back. -/
theorem endBooking_follow {u : Unit} (h : d.SeatsFollowBut L)
    (hf : ∀ b, d.bookings.get? bookingId = some b → (f b).status.holdsSeats = some false)
    (hrun : (endBooking bookingId hold f).atomic d = .ok (u, d')) : d'.SeatsFollowBut L := by
  obtain ⟨row, d₁, hwrite, hrest⟩ := Tx.atomic_bind.mp hrun
  obtain ⟨-, -, -, rfl⟩ := Service.atomic_update hwrite
  obtain ⟨released, d₂, hrelease, hend⟩ := Tx.atomic_bind.mp hrest
  obtain ⟨-, rfl⟩ := Prod.mk.injEq .. ▸ Except.ok.inj hend
  exact releaseBookingSeats_follow (h.ended hf) hrelease

theorem endBooking_seats {u : Unit} (h : d.SeatsFollow)
    (hf : ∀ b, (f b).status.holdsSeats = some false)
    (hrun : (endBooking bookingId hold f).atomic d = .ok (u, d')) : d'.SeatsFollow :=
  seatsFollowBut_false.mp (endBooking_follow (seatsFollowBut_false.mpr h) (fun b _ => hf b) hrun)

/-- **Ending a booking that is still as it has to be.** -/
theorem endBookingWhere_seats {statuses : BookingStatus → Bool} {ended : Bool}
    (h : d.SeatsFollow) (hf : ∀ b, (f b).status.holdsSeats = some false)
    (hrun : (endBookingWhere bookingId hold statuses f).atomic d = .ok (ended, d')) :
    d'.SeatsFollow := by
  obtain ⟨claimed, d₁, hclaim, hrest⟩ := Tx.atomic_bind.mp hrun
  obtain ⟨rfl, rfl⟩ := Prod.mk.injEq .. ▸ Except.ok.inj hclaim
  split_ifs at hrest with hnone
  · -- no row was written
    obtain ⟨-, rfl⟩ := Prod.mk.injEq .. ▸ Except.ok.inj hrest
    refine h.modifyWhere fun id b hb hP => ?_
    have hmem : (id, b) ∈ d.bookings.filter fun id b => id == bookingId && statuses b.status :=
      Table.mem_filter_iff.mpr ⟨hb, hP⟩
    have hid : id ∈ ([] : List ℕ) := hnone ▸ List.mem_map_of_mem hmem
    cases hid
  · obtain ⟨released, d₂, hrelease, hend⟩ := Tx.atomic_bind.mp hrest
    obtain ⟨-, rfl⟩ := Prod.mk.injEq .. ▸ Except.ok.inj hend
    refine seatsFollowBut_false.mp (releaseBookingSeats_follow ?_ hrelease)
    -- a row was written, and it is the only one under its id
    obtain ⟨id, hid⟩ := List.exists_mem_of_ne_nil _ hnone
    obtain ⟨⟨id', b⟩, hmem, rfl⟩ := List.mem_map.mp hid
    obtain ⟨hb, hP⟩ := Table.mem_filter_iff.mp hmem
    have hthis : id' = bookingId := beq_iff_eq.mp (Bool.and_eq_true _ _ ▸ hP).1
    subst hthis
    intro j b' hb'
    have hrow : (d.bookings.modifyWhere (fun id _ => d.bookings.holds
        (fun id b => id == id' && statuses b.status) id) f).get? j = some b' := hb'
    rw [Table.get?_modifyWhere] at hrow
    obtain ⟨b₁, hb₁, rfl⟩ := Option.map_eq_some_iff.mp hrow
    by_cases hj : j = id'
    · subst hj
      have hholds : d.bookings.holds (fun id b => id == j && statuses b.status) j = true := by
        have hb' : d.bookings.get? j = some b := hb
        rw [Table.holds, hb']
        exact hP
      rw [if_pos hholds]
      exact ⟨fun _ => hf b₁, fun hnot => absurd (Or.inl rfl) hnot⟩
    · have hholds : d.bookings.holds (fun id b => id == id' && statuses b.status) j = false := by
        simp [Table.holds, hb₁, hj]
      rw [hholds, if_neg Bool.false_ne_true]
      exact ⟨fun hL => absurd (hL.resolve_right not_false) hj, fun _ => h j b₁ hb₁⟩

end Ending

/-! ## The calls -/

/-- The calls that write the status of a booking. -/
inductive SeatOp
  | createBooking (settings : Settings) (rules : BookingRules) (overlaps : ℕ → ℕ → Db → Bool)
    (passengerId : ℕ) (input : CreateBookingInput) (requestOfferId : Option ℕ)
  | paymentSucceeded (settings : Settings) (paymentIntent : ℕ) (intent : Intent)
  | paymentFailed (intent : Intent)
  | confirmPayment (settings : Settings) (passengerId bookingId : ℕ)
  | resumePayment (settings : Settings) (passengerId bookingId : ℕ)
  | acceptBooking (driverId bookingId : ℕ)
  | rejectBooking (settings : Settings) (driverId bookingId : ℕ)
  | cancelAfterAccept (settings : Settings) (driverId bookingId : ℕ)
  | cancelBooking (passengerId bookingId : ℕ)
  | withdrawBooking (settings : Settings) (passengerId bookingId : ℕ)
  | expireUnpaidBooking (bookingId : ℕ)
  | handleExtendedDeadline (settings : Settings) (bookingId : ℕ)
  | cancelRide (settings : Settings) (driverId rideId : ℕ)
  | closeOverdueUnstartedRide (rideId : ℕ) (ride : Ride) (rideBookings : List (ℕ × Booking))
  | settleDispute (input : SettlementInput)

def SeatOp.program : SeatOp → Service Unit
  | .createBooking settings rules overlaps passengerId input requestOfferId =>
    Deliivo.createBooking settings rules overlaps passengerId input requestOfferId
  | .paymentSucceeded settings paymentIntent intent => do
    let _ ← applyStripePaymentSucceededToBooking settings paymentIntent intent
  | .paymentFailed intent => applyPaymentIntentFailed intent
  | .confirmPayment settings passengerId bookingId =>
    confirmBookingPayment settings passengerId bookingId
  | .resumePayment settings passengerId bookingId =>
    resumeBookingPayment settings passengerId bookingId
  | .acceptBooking driverId bookingId => Deliivo.acceptBooking driverId bookingId
  | .rejectBooking settings driverId bookingId => Deliivo.rejectBooking settings driverId bookingId
  | .cancelAfterAccept settings driverId bookingId =>
    Deliivo.cancelAfterAccept settings driverId bookingId
  | .cancelBooking passengerId bookingId => Deliivo.cancelBooking passengerId bookingId
  | .withdrawBooking settings passengerId bookingId =>
    Deliivo.withdrawBooking settings passengerId bookingId
  | .expireUnpaidBooking bookingId => do
    let _ ← Deliivo.expireUnpaidBooking bookingId
  | .handleExtendedDeadline settings bookingId =>
    Deliivo.handleExtendedDeadline settings bookingId
  | .cancelRide settings driverId rideId => Deliivo.cancelRide settings driverId rideId
  | .closeOverdueUnstartedRide rideId ride rideBookings =>
    Deliivo.closeOverdueUnstartedRide rideId ride rideBookings
  | .settleDispute input => Deliivo.settleDispute input

/-- The calls, next to each other. -/
abbrev seatPool := servicePool SeatOp.program besidesBookings

/-- The condition on the steps: a status that a settlement writes agrees with the seats that the
booking holds by then. -/
def SeatStep (_op : SeatOp) (_tid : ℕ) (x : LoggedWorld) (_reply : Reply) (events : List Event) :
    Prop :=
  ∀ id status b, .bookingWritten id status ∈ events → x.state.db.bookings.get? id = some b →
    status.Agrees b

/-! ## Single steps -/

section Steps

variable {α β : Type}

/-- A step keeps the seats in line exactly if the statuses that it reports agree with them. -/
def SeatCall (c : Call β) : Prop :=
  ∀ i w, w.db.SeatsFollow → ((c.exec i w).2.2.db.SeatsFollow ↔
    ∀ id status b, .bookingWritten id status ∈ (c.exec i w).2.1 → w.db.bookings.get? id = some b →
      status.Agrees b)

/-- What a step may report that is no settlement's. -/
def ReportsNoBooking (report : β → List Event) : Prop :=
  ∀ b, ∀ e ∈ report b, ∀ id status, e ≠ .bookingWritten id status

/-- A step that keeps the seats in line and reports no status. -/
theorem SeatCall.of_keeps {c : Call β}
    (h : ∀ i w, w.db.SeatsFollow → (c.exec i w).2.2.db.SeatsFollow ∧
      ∀ e ∈ (c.exec i w).2.1, ∀ id status, e ≠ .bookingWritten id status) : SeatCall c := by
  intro i w hw
  obtain ⟨hkeeps, hevents⟩ := h i w hw
  exact iff_of_true hkeeps fun id status b he _ => absurd rfl (hevents _ he id status)

/-- What a step may do that leaves the two columns alone. -/
def seatsFrame : Frame where
  db := seatsView
  stripe _ := ()
  events e := ∀ id status, e ≠ .bookingWritten id status

theorem seatCall_of_leaves {c : Call β} (h : c.Leaves seatsFrame) : SeatCall c := by
  refine SeatCall.of_keeps fun i w hw => ?_
  obtain ⟨hdb, -, hevents⟩ := h.exec i w
  exact ⟨.of_view hdb hw, hevents⟩

theorem seats_of_leaves {p : Service α} (h : p.Leaves seatsFrame) :
    p.Issues fun {_} c => SeatCall c :=
  h.mono fun _ hc => seatCall_of_leaves hc

/-- A transaction that keeps the seats in line where it commits. -/
theorem seatCall_transact {body : Ctx → Tx β} {report : β → List Event}
    (h : ∀ ctx d b d', d.SeatsFollow → (body ctx).atomic d = .ok (b, d') → d'.SeatsFollow)
    (hreport : ReportsNoBooking report) : SeatCall (.transact body report) := by
  refine SeatCall.of_keeps fun i w hw => ?_
  cases i with
  | refused | lost => exact ⟨hw, fun e he => absurd he List.not_mem_nil⟩
  | ok =>
    simp only [Call.exec]
    cases hb : (body ⟨w.now, w.db.freshId⟩).atomic w.db with
    | error e => exact ⟨hw, fun e he => absurd he List.not_mem_nil⟩
    | ok r => exact ⟨h _ _ _ _ hw hb, hreport r.1⟩

theorem seatCall_transactWithStripe {body : Ctx → StripeTx β} {report : β → List Event}
    (h : ∀ ctx d s b d' s', d.SeatsFollow → (body ctx).atomic d s = (.ok (b, d'), s') →
      d'.SeatsFollow)
    (hreport : ReportsNoBooking report) : SeatCall (.transactWithStripe body report) := by
  refine SeatCall.of_keeps fun i w hw => ?_
  cases i with
  | refused | lost => exact ⟨hw, fun e he => absurd he List.not_mem_nil⟩
  | ok =>
    simp only [Call.exec]
    rcases hb : (body ⟨w.now, w.db.freshId⟩).atomic w.db w.stripe with ⟨e | r, s⟩
    · exact ⟨hw, fun e he => absurd he List.not_mem_nil⟩
    · exact ⟨h _ _ _ _ _ _ hw hb, hreport r.1⟩

theorem reportsNoBooking_nil : ReportsNoBooking fun _ : β => [] :=
  fun _ _ he => absurd he List.not_mem_nil

theorem reportsNoBooking_ended (bookingId : ℕ) (saw : Bool) :
    ReportsNoBooking fun _ : β => [.bookingEnded bookingId saw] := by
  intro b e he id status heq
  rw [List.mem_singleton.mp he] at heq
  cases heq

theorem reportsNoBooking_applied (bookingId : ℕ) :
    ReportsNoBooking (Applied.events bookingId) := by
  intro outcome e he
  cases outcome with
  | claimed =>
    obtain rfl := List.mem_singleton.mp he
    exact fun _ _ heq => by cases heq
  | alreadyApplied | rideFull => exact absurd he List.not_mem_nil

theorem reportsNoBooking_rideClosed (rideId : ℕ) (activeBookings : List (ℕ × Booking)) :
    ReportsNoBooking (reportRideClosed rideId activeBookings) := by
  intro closed e he
  cases closed with
  | true =>
    obtain rfl := List.mem_singleton.mp he
    exact fun _ _ heq => by cases heq
  | false => exact absurd he List.not_mem_nil

theorem reportsNoBooking_writtenOff (bookingId : ℕ) :
    ReportsNoBooking (reportWrittenOff bookingId) := by
  intro ended e he id status heq
  unfold reportWrittenOff at he
  split_ifs at he
  · rw [List.mem_singleton.mp he] at heq
    cases heq
  · cases he

end Steps

/-! ### Payments -/

section Payments

variable {α : Type} {bookingId : ℕ}

/-- The invariant, and the booking holds its seats if it is there. -/
def SeatsTaken (bookingId : ℕ) (d : Db) : Prop :=
  d.SeatsFollow ∧ ∀ b, d.bookings.get? bookingId = some b → b.seatsReservedAt.isSome = true

/-- Statements that leave the bookings alone keep what is said of them. -/
theorem keeps_of_leaves {I : Db → Prop} (hI : ∀ d d', d'.bookings = d.bookings → I d → I d')
    {body : Tx α} (h : body.Leaves Db.bookings) :
    body.Issues fun {_} c => ∀ d, I d → I (c.write d d) :=
  h.mono fun _ hc d hd => hI d _ (hc d d) hd

theorem seatsTaken_congr (d d' : Db) (h : d'.bookings = d.bookings) (hd : SeatsTaken bookingId d) :
    SeatsTaken bookingId d' := by
  obtain ⟨hfollow, htaken⟩ := hd
  refine ⟨.of_view ?_ hfollow, fun b hb => htaken b (h ▸ hb)⟩
  unfold seatsView
  rw [h]

/-- Matching a request confirms a booking that holds its seats. -/
theorem seatsTaken_matchRequest (ctx : Ctx) (view : OfferView) :
    (matchRequest ctx bookingId view).Issues fun {_} c =>
      ∀ d, SeatsTaken bookingId d → SeatsTaken bookingId (c.write d d) := by
  refine ((Program.issues_perform _).mpr fun d hd => ?_).bind fun _ => ?_
  · obtain ⟨hfollow, htaken⟩ := hd
    refine ⟨hfollow.modify fun b hb held hheld => ?_, fun b' hb' => ?_⟩
    · obtain rfl := Option.some.inj hheld
      exact htaken b hb
    · have hrow : (d.bookings.modify bookingId _).get? bookingId = some b' := hb'
      rw [Table.get?_modify_self] at hrow
      obtain ⟨b, hb, rfl⟩ := Option.map_eq_some_iff.mp hrow
      exact htaken b hb
  · refine keeps_of_leaves seatsTaken_congr ?_
    refine ((Program.issues_perform _).mpr fun _ _ => rfl).bind fun _ => ?_
    refine ((Program.issues_perform _).mpr fun _ _ => rfl).bind fun _ => ?_
    refine ((Program.issues_perform _).mpr fun _ _ => rfl).bind fun _ => ?_
    exact ((Program.issues_command _).mpr fun _ _ => rfl).bind fun _ => trivial

theorem seatsTaken_confirmRequestBooking (feePercent : Option ℚ) (ctx : Ctx) :
    (confirmRequestBooking feePercent ctx bookingId).Issues fun {_} c =>
      ∀ d, SeatsTaken bookingId d → SeatsTaken bookingId (c.write d d) := by
  refine ((Program.issues_command _).mpr fun _ hd => hd).bind fun found => ?_
  cases found with
  | none => trivial
  | some view =>
    dsimp only
    split_ifs with hstatus hdeparted
    · trivial
    · trivial
    · cases view.booking with
      | none => trivial
      | some booking =>
        dsimp only
        split_ifs with hintent
        · refine Program.Issues.bind ?_ fun _ => seatsTaken_matchRequest _ _
          exact keeps_of_leaves seatsTaken_congr (leaves_ensureRequestPayment (fun _ _ => rfl) _ _ _ _)
        · exact seatsTaken_matchRequest _ _

/-- **The claim** takes the seats together with the status. -/
theorem claimCapturedBooking_seats {settings : Settings} {paymentIntent : ℕ} {intent : Intent}
    {now : ℕ} {ctx : Ctx} {d d' : Db} {applied : Applied} (h : d.SeatsFollow)
    (hrun : (claimCapturedBooking settings bookingId paymentIntent intent now ctx).atomic d =
      .ok (applied, d')) : d'.SeatsFollow := by
  obtain ⟨claimed, d₁, hclaim, hrest⟩ := Tx.atomic_bind.mp hrun
  obtain ⟨rfl, rfl⟩ := Prod.mk.injEq .. ▸ Except.ok.inj hclaim
  have hfollow : Db.SeatsFollow ((updateMany bookings (isPendingBooking bookingId)
      (Booking.withCapture paymentIntent intent now)).write d d) := by
    refine h.modifyWhere fun id b _ _ held hheld => ?_
    obtain rfl := Option.some.inj hheld
    rfl
  split_ifs at hrest with hnone
  · obtain ⟨-, rfl⟩ := Prod.mk.injEq .. ▸ Except.ok.inj hrest
    exact hfollow
  · -- the booking was claimed, and holds its seats from here on
    obtain ⟨id, hid⟩ := List.exists_mem_of_ne_nil _ hnone
    obtain ⟨⟨id', b⟩, hmem, rfl⟩ := List.mem_map.mp hid
    obtain ⟨hb, hP⟩ := Table.mem_filter_iff.mp hmem
    obtain ⟨rfl, -⟩ := isPendingBooking_iff.mp hP
    have htaken : SeatsTaken id' ((updateMany bookings (isPendingBooking id')
        (Booking.withCapture paymentIntent intent now)).write d d) := by
      refine ⟨hfollow, fun b' hb' => ?_⟩
      have hrow : (d.bookings.modifyWhere (fun id _ => d.bookings.holds (isPendingBooking id') id)
          (Booking.withCapture paymentIntent intent now)).get? id' = some b' := hb'
      have hb₁ : d.bookings.get? id' = some b := hb
      rw [Table.get?_modifyWhere, hb₁, Option.map_some] at hrow
      have hholds : d.bookings.holds (isPendingBooking id') id' = true := by
        rw [Table.holds, hb₁]
        exact hP
      rw [if_pos hholds] at hrow
      obtain rfl := Option.some.inj hrow
      rfl
    refine (Tx.atomic_keeps ?_ htaken hrest).1
    refine ((Program.issues_perform _).mpr fun _ hd => hd).bind fun found => ?_
    refine (seatsTaken_confirmRequestBooking _ _).bind fun _ => ?_
    refine Program.Issues.bind ?_ fun _ => trivial
    exact keeps_of_leaves seatsTaken_congr
      (leaves_reserveSeatsForBooking (fun _ _ => rfl) (fun _ _ _ => rfl) _ _ _)

theorem seatsView_deadline : DeadlineApart seatsView := by
  intro d id deadline
  funext j
  simp only [seatsView, Table.get?_modify]
  split_ifs with hj
  · rw [Option.map_map]
    rfl
  · rfl

theorem seats_paymentWritten (paymentId : ℕ) (read written : PaymentStatus) :
    seatsFrame.events (.paymentWritten paymentId read written) := fun _ _ h => by cases h

theorem seatsView_paymentWrites : PaymentWritesApart seatsView := fun _ _ _ _ => rfl

/-- Marking payments leaves the seats alone. -/
theorem seats_markBookingPaymentPaid (bookingId driverId : ℕ) :
    (markBookingPaymentPaid bookingId driverId).Leaves seatsFrame :=
  leaves_markBookingPaymentPaid seatsView_paymentWrites seats_paymentWritten (fun _ _ => rfl)
    (fun _ _ => rfl) _ _

theorem seats_markBookingPaymentRefunded (bookingId driverId : ℕ) (amount : Option ℤ) :
    (markBookingPaymentRefunded bookingId driverId amount).Leaves seatsFrame :=
  leaves_markBookingPaymentRefunded seatsView_paymentWrites seats_paymentWritten (fun _ _ => rfl)
    _ _ _

theorem seats_refundPaymentIntent (paymentIntent : ℕ) (amount : ℤ) :
    (refundPaymentIntent paymentIntent amount).Leaves seatsFrame :=
  leaves_refundPaymentIntent (fun _ _ => rfl) _ _

/-- A change of a booking that is about neither of the two columns. -/
theorem seatsView_modify {f : Booking → Booking}
    (hf : ∀ b, (f b).status = b.status ∧ (f b).seatsReservedAt = b.seatsReservedAt) (d : Db)
    (id : ℕ) : seatsView { d with bookings := d.bookings.modify id f } = seatsView d := by
  funext j
  simp only [seatsView, Table.get?_modify]
  split_ifs with hj
  · rw [Option.map_map]
    refine Option.map_congr fun b _ => ?_
    rw [Function.comp_apply, (hf b).1, (hf b).2]
  · rfl

theorem seats_createIssue (issue : ReconciliationIssue) : (createIssue issue).Leaves seatsFrame :=
  leaves_createIssue (fun _ _ => rfl) issue

theorem seats_refundRideFullPayment (paymentIntent : ℕ) :
    (refundRideFullPayment bookingId paymentIntent).Issues fun {_} c => SeatCall c := by
  refine ((Program.issues_perform _).mpr (seatCall_transact (fun ctx d b d' hd hrun => ?_)
    reportsNoBooking_nil)).bind fun claimed => ?_
  · obtain ⟨-, rfl⟩ := Prod.mk.injEq .. ▸ Except.ok.inj hrun
    refine hd.modifyWhere fun id b hb hP held hheld => ?_
    -- a booking that waits for its payment holds no seats, and none when it is cancelled
    obtain rfl := Option.some.inj hheld
    exact hd id b hb false (by rw [(isPendingBooking_iff.mp hP).2]; rfl)
  split_ifs with hnone
  · trivial
  · refine (seats_of_leaves (leaves_sql (leaves_findBookingWithRide _))).bind fun found => ?_
    cases found with
    | none => trivial
    | some found =>
      refine seats_of_leaves (Program.Issues.bind ?_ fun _ => Program.Issues.bind ?_ fun _ =>
        leaves_bestEffort leaves_notify)
      · refine ((seats_refundPaymentIntent _ _).bind fun _ => ?_).tryCatch fun _ =>
          leaves_bestEffort (seats_createIssue _)
        refine (leaves_transaction fun ctx => (Program.issues_perform _).mpr fun _ d => ?_).bind
          fun _ => trivial
        exact seatsView_modify (by intros; exact ⟨rfl, rfl⟩) d _
      · refine leaves_bestEffort ((seats_markBookingPaymentPaid _ _).bind fun _ => ?_)
        exact (seats_markBookingPaymentRefunded _ _ _).bind fun _ => trivial

theorem seats_applyStripePaymentSucceededToBooking (settings : Settings) (paymentIntent : ℕ)
    (intent : Intent) :
    (applyStripePaymentSucceededToBooking settings paymentIntent intent).Issues
      fun {_} c => SeatCall c := by
  unfold applyStripePaymentSucceededToBooking
  split
  · trivial
  · refine ((Program.issues_command _).mpr (seatCall_of_leaves (c := .clock) trivial)).bind
      fun now => ?_
    refine Program.Issues.bind (Program.Issues.tryCatch ?_ fun e => ?_) fun outcome => ?_
    · exact (Program.issues_perform _).mpr
        (seatCall_transact (fun _ _ _ _ hd hrun => claimCapturedBooking_seats hd hrun)
          (reportsNoBooking_applied _))
    · split_ifs <;> trivial
    cases outcome with
    | alreadyApplied =>
      exact (seats_of_leaves (leaves_syncAcceptedOffer seatsView_paymentWrites (fun _ _ => rfl)
        (fun _ _ => rfl) seats_paymentWritten _)).bind fun _ => trivial
    | rideFull => exact (seats_refundRideFullPayment _).bind fun _ => trivial
    | claimed =>
      exact (seats_of_leaves (leaves_completeClaim seatsView_paymentWrites (fun _ _ => rfl)
        (fun _ _ => rfl) (fun _ _ => rfl) seats_paymentWritten seatsView_deadline _ _ _)).bind
        fun _ => trivial

/-! ### Bookings that end -/

theorem failUnpaidBooking_seats {d d' : Db} {ended : Bool} (h : d.SeatsFollow)
    (hrun : (failUnpaidBooking bookingId).atomic d = .ok (ended, d')) : d'.SeatsFollow := by
  obtain ⟨existing, d₁, hread, hrest⟩ := Tx.atomic_bind.mp hrun
  obtain ⟨rfl, rfl⟩ := Prod.mk.injEq .. ▸ Except.ok.inj hread
  split at hrest
  · obtain ⟨-, rfl⟩ := Prod.mk.injEq .. ▸ Except.ok.inj hrest
    exact h
  · exact endBookingWhere_seats h (fun _ => rfl) hrest

theorem seats_failBookingAndReleaseSeats :
    (failBookingAndReleaseSeats bookingId).Issues fun {_} c => SeatCall c :=
  ((Program.issues_perform _).mpr (seatCall_transact
    (fun _ _ _ _ hd hrun => failUnpaidBooking_seats hd hrun)
    (reportsNoBooking_writtenOff _))).bind fun _ => trivial

theorem failPendingBooking_seats {d d' : Db} {failed : Option Booking} (h : d.SeatsFollow)
    (hrun : (failPendingBooking bookingId).atomic d = .ok (failed, d')) : d'.SeatsFollow := by
  obtain ⟨found, d₁, hread, hrest⟩ := Tx.atomic_bind.mp hrun
  obtain ⟨rfl, rfl⟩ := Prod.mk.injEq .. ▸ Except.ok.inj hread
  split at hrest
  · obtain ⟨-, rfl⟩ := Prod.mk.injEq .. ▸ Except.ok.inj hrest
    exact h
  · split_ifs at hrest with hpending
    · obtain ⟨row, d₂, hwrite, hrest⟩ := Tx.atomic_bind.mp hrest
      obtain ⟨-, -, -, rfl⟩ := Service.atomic_update hwrite
      obtain ⟨released, d₃, hrelease, hend⟩ := Tx.atomic_bind.mp hrest
      obtain ⟨-, rfl⟩ := Prod.mk.injEq .. ▸ Except.ok.inj hend
      exact seatsFollowBut_false.mp (releaseBookingSeats_follow
        ((seatsFollowBut_false.mpr h).ended fun _ _ => rfl) hrelease)
    · obtain ⟨-, rfl⟩ := Prod.mk.injEq .. ▸ Except.ok.inj hrest
      exact h

theorem seats_applyPaymentIntentFailed (intent : Intent) :
    (applyPaymentIntentFailed intent).Issues fun {_} c => SeatCall c := by
  unfold applyPaymentIntentFailed
  split
  · trivial
  · refine (seats_of_leaves (leaves_sql (leaves_findFirst _))).bind fun selected => ?_
    split_ifs with hselected
    · trivial
    · refine ((Program.issues_perform _).mpr (seatCall_transact
        (fun _ _ _ _ hd hrun => failPendingBooking_seats hd hrun)
        fun failed => reportsNoBooking_writtenOff _ _)).bind fun failed => ?_
      · cases failed with
        | none => trivial
        | some failed => exact seats_of_leaves leaves_notify

theorem seats_cancelPaymentIntent (paymentIntent : ℕ) :
    (cancelPaymentIntent paymentIntent).Leaves seatsFrame :=
  leaves_stripe fun _ _ _ _ => rfl

theorem seats_expireUnpaidBooking :
    (expireUnpaidBooking bookingId).Issues fun {_} c => SeatCall c := by
  refine (seats_of_leaves (leaves_sql (leaves_findBookingWithRide _))).bind fun found => ?_
  cases found with
  | none => trivial
  | some found =>
    dsimp only
    split_ifs with hstatus
    · trivial
    · refine ((Program.issues_perform _).mpr (seatCall_transact (fun _ _ _ _ hd hrun =>
        endBookingWhere_seats hd (fun _ => rfl) hrun) (reportsNoBooking_writtenOff _))).bind
        fun expired => ?_
      split_ifs with hexpired
      · refine Program.Issues.bind ?_ fun _ => Program.Issues.bind ?_ fun _ => trivial
        · unfold cancelExpiredIntent
          split
          · trivial
          · exact seats_of_leaves (leaves_bestEffort (seats_cancelPaymentIntent _))
        · exact seats_of_leaves (leaves_bestEffort leaves_notify)
      · trivial

theorem seatsView_refundDate : RefundDateApart seatsView := by
  intro d id date
  exact seatsView_modify (f := fun b => { b with refundedAt := date }) (fun _ => ⟨rfl, rfl⟩) d id

theorem seats_syncRefund (driverId : ℕ) (refundAmount : ℤ) :
    (syncRefund bookingId driverId refundAmount).Leaves seatsFrame :=
  leaves_syncRefund seatsView_paymentWrites (fun _ _ => rfl) seats_paymentWritten _ _ _

theorem seats_settleCancelledBooking (booking : Booking) (refundAmount : ℤ) :
    (settleCancelledBooking bookingId booking refundAmount).Leaves seatsFrame :=
  leaves_settleCancelledBooking (fun _ _ => rfl) seatsView_refundDate (fun _ _ => rfl) _ _ _

theorem cancelBookingTx_seats {passengerId : ℕ} {refundPercent refundAmount : ℤ} {ctx : Ctx}
    {d d' : Db} {u : Unit} (h : d.SeatsFollow)
    (hrun : (cancelBookingTx passengerId bookingId refundPercent refundAmount ctx).atomic d =
      .ok (u, d')) : d'.SeatsFollow := by
  obtain ⟨current, d₁, hread, hrest⟩ := Tx.atomic_bind.mp hrun
  obtain ⟨rfl, rfl⟩ := Prod.mk.injEq .. ▸ Except.ok.inj hread
  split at hrest
  · cases hrest
  · exact endBooking_seats h (fun _ => rfl) hrest

theorem seats_cancelBooking (passengerId : ℕ) :
    (cancelBooking passengerId bookingId).Issues fun {_} c => SeatCall c := by
  refine (seats_of_leaves (leaves_sql fun _ _ => rfl)).bind fun checkout => ?_
  split_ifs with hcheckout
  · trivial
  · refine (seats_of_leaves (leaves_sql fun _ _ => rfl)).bind fun found => ?_
    cases found with
    | none => trivial
    | some found =>
      refine ((Program.issues_command _).mpr (seatCall_of_leaves (c := .clock) trivial)).bind
        fun now => ?_
      dsimp only
      split_ifs with hclosed
      · trivial
      · refine ((Program.issues_perform _).mpr (seatCall_transact (fun _ _ _ _ hd hrun =>
          cancelBookingTx_seats hd hrun) (reportsNoBooking_ended _ _))).bind fun _ => ?_
        refine seats_of_leaves ((seats_settleCancelledBooking _ _).bind fun refunded => ?_)
        split_ifs with hrefunded
        · exact (seats_syncRefund _ _).bind fun _ => leaves_notify
        · exact leaves_notify

theorem seats_settleWithdrawnBooking (settings : Settings) (booking : Booking) :
    (settleWithdrawnBooking settings bookingId booking).Leaves seatsFrame :=
  leaves_settleWithdrawnBooking (fun _ _ => rfl) seatsView_refundDate (fun _ _ => rfl) _ _ _

theorem seats_withdrawBooking (settings : Settings) (passengerId : ℕ) :
    (withdrawBooking settings passengerId bookingId).Issues fun {_} c => SeatCall c := by
  refine (seats_of_leaves (leaves_sql fun _ _ => rfl)).bind fun found => ?_
  cases found with
  | none => trivial
  | some found =>
    refine ((Program.issues_perform _).mpr (seatCall_transact (fun _ _ _ _ hd hrun =>
      endBookingWhere_seats hd (fun _ => rfl) hrun) fun cancelled e he => ?_)).bind
      fun cancelled => ?_
    · split_ifs at he
      · exact reportsNoBooking_ended (β := Unit) _ _ () e he
      · cases he
    · split_ifs with hcancelled
      · refine seats_of_leaves ((seats_settleWithdrawnBooking _ _).bind fun refunded => ?_)
        split_ifs with hrefunded
        · exact (seats_syncRefund _ _).bind fun _ => leaves_notify
        · exact leaves_notify
      · trivial

/-! ### Decisions of the driver -/

theorem seats_requireDriverBooking (driverId : ℕ) :
    (requireDriverBooking driverId bookingId).Issues fun {_} c => SeatCall c :=
  seats_of_leaves (leaves_requireDriverBooking _ _)

theorem seats_assertDecisionWindowOpen (deadlineAt : Option ℕ) :
    (assertDecisionWindowOpen deadlineAt).Issues fun {_} c => SeatCall c :=
  seats_of_leaves (leaves_assertDecisionWindowOpen _)

theorem seats_refundDecidedBooking (settings : Settings) (booking : Booking) :
    (refundDecidedBooking settings booking).Leaves seatsFrame :=
  leaves_refundDecidedBooking (fun _ _ => rfl) _ _

theorem endDecidedBooking_seats {status : BookingStatus} {refused : String}
    {f : Booking → Booking} {d d' : Db} {u : Unit} (h : d.SeatsFollow)
    (hf : ∀ b, (f b).status.holdsSeats = some false)
    (hrun : (endDecidedBooking bookingId status refused f).atomic d = .ok (u, d')) :
    d'.SeatsFollow := by
  obtain ⟨current, d₁, hread, hrest⟩ := Tx.atomic_bind.mp hrun
  obtain ⟨rfl, rfl⟩ := Prod.mk.injEq .. ▸ Except.ok.inj hread
  split at hrest
  · cases hrest
  · split_ifs at hrest with hstatus
    · cases hrest
    · exact endBooking_seats h hf hrest

theorem seats_completeRefusal (driverId : ℕ) (booking : Booking) (refunded : Bool) :
    (completeRefusal driverId bookingId booking refunded).Leaves seatsFrame :=
  leaves_completeRefusal seatsView_paymentWrites (fun _ _ => rfl) seats_paymentWritten _ _ _ _

theorem seats_rejectBooking (settings : Settings) (driverId : ℕ) :
    (rejectBooking settings driverId bookingId).Issues fun {_} c => SeatCall c := by
  refine (seats_requireDriverBooking _).bind fun found => ?_
  dsimp only
  split_ifs with hstatus
  · trivial
  · refine (seats_assertDecisionWindowOpen _).bind fun _ => ?_
    refine (seats_of_leaves (seats_refundDecidedBooking _ _)).bind fun refund => ?_
    refine ((Program.issues_perform _).mpr (seatCall_transact (fun _ _ _ _ hd hrun =>
      endDecidedBooking_seats hd (fun _ => rfl) hrun) (reportsNoBooking_ended _ _))).bind fun _ => ?_
    exact seats_of_leaves (seats_completeRefusal _ _ _)

theorem seats_cancelAfterAccept (settings : Settings) (driverId : ℕ) :
    (cancelAfterAccept settings driverId bookingId).Issues fun {_} c => SeatCall c := by
  refine (seats_requireDriverBooking _).bind fun found => ?_
  dsimp only
  split_ifs with hstatus
  · trivial
  · refine (seats_of_leaves (seats_refundDecidedBooking _ _)).bind fun refund => ?_
    refine ((Program.issues_perform _).mpr (seatCall_transact (fun _ _ _ _ hd hrun =>
      endDecidedBooking_seats hd (fun _ => rfl) hrun) (reportsNoBooking_ended _ _))).bind fun _ => ?_
    exact seats_of_leaves (seats_completeRefusal _ _ _)

theorem seats_acceptBooking (driverId : ℕ) :
    (acceptBooking driverId bookingId).Issues fun {_} c => SeatCall c := by
  refine (seats_requireDriverBooking _).bind fun found => ?_
  refine (seats_of_leaves (leaves_sql (leaves_findUnique _))).bind fun driver => ?_
  split_ifs with hverified hstatus
  · trivial
  · trivial
  · refine (seats_assertDecisionWindowOpen _).bind fun _ => ?_
    refine ((Program.issues_perform _).mpr (seatCall_transact (fun ctx d b d' hd hrun => ?_)
      reportsNoBooking_nil)).bind fun confirmed => ?_
    · obtain ⟨-, rfl⟩ := Prod.mk.injEq .. ▸ Except.ok.inj hrun
      -- the guard asks for the seats
      refine hd.modifyWhere fun id b hb hP held hheld => ?_
      obtain rfl := Option.some.inj hheld
      exact (Bool.and_eq_true _ _ ▸ hP).2
    · split_ifs with hnone
      · trivial
      · exact seats_of_leaves (leaves_notify.bind fun _ => leaves_notify)

/-! ### Deadlines, rides -/

theorem seats_refundUnansweredBooking (settings : Settings) (booking : Booking) :
    (refundUnansweredBooking settings booking).Issues (TxCall.Leaves seatsFrame) := by
  unfold refundUnansweredBooking
  split_ifs with hbypass
  · trivial
  · split
    · exact ((Program.issues_perform _).mpr fun _ _ _ _ => rfl).bind fun _ => trivial
    · trivial

/-- A write of a booking that is about neither of the two columns. -/
theorem seats_txWriteBooking {f : Booking → Booking}
    (hf : ∀ b, (f b).status = b.status ∧ (f b).seatsReservedAt = b.seatsReservedAt) :
    (txWriteBooking bookingId f).Issues (TxCall.Leaves seatsFrame) :=
  ((Program.issues_perform _).mpr fun _ d => seatsView_modify hf d _).bind fun _ => trivial

theorem cancelUnansweredBooking_seats {settings : Settings} {booking : Booking} {ride : Ride}
    {ctx : Ctx} {d d' : Db} {s s' : Stripe} {u : Unit} (h : d.SeatsFollow)
    (hrun : (cancelUnansweredBooking settings bookingId booking ride ctx).atomic d s =
      (.ok (u, d'), s')) : d'.SeatsFollow := by
  obtain ⟨u₁, d₁, s₁, hend, hrest⟩ := StripeTx.atomic_bind.mp hrun
  rw [Tx.atomic_lift] at hend
  have hended : d₁.SeatsFollow := endBooking_seats h (fun _ => rfl) (Prod.mk.injEq .. ▸ hend).1
  refine Db.SeatsFollow.of_view ((StripeTx.Leaves.atomic (F := seatsFrame) ?_ hrest).1 _ _ rfl) hended
  refine (seats_refundUnansweredBooking settings booking).bind fun refund => ?_
  split_ifs with hrefunded
  · exact seats_txWriteBooking fun _ => ⟨rfl, rfl⟩
  · trivial

theorem seats_handleExtendedDeadline (settings : Settings) :
    (handleExtendedDeadline settings bookingId).Issues fun {_} c => SeatCall c := by
  refine (seats_of_leaves (leaves_sql (leaves_findBookingWithRide _))).bind fun found => ?_
  cases found with
  | none => trivial
  | some found =>
    dsimp only
    split_ifs with hstatus
    · trivial
    · refine ((Program.issues_perform _).mpr (seatCall_transactWithStripe
        (fun _ _ _ _ _ _ hd hrun => cancelUnansweredBooking_seats hd hrun)
        (reportsNoBooking_ended _ _))).bind fun _ => ?_
      exact seats_of_leaves leaves_notify

/-- A transaction that leaves the frame keeps the law, whatever it asks of Stripe. -/
private theorem keeps_of_seatsFrame {α : Type} {p : StripeTx α}
    (hp : p.Issues (TxCall.Leaves seatsFrame)) :
    p.Issues fun {_} c => match c with
      | .stmt s => ∀ d, d.SeatsFollow → (s.write d d).SeatsFollow
      | .stripe _ => True := by
  refine hp.mono fun c hc => ?_
  cases c with
  | stmt c => exact fun d hd => .of_view (hc d d) hd
  | stripe request => trivial

/-- **Cancelling a ride** clears the seats with the status, in one statement. -/
theorem cancelRideTx_seats {settings : Settings} {rideId : ℕ} {activeBookings : List (ℕ × Booking)}
    {ctx : Ctx} {d d' : Db} {s s' : Stripe} {cancelled : List ℕ} (h : d.SeatsFollow)
    (hrun : (cancelRideTx settings rideId activeBookings ctx).atomic d s =
      (.ok (cancelled, d'), s')) : d'.SeatsFollow := by
  refine StripeTx.atomic_keeps_db (I := Db.SeatsFollow) ?_ h hrun
  refine ((Program.issues_perform _).mpr fun _ hd => hd).bind fun _ => ?_
  refine ((Program.issues_command _).mpr fun d hd => ?_).bind fun cancelled => keeps_of_seatsFrame ?_
  · refine hd.modifyWhere fun id b _ _ held hheld => ?_
    obtain rfl := Option.some.inj hheld
    rfl
  refine Program.Issues.bind (Program.Issues.forEach fun booking =>
    seats_txWriteBooking (by intros; exact ⟨rfl, rfl⟩)) fun _ => ?_
  split_ifs with hbypass
  · trivial
  · refine (Program.Issues.forEach fun booking => ?_).bind fun _ => trivial
    unfold refundListedBooking
    split
    · exact ((Program.issues_perform _).mpr fun _ _ _ _ => rfl).bind fun _ =>
        seats_txWriteBooking fun _ => ⟨rfl, rfl⟩
    · trivial

theorem seats_markListedRefund (settings : Settings) (driverId : ℕ) (booking : ℕ × Booking) :
    (markListedRefund settings driverId booking).Leaves seatsFrame := by
  unfold markListedRefund
  split_ifs with hrefund
  · refine ((Program.issues_command _).mpr fun e he id status heq => ?_).bind fun _ =>
      leaves_bestEffort ((seats_markBookingPaymentRefunded _ _ _).bind fun _ => trivial)
    rw [List.mem_singleton.mp he] at heq
    cases heq
  · trivial

theorem seats_cancelRide (settings : Settings) (driverId rideId : ℕ) :
    (cancelRide settings driverId rideId).Issues fun {_} c => SeatCall c := by
  refine (seats_of_leaves (leaves_sql (leaves_findFirst _))).bind fun ride => ?_
  cases ride with
  | none => trivial
  | some ride =>
    refine (seats_of_leaves (leaves_sql (leaves_findMany _))).bind fun activeBookings => ?_
    refine ((Program.issues_perform _).mpr (seatCall_transactWithStripe
      (fun _ _ _ _ _ _ hd hrun => cancelRideTx_seats hd hrun) ?_)).bind fun cancelled => ?_
    · intro cancelled e he id status heq
      subst heq
      rcases List.mem_cons.mp he with hmoved | hended
      · cases hmoved
      · obtain ⟨id', -, hbooking⟩ := List.mem_map.mp hended
        cases hbooking
    · refine seats_of_leaves (Program.Issues.bind (Program.Issues.forEach fun booking =>
        seats_markListedRefund _ _ _) fun _ => ?_)
      exact Program.Issues.forEach fun _ => leaves_notify

/-- **An overdue ride** cancels all its bookings at once, and then gives their seats back one by
one: until then, those still to come may hold theirs. -/
theorem cancelOverdueBookings_seats {ride : Ride} {activeBookings : List (ℕ × Booking)} {now : ℕ}
    {d d' : Db} {u : Unit} (h : d.SeatsFollow)
    (hrun : (cancelOverdueBookings ride activeBookings now).atomic d = .ok (u, d')) :
    d'.SeatsFollow := by
  obtain ⟨cancelled, d₁, hcancel, hrest⟩ := Tx.atomic_bind.mp hrun
  obtain ⟨-, rfl⟩ := Prod.mk.injEq .. ▸ Except.ok.inj hcancel
  -- after the write that cancels them all, only those on the list may be out of line
  have hcancelled : Db.SeatsFollowBut (fun id => ∃ b ∈ activeBookings, b.1 = id)
      ((updateMany bookings (fun id _ => activeBookings.any fun b => b.1 == id)
        (Booking.cancelledOverdue now)).write d d) := by
    intro id b' hb'
    have hrow : (d.bookings.modifyWhere (fun id _ => d.bookings.holds
        (fun id _ => activeBookings.any fun b => b.1 == id) id)
        (Booking.cancelledOverdue now)).get? id = some b' := hb'
    rw [Table.get?_modifyWhere] at hrow
    obtain ⟨b, hb, rfl⟩ := Option.map_eq_some_iff.mp hrow
    simp only [Table.holds, hb, Option.elim_some, List.any_eq_true, beq_iff_eq]
    split_ifs with hlisted
    · exact ⟨fun _ => rfl, fun hnot => absurd hlisted hnot⟩
    · exact ⟨fun hL => absurd hL hlisted, fun _ => h id b hb⟩
  clear hcancel hrun
  generalize (updateMany bookings (fun id _ => activeBookings.any fun b => b.1 == id)
    (Booking.cancelledOverdue now)).write d d = d₁ at hcancelled hrest
  induction activeBookings generalizing d₁ with
  | nil =>
    obtain ⟨-, rfl⟩ := Prod.mk.injEq .. ▸ Except.ok.inj hrest
    exact seatsFollowBut_false.mp fun id b hb =>
      ⟨False.elim, fun _ => (hcancelled id b hb).2 fun hL => by simp at hL⟩
  | cons booking rest ih =>
    obtain ⟨u₁, d₂, hend, hrest⟩ := Tx.atomic_bind.mp hrest
    -- the induction is on those whose seats are still to be given back
    refine ih d₂ ?_ hrest
    obtain ⟨row, d₃, hwrite, hend⟩ := Tx.atomic_bind.mp hend
    obtain ⟨-, -, -, rfl⟩ := Service.atomic_update hwrite
    obtain ⟨released, d₄, hrelease, hdone⟩ := Tx.atomic_bind.mp hend
    obtain ⟨-, rfl⟩ := Prod.mk.injEq .. ▸ Except.ok.inj hdone
    refine releaseBookingSeats_follow ?_ hrelease
    have hlist : (fun id => ∃ b ∈ booking :: rest, b.1 = id) =
        fun id => id = booking.1 ∨ ∃ b ∈ rest, b.1 = id := by
      funext id
      simp [eq_comm]
    rw [← hlist]
    exact .of_view (seatsView_modify (by intros; exact ⟨rfl, rfl⟩) _ _) hcancelled

theorem closeOverdueRideTx_seats {rideId : ℕ} {ride : Ride} {activeBookings : List (ℕ × Booking)}
    {now : ℕ} {d d' : Db} {closed : Bool} (h : d.SeatsFollow)
    (hrun : (closeOverdueRideTx rideId ride activeBookings now).atomic d = .ok (closed, d')) :
    d'.SeatsFollow := by
  obtain ⟨ids, d₁, hclose, hrest⟩ := Tx.atomic_bind.mp hrun
  have hclosed : d₁.SeatsFollow := by
    obtain ⟨-, rfl⟩ := Prod.mk.injEq .. ▸ Except.ok.inj hclose
    exact h
  split_ifs at hrest with hnone hempty
  · obtain ⟨-, rfl⟩ := Prod.mk.injEq .. ▸ Except.ok.inj hrest
    exact hclosed
  · obtain ⟨-, rfl⟩ := Prod.mk.injEq .. ▸ Except.ok.inj hrest
    exact hclosed
  · obtain ⟨u, d₂, hcancel, hend⟩ := Tx.atomic_bind.mp hrest
    obtain ⟨-, rfl⟩ := Prod.mk.injEq .. ▸ Except.ok.inj hend
    exact cancelOverdueBookings_seats hclosed hcancel

theorem seats_closeOverdueUnstartedRide (rideId : ℕ) (ride : Ride)
    (rideBookings : List (ℕ × Booking)) :
    (closeOverdueUnstartedRide rideId ride rideBookings).Issues fun {_} c => SeatCall c := by
  refine ((Program.issues_command _).mpr (seatCall_of_leaves (c := .clock) trivial)).bind
    fun now => ?_
  refine ((Program.issues_perform _).mpr (seatCall_transact (fun _ _ _ _ hd hrun =>
    closeOverdueRideTx_seats hd hrun) (reportsNoBooking_rideClosed _ _))).bind
      fun rideClosed => ?_
  split_ifs with hclosed hempty
  · trivial
  · exact seats_of_leaves (leaves_notify.bind fun _ => seats_createIssue _)
  · refine seats_of_leaves (leaves_notify.bind fun _ => Program.Issues.bind ?_ fun _ =>
      seats_createIssue _)
    exact Program.Issues.forEach fun _ => leaves_notify

/-! ### Bookings that begin -/

section Creation

variable {settings : Settings} {rules : BookingRules} {overlaps : ℕ → ℕ → Db → Bool}
  {passengerId : ℕ} {input : CreateBookingInput} {requestOfferId : Option ℕ} {now : ℕ} {ctx : Ctx}
  {d d' : Db}

theorem seatsTaken_linkPaidOffer :
    (linkPaidOffer settings requestOfferId bookingId ctx).Issues fun {_} c =>
      ∀ d, SeatsTaken bookingId d → SeatsTaken bookingId (c.write d d) := by
  unfold linkPaidOffer
  split
  · trivial
  · refine ((Program.issues_perform _).mpr fun _ hd => hd).bind fun _ => ?_
    exact seatsTaken_confirmRequestBooking _ _

/-- **A paid booking** is created with its seats. -/
theorem createPaidBooking_seats {created : BookingPlan × ℕ} (h : d.SeatsFollow)
    (hrun : (createPaidBooking settings rules overlaps passengerId input requestOfferId now bookingId
      ctx).atomic d = .ok (created, d')) : d'.SeatsFollow := by
  obtain ⟨u₁, d₁, hoffer, hrest⟩ := Tx.atomic_bind.mp hrun
  obtain ⟨plan, d₂, hplan, hrest⟩ := Tx.atomic_bind.mp hrest
  obtain ⟨u₂, d₃, hseats, hrest⟩ := Tx.atomic_bind.mp hrest
  obtain ⟨u₃, d₄, hcreate, hrest⟩ := Tx.atomic_bind.mp hrest
  -- up to the new row no booking is written
  have hview : seatsView d₃ = seatsView d :=
    (seatsView_leaves (leaves_reserveSeatsForBooking (fun _ _ => rfl) (fun _ _ _ => rfl) _ _ _)
      hseats).trans <|
    (seatsView_leaves (leaves_resolveBookingPlan _) hplan).trans <|
      seatsView_leaves (leaves_reserveOfferOf (fun _ _ => rfl) (fun _ _ => rfl)) hoffer
  obtain ⟨habsent, rfl⟩ := atomic_createBookingRow hcreate
  have htaken : SeatsTaken bookingId { d₃ with
      bookings := d₃.bookings.insert bookingId (plan.paidBooking passengerId input now) } := by
    refine ⟨(h.of_view hview).insert fun held hheld => ?_, fun b hb => ?_⟩
    · obtain rfl := Option.some.inj hheld
      rfl
    · have hrow : (d₃.bookings.insert bookingId _).get? bookingId = some b := hb
      rw [Table.get?_insert habsent, if_pos rfl] at hrow
      obtain rfl := Option.some.inj hrow
      rfl
  refine (Tx.atomic_keeps ?_ htaken hrest).1
  refine seatsTaken_linkPaidOffer.bind fun _ => Program.Issues.bind ?_ fun _ => trivial
  exact keeps_of_leaves seatsTaken_congr (leaves_createPayment fun _ _ => rfl)

/-- **An unpaid booking** is created without seats. -/
theorem createUnpaidBooking_seats {price : ℤ} {paymentIntent : ℕ} {currency : String} {u : Unit}
    (h : d.SeatsFollow)
    (hrun : (createUnpaidBooking settings rules overlaps passengerId input requestOfferId now
      bookingId price paymentIntent currency ctx).atomic d = .ok (u, d')) : d'.SeatsFollow := by
  obtain ⟨u₁, d₁, hoffer, hrest⟩ := Tx.atomic_bind.mp hrun
  obtain ⟨plan, d₂, hplan, hrest⟩ := Tx.atomic_bind.mp hrest
  have hview : seatsView d₂ = seatsView d :=
    (seatsView_leaves (leaves_resolveBookingPlan _) hplan).trans <|
      seatsView_leaves (leaves_reserveOfferOf (fun _ _ => rfl) (fun _ _ => rfl)) hoffer
  split_ifs at hrest with hprice
  · cases hrest
  · obtain ⟨u₂, d₃, hcreate, hrest⟩ := Tx.atomic_bind.mp hrest
    obtain ⟨-, rfl⟩ := atomic_createBookingRow hcreate
    refine Db.SeatsFollow.of_view (seatsView_leaves ?_ hrest) ((h.of_view hview).insert ?_)
    · exact (leaves_createPayment fun _ _ => rfl).bind fun _ => leaves_linkOffer fun _ _ => rfl
    · intro held hheld
      obtain rfl := Option.some.inj hheld
      rfl

theorem seats_createBookingPaid :
    (createBookingPaid settings rules overlaps passengerId input requestOfferId now
      bookingId).Issues fun {_} c => SeatCall c := by
  refine Program.Issues.bind ?_ fun created => ?_
  · exact ((Program.issues_perform _).mpr (seatCall_transact
      (fun _ _ _ _ hd hrun => createPaidBooking_seats hd hrun) reportsNoBooking_nil)).tryCatch
        fun _ => trivial
  refine seats_of_leaves (Program.Issues.bind ?_ fun _ => ?_)
  · refine leaves_bestEffort (Program.Issues.bind ?_ fun _ => trivial)
    exact leaves_markPaymentPaid seatsView_paymentWrites seats_paymentWritten (fun _ _ => rfl)
      (fun _ _ => rfl) _ _
  · split_ifs with hoffer
    · trivial
    · exact leaves_bestEffort (leaves_notify.bind fun _ => leaves_notify.bind fun _ =>
        leaves_notify.bind fun _ => leaves_notify)

theorem seats_createBookingPaymentIntent (amount : ℤ) (currency : String) :
    (createBookingPaymentIntent bookingId amount currency).Leaves seatsFrame := by
  unfold createBookingPaymentIntent
  split_ifs with hamount
  · trivial
  · exact (Program.issues_perform _).mpr
      ⟨fun _ _ _ _ => rfl, fun _ _ he => absurd he List.not_mem_nil⟩

theorem seats_createBookingUnpaid :
    (createBookingUnpaid settings rules overlaps passengerId input requestOfferId now
      bookingId).Issues fun {_} c => SeatCall c := by
  refine Program.Issues.bind (seats_of_leaves ?_) fun plan => ?_
  · exact (leaves_resolveBookingPlan _).translate fun _ hs => leaves_sql hs
  refine Program.Issues.bind (seats_of_leaves ?_) fun paymentIntent => ?_
  · exact (seats_createBookingPaymentIntent _ _).tryCatch fun _ => trivial
  refine Program.Issues.bind ?_ fun _ => seats_of_leaves <|
    (leaves_bestEffort leaves_notify).bind fun _ => leaves_bestEffort leaves_notify
  refine ((Program.issues_perform _).mpr (seatCall_transact
    (fun _ _ _ _ hd hrun => createUnpaidBooking_seats hd hrun) reportsNoBooking_nil)).tryCatch
      fun e => ?_
  exact seats_of_leaves ((leaves_bestEffort (seats_cancelPaymentIntent _)).bind fun _ => trivial)

theorem seats_replacePendingBooking :
    (replacePendingBooking bookingId).Issues fun {_} c => SeatCall c :=
  seats_failBookingAndReleaseSeats.bind fun _ => trivial

theorem seats_retrievePaymentIntent (paymentIntent : ℕ) :
    (retrievePaymentIntent paymentIntent).Leaves seatsFrame :=
  leaves_retrievePaymentIntent _

theorem seats_retrieveIfPresent (paymentIntent : ℕ) :
    (retrieveIfPresent paymentIntent).Leaves seatsFrame := by
  refine ((seats_retrievePaymentIntent _).bind fun intent => ?_).tryCatch fun e => ?_
  · trivial
  · split_ifs <;> trivial

theorem seats_resolvePendingBookingReentry (rideId : ℕ) :
    (resolvePendingBookingReentry settings passengerId rideId).Issues fun {_} c => SeatCall c := by
  refine (seats_of_leaves (leaves_sql fun _ _ => rfl)).bind fun pending => ?_
  cases pending with
  | none => trivial
  | some pending =>
    dsimp only
    split_ifs with hpublished
    · exact seats_replacePendingBooking
    · split
      · exact seats_replacePendingBooking
      · refine (seats_of_leaves (seats_retrieveIfPresent _)).bind fun found => ?_
        cases found with
        | none => exact seats_replacePendingBooking
        | some intent =>
          dsimp only
          split_ifs with hsucceeded hresumable
          · exact (seats_applyStripePaymentSucceededToBooking _ _ _).bind fun _ => trivial
          · trivial
          · exact seats_replacePendingBooking

theorem seats_getBookingById : (getBookingById passengerId bookingId).Leaves seatsFrame :=
  (leaves_sql (leaves_findFirst _)).bind fun _ => trivial

theorem seats_createBooking :
    (createBooking settings rules overlaps passengerId input requestOfferId).Issues
      fun {_} c => SeatCall c := by
  refine (Program.issues_ofExcept _).bind fun _ => ?_
  refine ((Program.issues_command _).mpr (seatCall_of_leaves (c := .clock) trivial)).bind
    fun now => ?_
  refine ((Program.issues_command _).mpr (seatCall_of_leaves (c := .randomUUID) trivial)).bind
    fun bookingId => ?_
  split_ifs with hbypass
  · exact seats_createBookingPaid
  · refine Program.Issues.bind ?_ fun reentry => Program.Issues.bind (seats_of_leaves ?_)
      fun resumed => ?_
    · unfold pendingBookingReentry
      split_ifs with hoffer
      · trivial
      · exact seats_resolvePendingBookingReentry _
    · cases reentry with
      | none => trivial
      | replace => trivial
      | applied id => exact seats_getBookingById
      | resume id paymentIntent =>
        refine seats_getBookingById.bind fun existing => ?_
        cases existing with
        | false => trivial
        | true => exact (leaves_bestEffort leaves_notify).bind fun _ => trivial
    · cases resumed with
      | false => exact seats_createBookingUnpaid
      | true => trivial

end Creation

/-! ### Payments that the rider waits for -/

section Confirmation

variable (settings : Settings) (passengerId : ℕ)

theorem seats_payableIntent : (payableIntent settings passengerId bookingId).Leaves seatsFrame := by
  refine (leaves_sql (leaves_findFirst _)).bind fun found => ?_
  cases found with
  | none => trivial
  | some found =>
    dsimp only
    split_ifs
    · trivial
    · trivial
    · trivial
    · split <;> trivial

theorem seats_confirmBookingPayment :
    (confirmBookingPayment settings passengerId bookingId).Issues fun {_} c => SeatCall c := by
  refine (seats_of_leaves (seats_payableIntent _ _)).bind fun payable => ?_
  cases payable with
  | none => trivial
  | some paymentIntent =>
    refine Program.Issues.bind (seats_of_leaves ?_) fun intent => ?_
    · exact (seats_retrievePaymentIntent _).tryCatch fun _ => trivial
    split_ifs with hsucceeded hcanceled
    · exact (seats_applyStripePaymentSucceededToBooking _ _ _).bind fun _ =>
        (seats_of_leaves seats_getBookingById).bind fun _ => trivial
    · exact seats_failBookingAndReleaseSeats.bind fun _ => trivial
    · trivial

theorem seats_resumeBookingPayment :
    (resumeBookingPayment settings passengerId bookingId).Issues fun {_} c => SeatCall c := by
  refine (seats_of_leaves (seats_payableIntent _ _)).bind fun payable => ?_
  cases payable with
  | none => trivial
  | some paymentIntent =>
    refine Program.Issues.bind (seats_of_leaves ?_) fun intent => ?_
    · exact (seats_retrievePaymentIntent _).tryCatch fun _ => trivial
    split_ifs with hsucceeded hresumable
    · exact (seats_applyStripePaymentSucceededToBooking _ _ _).bind fun _ =>
        (seats_of_leaves seats_getBookingById).bind fun _ => trivial
    · refine (seats_of_leaves seats_getBookingById).bind fun resumable => ?_
      split_ifs with hthere
      · exact seats_of_leaves (leaves_bestEffort leaves_notify)
      · trivial
    · exact seats_failBookingAndReleaseSeats.bind fun _ => trivial

end Confirmation

/-! ### Disputes -/

/-- **A settlement's write of the status** leaves the seats where they are, so that it keeps them in
line exactly if the status agrees with them. -/
theorem seatCall_writeBooking {f : Booking → Booking}
    (hf : ∀ b, (f b).seatsReservedAt = b.seatsReservedAt) :
    SeatCall (.transact (fun _ => Program.perform (update bookings bookingId f))
      fun booking => [.bookingWritten bookingId booking.status]) := by
  intro i w hw
  have hnone : w.db.SeatsFollow ↔ ∀ id status b,
      (.bookingWritten id status : Event) ∈ ([] : List Event) → w.db.bookings.get? id = some b →
        status.Agrees b :=
    iff_of_true hw fun id status b he _ => absurd he List.not_mem_nil
  cases i with
  | refused | lost => exact hnone
  | ok =>
    simp only [Call.exec]
    cases hb : Tx.atomic (Program.perform (update bookings bookingId f)) w.db with
    | error e => exact hnone
    | ok r =>
      obtain ⟨written, d'⟩ := r
      obtain ⟨row, hrow, rfl, rfl⟩ := Service.atomic_update hb
      -- seats that stay agree with the new status or do not
      have hagree : (f row).SeatsFollow ↔ (f row).status.Agrees row := by
        unfold Booking.SeatsFollow BookingStatus.Agrees
        rw [hf row]
      constructor
      · intro hfollow id status b he hb'
        obtain ⟨rfl, rfl⟩ := Event.bookingWritten.injEq .. ▸ List.mem_singleton.mp he
        obtain rfl := Option.some.inj (hrow.symm.trans hb')
        refine hagree.mp (hfollow id (f row) ?_)
        show (w.db.bookings.modify id f).get? id = some (f row)
        rw [Table.get?_modify_self, hb', Option.map_some]
      · intro hagrees
        refine hw.modify fun b hb' => ?_
        obtain rfl := Option.some.inj (hrow.symm.trans hb')
        exact hagree.mpr (hagrees _ _ _ (List.mem_singleton.mpr rfl) hrow)

theorem seats_writeBooking {f : Booking → Booking}
    (hf : ∀ b, (f b).seatsReservedAt = b.seatsReservedAt) :
    (writeBooking bookingId f).Issues fun {_} c => SeatCall c :=
  ((Program.issues_perform _).mpr (seatCall_writeBooking hf)).bind fun _ => trivial

theorem seats_writeSettledPayment (payment : Option (ℕ × Payment)) (f : Payment → Payment) :
    (writeSettledPayment payment f).Leaves seatsFrame := by
  cases payment with
  | none => trivial
  | some payment =>
    refine Program.Issues.bind ?_ fun _ => trivial
    refine (Program.issues_perform _).mpr ⟨fun ctx => (Program.issues_perform _).mpr ?_, ?_⟩
    · exact fun _ _ => rfl
    · intro written e he
      rw [List.mem_singleton.mp he]
      exact seats_paymentWritten _ _ _

theorem seats_closeDispute (disputeId now : ℕ) (status : DisputeStatus) :
    (closeDispute disputeId now status).Leaves seatsFrame :=
  (leaves_sqlOrThrow fun _ _ => rfl).bind fun _ =>
    leaves_notify.bind fun _ => leaves_notify.bind fun _ => leaves_notify

theorem seats_refundAtStripe (view : DisputeView) (amount : ℤ) :
    (refundAtStripe view amount).Leaves seatsFrame := by
  unfold refundAtStripe
  split
  · exact (seats_refundPaymentIntent _ _).bind fun _ => trivial
  · trivial

theorem seats_makeRefund (view : DisputeView) (now : ℕ) (resolution : Resolution)
    (refunding : Refunding) :
    (makeRefund view now resolution refunding).Issues fun {_} c => SeatCall c := by
  refine Program.Issues.bind ?_ fun _ => Program.Issues.bind ?_ fun refundId => ?_
  · exact (seats_writeBooking (by intros; rfl)).bind fun _ =>
      seats_of_leaves (seats_writeSettledPayment _ _)
  · exact seats_of_leaves (seats_refundAtStripe _ _)
  · refine (seats_writeBooking (by intros; rfl)).bind fun _ => ?_
    split
    · refine seats_of_leaves (Program.Issues.bind ?_ fun _ => seats_writeSettledPayment _ _)
      exact LedgerApart.recordGroup (fun _ _ => rfl) _
    · trivial

theorem seats_settleRefund (view : DisputeView) (now : ℕ) (resolution : Resolution)
    (refunding : Refunding) :
    (settleRefund view now resolution refunding).Issues fun {_} c => SeatCall c := by
  unfold settleRefund
  split_ifs with hmakes
  · exact (seats_makeRefund _ _ _ _).bind fun _ => seats_of_leaves (seats_writeSettledPayment _ _)
  · exact seats_of_leaves (seats_writeSettledPayment _ _)

theorem seats_settleDispute (input : SettlementInput) :
    (settleDispute input).Issues fun {_} c => SeatCall c := by
  refine Program.Issues.bind (seats_of_leaves (leaves_transaction fun ctx => ?_)) fun found => ?_
  · exact ((Program.issues_command _).mpr fun _ _ => rfl).bind fun _ => trivial
  obtain ⟨found, now⟩ := found
  cases found with
  | none => trivial
  | some view =>
    dsimp only
    split_ifs with hsettleable
    · unfold settleViewed
      split
      · exact seats_of_leaves (seats_closeDispute _ _ _)
      · refine Program.Issues.bind ?_ fun _ => seats_of_leaves (seats_closeDispute _ _ _)
        unfold settlePayoutResolution
        by_cases hrefunded : view.booking.existingRefund = true ∧
            100 ≤ view.booking.refundPercent.getD 0
        · rw [if_pos hrefunded]
          trivial
        · rw [if_neg hrefunded]
          exact (seats_of_leaves (seats_writeSettledPayment _ _)).bind fun _ =>
            seats_writeBooking (by intros; rfl)
      · exact (seats_settleRefund _ _ _ _).bind fun _ => seats_of_leaves (seats_closeDispute _ _ _)
      · exact (seats_settleRefund _ _ _ _).bind fun _ => seats_of_leaves (seats_closeDispute _ _ _)
    · trivial

/-! ### Which status a settlement writes -/

/-- The statuses that a settlement may write on a row, given what it has read: a refund cancels the
booking, a split leaves it disputed, and a payout writes back what was read, but for a booking that was
disputed. The date of a refund is written beside whatever status is there. -/
def Resolution.Writes (resolution : Resolution) (view : DisputeView) (row : Booking)
    (status : BookingStatus) : Prop :=
  match resolution with
  | .refund => status = .cancelled ∨ status = row.status
  | .split => status = .disputed ∨ status = row.status
  | .payout => status = if view.booking.status = .disputed then .completed else view.booking.status
  | .escalate => False

/-- What a step of a settlement reports: a status of its own resolution, on its own booking. -/
def SettlementWrites (view : DisputeView) (resolution : Resolution) {β : Type} (c : Call β) : Prop :=
  ∀ i w id status, .bookingWritten id status ∈ (c.exec i w).2.1 → id = view.bookingId ∧
    ∃ row, w.db.bookings.get? id = some row ∧ resolution.Writes view row status

section Settlement

variable {view : DisputeView} {resolution : Resolution}

theorem settlementWrites_of_leaves {p : Service α} (h : p.Leaves seatsFrame) :
    p.Issues fun {_} c => SettlementWrites view resolution c :=
  h.mono fun _ hc i w id status he => absurd rfl ((hc.exec i w).2.2 _ he id status)

theorem settlementWrites_writeBooking {f : Booking → Booking}
    (hf : ∀ row, resolution.Writes view row (f row).status) :
    (writeBooking view.bookingId f).Issues fun {_} c => SettlementWrites view resolution c := by
  refine ((Program.issues_perform _).mpr fun i w id status he => ?_).bind fun _ => trivial
  obtain ⟨written, d, hbody, hexec⟩ | ⟨e, hexec⟩ := exec_transact
    (fun _ => Program.perform (update bookings view.bookingId f))
    (fun booking => [.bookingWritten view.bookingId booking.status]) i w
  · obtain ⟨row, hrow, rfl, -⟩ := Service.atomic_update hbody
    rw [hexec] at he
    obtain ⟨rfl, rfl⟩ := Event.bookingWritten.injEq .. ▸ List.mem_singleton.mp he
    exact ⟨rfl, row, hrow, hf row⟩
  · rw [hexec] at he
    cases he

theorem settlementWrites_settleRefund {now : ℕ} {refunding : Refunding}
    (hwrites : ∀ row, resolution.Writes view row (refunding.writeOn resolution row).status)
    (hsame : ∀ row, resolution.Writes view row row.status) :
    (settleRefund view now resolution refunding).Issues fun {_} c =>
      SettlementWrites view resolution c := by
  have hsettled : ∀ f, (writeSettledPayment view.payment f).Issues fun {_} c =>
      SettlementWrites view resolution c :=
    fun f => settlementWrites_of_leaves (seats_writeSettledPayment _ _)
  -- two writes on the booking: the refund announced, and its date, which leaves the status
  have hmakes : (makeRefund view now resolution refunding).Issues fun {_} c =>
      SettlementWrites view resolution c := by
    refine Program.Issues.bind ?_ fun _ => Program.Issues.bind ?_ fun refundId => ?_
    · exact (settlementWrites_writeBooking hwrites).bind fun _ => hsettled _
    · exact settlementWrites_of_leaves (seats_refundAtStripe _ _)
    · refine Program.Issues.bind (settlementWrites_writeBooking ?_) fun _ => ?_
      · exact fun row => hsame row
      split
      · refine (settlementWrites_of_leaves ?_).bind fun _ => hsettled _
        exact LedgerApart.recordGroup (fun _ _ => rfl) _
      · trivial
  unfold settleRefund
  split_ifs
  · exact hmakes.bind fun _ => hsettled _
  · exact hsettled _

/-- **Every status that a settlement writes** is one of its resolution. -/
theorem settleViewed_writes (input : SettlementInput) (view : DisputeView) (now : ℕ) :
    (settleViewed input view now).Issues fun {_} c =>
      SettlementWrites view input.resolution c := by
  obtain ⟨disputeId, resolution, refundPercent⟩ := input
  have hclose : ∀ status, (closeDispute disputeId now status).Issues fun {_} c =>
      SettlementWrites view resolution c :=
    fun status => settlementWrites_of_leaves (seats_closeDispute _ _ _)
  cases resolution with
  | escalate => exact hclose _
  | payout =>
    refine Program.Issues.bind ?_ fun _ => hclose _
    unfold settlePayoutResolution
    by_cases hrefunded : view.booking.existingRefund = true ∧
        100 ≤ view.booking.refundPercent.getD 0
    · rw [if_pos hrefunded]
      trivial
    · rw [if_neg hrefunded]
      exact (settlementWrites_of_leaves (seats_writeSettledPayment _ _)).bind fun _ =>
        settlementWrites_writeBooking fun row => rfl
  | refund =>
    refine (settlementWrites_settleRefund ?_ ?_).bind fun _ => hclose _
    · exact fun row => Or.inl rfl
    · exact fun row => Or.inr rfl
  | split =>
    refine (settlementWrites_settleRefund ?_ ?_).bind fun _ => hclose _
    · exact fun row => Or.inl rfl
    · exact fun row => Or.inr rfl

/-- So it agrees with the seats, if a booking that is refunded holds none, and the status that a payout
writes back still agrees with them. -/
theorem Resolution.Writes.agrees {row : Booking} {status : BookingStatus}
    (h : resolution.Writes view row status) (hrow : row.SeatsFollow)
    (hrefund : resolution = .refund → row.seatsReservedAt = none)
    (hpayout : resolution = .payout → view.booking.status.Agrees row) : status.Agrees row := by
  cases resolution with
  | escalate => exact h.elim
  | refund =>
    rcases h with rfl | rfl
    · intro held hheld
      obtain rfl := Option.some.inj hheld
      rw [hrefund rfl]
      rfl
    · exact hrow
  | split =>
    rcases h with rfl | rfl
    · -- a booking in dispute may hold its seats or not
      exact fun held hheld => by cases hheld
    · exact hrow
  | payout =>
    obtain rfl := h
    split_ifs
    · exact fun held hheld => by cases hheld
    · exact hpayout rfl

end Settlement

end Payments

/-- Every step of the calls keeps the seats in line, or reports the status that it writes. -/
theorem opsConfined_seats : Pool.OpsConfined seatPool fun _ {_} c => SeatCall c := by
  intro op
  cases op with
  | createBooking settings rules overlaps passengerId input requestOfferId =>
    exact seats_createBooking.emits
  | paymentSucceeded settings paymentIntent intent =>
    exact (seats_applyStripePaymentSucceededToBooking settings paymentIntent intent).emits_discard
  | paymentFailed intent => exact (seats_applyPaymentIntentFailed intent).emits
  | confirmPayment settings passengerId bookingId =>
    exact (seats_confirmBookingPayment settings passengerId).emits
  | resumePayment settings passengerId bookingId =>
    exact (seats_resumeBookingPayment settings passengerId).emits
  | acceptBooking driverId bookingId => exact (seats_acceptBooking driverId).emits
  | rejectBooking settings driverId bookingId =>
    exact (seats_rejectBooking settings driverId).emits
  | cancelAfterAccept settings driverId bookingId =>
    exact (seats_cancelAfterAccept settings driverId).emits
  | cancelBooking passengerId bookingId => exact (seats_cancelBooking passengerId).emits
  | withdrawBooking settings passengerId bookingId =>
    exact (seats_withdrawBooking settings passengerId).emits
  | expireUnpaidBooking bookingId => exact seats_expireUnpaidBooking.emits_discard
  | handleExtendedDeadline settings bookingId => exact (seats_handleExtendedDeadline settings).emits
  | cancelRide settings driverId rideId => exact (seats_cancelRide settings driverId rideId).emits
  | closeOverdueUnstartedRide rideId ride rideBookings =>
    exact (seats_closeOverdueUnstartedRide rideId ride rideBookings).emits
  | settleDispute input => exact (seats_settleDispute input).emits

/-! ## Whole runs -/

/-- The pool before any call has been started. -/
def seatStart (w : World) : Pool Call Err Event World SeatOp := { now := { state := w } }

/-- **Seats follow the status** in every state of an interleaving exactly if every status that a
settlement writes agrees with the seats that the booking holds when it is written. -/
theorem seats_follow_status (w : World) (hw : w.db.SeatsFollow)
    (moves : List (Move SeatOp Reply World)) :
    History.Always (Pool.step seatPool) (fun p => p.now.state.db.SeatsFollow) (seatStart w) moves ↔
      History.Each (Pool.step seatPool) (Pool.Meets seatPool SeatStep fun _ _ => True) (seatStart w)
        moves := by
  have hstart : Pool.Confined seatPool (fun _ {_} c => SeatCall c) (seatStart w) :=
    fun t ht => absurd ht List.not_mem_nil
  refine Pool.always_iff_each_of_confined (Q := fun x => x.state.db.SeatsFollow) opsConfined_seats
    ?_ ?_ hstart hw moves
  · intro op tid β c i x b es s hcall hexec hx
    obtain ⟨rfl, rfl, rfl⟩ : (c.exec i x.state).1 = b ∧ (c.exec i x.state).2.1 = es ∧
        (c.exec i x.state).2.2 = s := by
      have heq := Option.some.inj hexec
      rw [heq]
      exact ⟨rfl, rfl, rfl⟩
    exact hcall i x.state hx
  · -- whatever else goes on leaves the bookings alone
    intro w' x hx
    exact iff_of_true hx trivial

/-! ## Runs -/

section Runs

/-- A completed booking, with its seats or without, and a dispute about it. -/
private def disputedSeats (seatsReservedAt : Option ℕ) : World where
  db := {
    rides := .single 1 {
      driverId := 9, totalSeats := 3, availableSeats := 2, status := .completed,
      departureAt := 100 }
    bookings := .single 7 {
      rideId := 1, passengerId := 2, seatsBooked := 1, totalPrice := 1020,
      status := .completed, seatsReservedAt }
    disputes := .single 4 { bookingId := 7 } }

/-- A settlement for the rider, up to its first write. -/
private def settledForRider : List (Move SeatOp Reply World) :=
  [.start (.settleDispute { disputeId := 4, resolution := .refund }), .step 0 .ok, .step 0 .ok]

private theorem seatsFollow_disputedSeats (seatsReservedAt : Option ℕ) :
    (disputedSeats seatsReservedAt).db.SeatsFollow := by
  intro id b hb held hheld
  have hstatus : b.status = .completed := by
    obtain ⟨-, rfl⟩ := Prod.mk.injEq .. ▸ List.mem_singleton.mp (Table.mem_rows_iff.mpr hb)
    rfl
  rw [hstatus] at hheld
  cases hheld

set_option maxRecDepth 100000 in
/-- A refunded rider whose booking holds nothing any more. -/
theorem refunded_rider_holds_nothing :
    History.Always (Pool.step seatPool) (fun p => p.now.state.db.SeatsFollow)
      (seatStart (disputedSeats none)) settledForRider := by
  refine (seats_follow_status _ (seatsFollow_disputedSeats none) _).mpr ⟨trivial, ?_, ?_, trivial⟩
  · rintro op rest ⟨⟩ b es s ⟨⟩ id status b hmem
    cases hmem
  · -- only with everything unfolded is the amount that is refunded computed
    with_unfolding_all rintro op rest ⟨⟩ b es s ⟨⟩ id status b hmem hb
    obtain ⟨rfl, rfl⟩ := Event.bookingWritten.injEq .. ▸ List.mem_singleton.mp hmem
    obtain rfl := Option.some.inj hb
    intro held hheld
    obtain rfl := Option.some.inj hheld
    rfl

/-- A settlement for the rider cancels the booking and leaves it its seats. -/
theorem cancelled_booking_keeps_seats :
    ¬ History.Always (Pool.step seatPool) (fun p => p.now.state.db.SeatsFollow)
      (seatStart (disputedSeats (some 50))) settledForRider := by
  intro h
  have hrow : ((History.after (Pool.step seatPool) (seatStart (disputedSeats (some 50)))
      settledForRider).now.state.db.bookings.get? 7).any
      (fun b => b.status == .cancelled && b.seatsReservedAt == some 50) = true := by
    decide +kernel
  obtain ⟨b, hb, hfacts⟩ := (Option.any_eq_true ..).mp hrow
  simp only [Bool.and_eq_true, beq_iff_eq] at hfacts
  have hagrees := h.last 7 b hb false (by rw [hfacts.1]; rfl)
  rw [hfacts.2] at hagrees
  cases hagrees

end Runs

end Deliivo
