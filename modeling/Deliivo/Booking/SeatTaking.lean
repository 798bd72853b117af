import Deliivo.Booking.SeatReserve

/-!
# The transactions that take seats

A captured payment takes the seats of its booking, a booking that is created paid takes them at once, and
one that is created unpaid takes none.

## Main results

* `body_claimCapturedBooking`, `body_createPaidBooking`, `body_createUnpaidBooking`: they may be committed
  wherever they end
-/

namespace Deliivo

open Program (Guarded Underway)

variable {α : Type} {t : Underway Db Row} {d x v v' : Db} {id : ℕ}

/-! ## Requests -/

section Requests

variable {bookingId : ℕ} {ctx : Ctx}

/-- Matching a request moves the booking to a status that is not waiting for a payment. -/
theorem quiet_matchRequest (view : OfferView) :
    (matchRequest ctx bookingId view).Issues Stmt.SeatQuiet := by
  refine ((Program.issues_perform _).mpr (quiet_update fun b => ?_)).bind fun _ => ?_
  · exact seatsAlike_of_status rfl (by rintro ⟨⟩)
  refine ((Program.issues_perform _).mpr (quiet_updateRide ?_)).bind fun _ => ?_
  · exact fun _ => ⟨rfl, rfl⟩
  refine ((Program.issues_perform _).mpr (quiet_of_leaves fun _ _ => rfl)).bind fun _ => ?_
  refine ((Program.issues_perform _).mpr (quiet_of_leaves fun _ _ => rfl)).bind fun _ => ?_
  exact ((Program.issues_command _).mpr (quiet_of_leaves fun _ _ => rfl)).bind fun _ => trivial

theorem quiet_confirmRequestBooking (feePercent : Option ℚ) :
    (confirmRequestBooking feePercent ctx bookingId).Issues Stmt.SeatQuiet := by
  refine ((Program.issues_command _).mpr fun _ _ => .refl _).bind fun found => ?_
  cases found with
  | none => trivial
  | some view =>
    dsimp only
    split_ifs with hstatus hdeparted
    · trivial
    · trivial
    · cases view.booking with
      | none => trivial
      | some booking =>
        dsimp only
        split_ifs with hintent
        · exact (quiet_of_seatRows (leaves_ensureRequestPayment (fun _ _ => rfl) _ _ _ _)).bind
            fun _ => quiet_matchRequest _
        · exact quiet_matchRequest _

end Requests

/-! ## Bodies that nobody can tell from none -/

/-- What a quiet body leaves as it was. -/
theorem body_quiet {R : Db → Db → Prop} {p : Tx α} (hinv : seatGuard.Inv d)
    (hR : ∀ x v v', R x v → SeatsUnseen v v' → R x v') (hp : p.Issues Stmt.SeatQuiet)
    (h : seatGuard.Relates R t d) :
    seatGuard.Body Stmt.statement (fun _ t' d' => seatGuard.Relates R t' d' ∧
      (∀ row ∈ t.rows, row ∈ t'.rows) ∧ seatGuard.Elapse t.rows d d') p t d :=
  Guarded.Body.frame hinv <|
    Guarded.Body.relates (hp.mono fun _ hc seen x v hx => hR x v _ hx (hc seen v)) h

/-- A transaction that is related to what is committed so that it may be committed. -/
theorem ends_of_relates {R : Db → Db → Prop} {a : α} (h : seatGuard.Relates R t d)
    (hR : ∀ x v, R x v → seatGuard.Inv x → seatGuard.Keeps t.rows x v) :
    seatGuard.Ends (Service.Outcome fun _ _ => True) (.ok a) t d :=
  fun x hx => ⟨hR x _ (h x hx) hx.inv, trivial⟩

/-! ## A captured payment -/

/-- A booking is written so that it holds its seats. -/
theorem claimed_modify {f : Booking → Booking} {b : Booking} (hb : x.bookings.get? id = some b)
    (hunheld : b.seatColumns.held = false)
    (hf : (f b).seatColumns = { b.seatColumns with held := true }) (hpaid : (f b).unpaid = false) :
    Claimed id { b.seatColumns with held := true } x
      { x with bookings := x.bookings.modify id f } := by
  have hrow : x.seatColumns id = some b.seatColumns := Table.viewed_of_get? hb
  refine ⟨⟨rfl, fun c' hc' => ?_, fun j => ?_, fun j hj => ?_, fun r hr => ?_, ?_⟩, rfl, rfl⟩
  · obtain rfl := Option.some.inj (hrow.symm.trans hc')
    exact ⟨hunheld, rfl, rfl⟩
  · refine (Table.viewed_modify (t := x.bookings) id j).trans ?_
    split_ifs
    · rw [hb, Option.map_some, Function.comp_apply, hf]
    · rfl
  · have hj' : ((x.bookings.modify id f).get? j).any Booking.unpaid = true := hj
    rw [Table.get?_modify] at hj'
    split_ifs at hj' with hid
    · rw [hid, hb, Option.map_some, Option.any_some, hpaid] at hj'
      cases hj'
    · exact ⟨hj', hid⟩
  · have hother : b.rideId ≠ r := fun heq => hr heq.symm
    refine congrArg (RideSeats.mk _ _) (Table.select_modify_of_same fun b' hb' => ?_)
    obtain rfl := Option.some.inj (hb.symm.trans hb')
    rw [heldOn_eq, heldOn_eq, hf]
    simp [Booking.seatColumns, hother]
  · refine Table.select_modify_some hb ?_ ?_
    · simp [heldOn_eq, hunheld]
    · rw [heldOn_eq, hf]
      simp

/-- What is found of a booking that has been claimed. -/
theorem Claimed.found {c : SeatColumns} {booking : Booking} {ride : Ride} (h : Claimed id c x v)
    (hfound : (findBookingWithRide id).answer v = some (booking, ride)) :
    booking.rideId = c.rideId ∧ booking.seats = c.seats ∧
      x.rides.viewed Ride.totalSeats c.rideId = some ride.totalSeats := by
  obtain ⟨hb, hr⟩ := findBookingWithRide_eq_some.mp hfound
  have hrow : v.seatColumns id = some booking.seatColumns := Table.viewed_of_get? hb
  rw [h.columns, if_pos rfl] at hrow
  obtain rfl := Option.some.inj hrow
  refine ⟨rfl, rfl, ?_⟩
  rw [viewed_totalSeats, ← h.capacity, ← viewed_totalSeats]
  exact Table.viewed_of_get? hr

theorem found_of_ok {found : Booking × Ride}
    (h : (findBookingWithRideOrThrow id).answer v = .ok found) :
    (findBookingWithRide id).answer v = some found := by
  simp only [findBookingWithRideOrThrow] at h
  cases hfound : (findBookingWithRide id).answer v with
  | none =>
    rw [hfound] at h
    cases h
  | some found' =>
    rw [hfound] at h
    exact congrArg some (Except.ok.inj h)

/-- A ride keeps its number of seats for good. -/
theorem lasting_total (rideId : ℕ) (total : ℤ) :
    seatGuard.Lasting fun d => d.rides.viewed Ride.totalSeats rideId = some total := by
  intro d d' hd hstep
  obtain ⟨total', htotal, rfl⟩ := hstep.rides rideId total hd
  exact htotal

/-- The seats of a booking that has been claimed are taken once they are written. -/
theorem relates_taken {c : SeatColumns} {hold : SeatHold} {t' : Underway Db Row}
    (hreserved : Reserved hold t t' d) (h : seatGuard.Relates (Claimed id c) t d)
    (hride : hold.rideId = c.rideId) (hseats : hold.seats = c.seats)
    (htotal : d.rides.viewed Ride.totalSeats c.rideId = some hold.totalSeats) :
    seatGuard.Relates (Taken id c) t' d := by
  obtain ⟨hrows, -, seen, available, hpending, hcommitted⟩ := hreserved
  intro x hx
  obtain ⟨hseen, havailable, hfits⟩ := hcommitted x hx
  rw [hpending]
  exact (h x (hx.mono hrows)).take hride hseats (lasting_total _ _ _ _ htotal hx.step) hseen
    havailable hfits

section Claim

variable {settings : Settings} {bookingId paymentIntent now : ℕ} {intent : Intent} {ctx : Ctx}

/-- What the claim writes: the booking holds its seats, whatever is committed meanwhile. -/
theorem relates_claimed {b : Booking} (hinv : d.SeatsKept)
    (hb : d.bookings.get? bookingId = some b) (hpending : b.status = .paymentPending)
    (hlock : Row.booking bookingId ∈ t.rows)
    (ht : ∀ x, t.pending x = { x with
      bookings := x.bookings.modify bookingId (Booking.withCapture paymentIntent intent now) }) :
    seatGuard.Relates (Claimed bookingId { b.seatColumns with held := true }) t d := by
  intro x hx
  have hrow : d.seatColumns bookingId = some b.seatColumns := Table.viewed_of_get? hb
  have hunheld : b.seatColumns.held = false :=
    hinv.unpaid bookingId _ hrow (by simp [Db.unpaid, hb, Booking.unpaid, hpending])
  -- the lock keeps the columns as they were found
  have hsame : x.seatColumns bookingId = d.seatColumns bookingId := hx.same _ hlock
  obtain ⟨b', hb', hcolumns⟩ := Table.viewed_eq_some.mp (hsame.trans hrow)
  rw [ht, ← hcolumns]
  exact claimed_modify hb' (hcolumns ▸ hunheld) rfl rfl

/-- **Applying a payment** may be committed wherever it ends. -/
theorem body_claimCapturedBooking :
    seatGuard.Body Stmt.statement (seatGuard.Ends (Service.Outcome fun _ _ => True))
      (claimCapturedBooking settings bookingId paymentIntent intent now ctx) {} d := by
  refine Guarded.Body.command_bind fun d₁ hd₁ => ?_
  split_ifs with hnone
  · have hrun := run_of_none (t := {}) (f := Booking.withCapture paymentIntent intent now) hnone
    rw [hrun]
    exact Service.Returns.ends (fun _ => Service.lasting_true _) ⟨Guarded.ready_open _, trivial⟩
  obtain ⟨⟨b, hb, hP⟩, hlock, hwrite⟩ := write_of_some
    (fun j b hj => (isPendingBooking_iff.mp hj).1) hnone
  have hclaimed := relates_claimed (t := Underway.run {} (updateMany bookings (isPendingBooking
    bookingId) (Booking.withCapture paymentIntent intent now)).statement d₁) hd₁.inv hb
    (isPendingBooking_iff.mp hP).2 (List.mem_append_right _ hlock) fun x => hwrite x
  have hseats : 0 ≤ b.seatColumns.seats.seatsBooked :=
    hd₁.inv.seats bookingId _ (Table.viewed_of_get? hb)
  refine Guarded.Body.perform_bind (fun d₂ found hd₂ hfound => ?_) fun _ _ _ _ _ _ => trivial
  obtain ⟨booking, ride⟩ := found
  -- what is found is the booking that has been claimed, and its ride
  obtain ⟨hride, hbooked, htotal⟩ := (hclaimed d₂ hd₂).found (found_of_ok hfound)
  have hrel := (hclaimed.elapse hd₂).run (c := (findBookingWithRideOrThrow bookingId).statement)
    (S := Claimed bookingId { b.seatColumns with held := true }) fun _ _ h => h
  refine Guarded.Body.bind ((body_quiet hd₂.inv (fun _ _ _ h => h.unseen)
    (quiet_confirmRequestBooking _) hrel).mono ?_)
  rintro (e | u) t₃ d₃ ⟨hrel₃, hrows₃, hd₃⟩
  · exact fun _ _ => trivial
  refine Guarded.Body.bind ((Guarded.Body.frame hd₃.inv
    (body_reserveSeatsForBooking fun x hx => (hrel₃ x hx).counts hride)).mono ?_)
  rintro (e | u) t₄ d₄ ⟨hreserved, hrows₄, hd₄⟩
  · exact fun _ _ => trivial
  have htotal₄ := lasting_total _ _ _ _ htotal (seatGuard.step_trans hd₃.step hd₄.step)
  have htaken := relates_taken (hreserved rfl) (hrel₃.elapse hd₄) hride hbooked htotal₄
  refine ends_of_relates htaken fun x v h hx => h.keeps hx hseats ?_ ?_
  · exact hrows₄ _ (hrows₃ _ (Underway.mem_run (List.mem_append_right _ hlock)))
  · exact hride ▸ (hreserved rfl).lock

end Claim

/-! ## Bookings that begin -/

/-- A row under a new key. -/
def insertBooking (id : ℕ) (booking : Booking) (v : Db) : Db :=
  { v with bookings := v.bookings.insert id booking }

section Insert

variable {booking : Booking} {hold : SeatHold} {seen : Db} {available : ℤ}

theorem get?_of_columns (h : v.seatColumns id = none) : v.bookings.get? id = none :=
  Option.map_eq_none_iff.mp h

theorem columns_insertBooking (h : v.seatColumns id = none) (j : ℕ) :
    (insertBooking id booking v).seatColumns j =
      if j = id then some booking.seatColumns else v.seatColumns j := by
  have hrow : (v.bookings.insert id booking).get? j =
      if j = id then some booking else v.bookings.get? j := Table.get?_insert (get?_of_columns h) booking j
  show ((v.bookings.insert id booking).get? j).map Booking.seatColumns = _
  rw [hrow]
  split_ifs <;> rfl

theorem unpaid_insertBooking (h : v.seatColumns id = none) (j : ℕ) :
    (insertBooking id booking v).unpaid j = if j = id then booking.unpaid else v.unpaid j := by
  have hrow : (v.bookings.insert id booking).get? j =
      if j = id then some booking else v.bookings.get? j := Table.get?_insert (get?_of_columns h) booking j
  show ((v.bookings.insert id booking).get? j).any Booking.unpaid = _
  rw [hrow]
  split_ifs <;> rfl

theorem holders_insertBooking (h : v.seatColumns id = none) (r : ℕ) :
    ((insertBooking id booking v).rideSeats r).holders =
      (v.rideSeats r).holders ++ ((booking.heldOn r).map (Prod.mk id)).toList := by
  show (v.bookings.insert id booking).select (Booking.heldOn r) = _
  cases hheld : booking.heldOn r with
  | none => rw [Table.select_insert_none hheld, Option.map_none, Option.toList_none, List.append_nil]; rfl
  | some held => exact Table.select_insert_some (get?_of_columns h) hheld

/-- Seats that are written, and then the booking that holds them. -/
theorem taken_insert (hunseen : SeatsUnseen x v) (habsent : x.seatColumns id = none)
    (hheld : booking.seatColumns.held = true) (hpaid : booking.unpaid = false)
    (hride : hold.rideId = booking.rideId) (hseats : hold.seats = booking.seats)
    (htotal : x.rides.viewed Ride.totalSeats hold.rideId = some hold.totalSeats)
    (hseen : (seen.rideSeats hold.rideId).edges = (x.rideSeats hold.rideId).edges)
    (havailable : available = hold.totalSeats - (x.rideSeats hold.rideId).taken - hold.seatsBooked)
    (hfits : (x.rideSeats hold.rideId).taken + hold.seatsBooked ≤ hold.totalSeats) :
    Taken id booking.seatColumns x (insertBooking id booking (takeIn hold seen available v)) := by
  have hbooks := books_takeIn hold seen available v
    (by rw [hunseen.books, hseen])
  have hcolumns : (takeIn hold seen available v).seatColumns = x.seatColumns := by
    rw [columns_takeIn, hunseen.columns]
  have hnone : (takeIn hold seen available v).seatColumns id = none := hcolumns ▸ habsent
  have hbooked : hold.seatsBooked = booking.seats.seatsBooked := congrArg HeldSeats.seatsBooked hseats
  -- the new booking holds its seats beside those who did
  have hholders : ((insertBooking id booking (takeIn hold seen available v)).rideSeats
      booking.rideId).holders.Perm ((id, booking.seats) :: (x.rideSeats booking.rideId).holders) := by
    have hon : booking.heldOn booking.rideId = some booking.seats := by
      rw [heldOn_eq, hheld]
      simp [Booking.seatColumns]
    rw [holders_insertBooking hnone, hon, hbooks, if_pos hride.symm, hunseen.books]
    exact List.perm_append_singleton _ _
  refine ⟨⟨hheld, fun c' hc' => ?_, fun j => ?_, fun j hj => ?_, fun r hr => ?_, hholders⟩,
    hholders, ?_, ?_, ?_⟩
  · rw [habsent] at hc'
    cases hc'
  · rw [columns_insertBooking hnone, hcolumns]
  · rw [unpaid_insertBooking hnone] at hj
    split_ifs at hj with hid
    · rw [hpaid] at hj
      cases hj
    · rw [unpaid_takeIn] at hj
      exact ⟨hunseen.unpaid j hj, hid⟩
  · -- the books of other rides are not touched
    have hother : booking.heldOn r = none := by
      have hne : booking.rideId ≠ r := fun heq => hr heq.symm
      simp [heldOn_eq, Booking.seatColumns, hne]
    have hsame := hbooks r
    rw [if_neg (hride ▸ hr), hunseen.books] at hsame
    rw [← hsame]
    refine congrArg (RideSeats.mk _ _) ?_
    exact (holders_insertBooking hnone r).trans (by rw [hother]; exact List.append_nil _)
  · have hedges := congrArg RideSeats.edges (hbooks booking.rideId)
    rw [if_pos hride.symm, hunseen.books, hseats] at hedges
    exact hedges
  · have hcapacity := congrArg RideSeats.capacity (hbooks booking.rideId)
    rw [if_pos hride.symm, hunseen.books] at hcapacity
    refine hcapacity.trans (Option.map_congr fun capacity hcap => ?_)
    rw [total_of_viewed (hride ▸ htotal) hcap, havailable, hbooked, hride]
    rfl
  · intro capacity hcap
    rw [hride, hbooked] at hfits
    rw [total_of_viewed (hride ▸ htotal) hcap]
    exact hfits

end Insert

section Creation

variable {settings : Settings} {rules : BookingRules} {overlaps : ℕ → ℕ → Db → Bool}
  {passengerId bookingId : ℕ} {input : CreateBookingInput} {requestOfferId : Option ℕ} {now : ℕ}
  {ctx : Ctx}

/-- Nothing is written yet. -/
theorem relates_open (d : Db) : seatGuard.Relates SeatsUnseen {} d := fun x _ => .refl x

theorem quiet_linkPaidOffer :
    (linkPaidOffer settings requestOfferId bookingId ctx).Issues Stmt.SeatQuiet := by
  unfold linkPaidOffer
  split
  · trivial
  · exact ((Program.issues_perform _).mpr (quiet_of_leaves fun _ _ => rfl)).bind fun _ =>
      quiet_confirmRequestBooking _

theorem ride_of_planOn {ride : Ride} {plan : BookingPlan}
    (h : planOn settings rules input ride now = .ok plan) : plan.ride = ride := by
  unfold planOn at h
  split at h
  · cases h
  split at h
  · cases h
  split at h
  · cases h
  · exact Except.ok.inj h ▸ rfl

/-- What a plan says: a seat at least is asked for, and the ride is the one that is asked for. -/
theorem body_resolveBookingPlan {answersRequest : Bool} (h : seatGuard.Relates SeatsUnseen t d) :
    seatGuard.Body Stmt.statement (fun r t' d' => seatGuard.Relates SeatsUnseen t' d' ∧
      ∀ plan, r = .ok plan → 1 ≤ input.seatsBooked ∧
        d'.rides.viewed Ride.totalSeats input.rideId = some plan.ride.totalSeats)
      (resolveBookingPlan settings rules passengerId input now answersRequest) t d := by
  unfold resolveBookingPlan
  generalize (if answersRequest = true then RideStatus.draft else .published) = bookable
  refine Guarded.Body.command_bind fun d₁ hd₁ => ?_
  have hrel := (h.elapse hd₁).run (c := (findFirst rides fun id r =>
    id == input.rideId && r.status == bookable).statement) (S := SeatsUnseen) fun _ _ hx => hx
  split
  · exact ⟨hrel, fun plan hplan => by cases hplan⟩
  rename_i rideId ride hfound
  -- the ride read keeps its seats while the transaction runs
  have hride : d₁.rides.viewed Ride.totalSeats input.rideId = some ride.totalSeats := by
    obtain ⟨hget, hP⟩ := Table.mem_filter_iff.mp (List.mem_of_head? hfound)
    obtain rfl : rideId = input.rideId := beq_iff_eq.mp (Bool.and_eq_true_iff.mp hP).1
    rw [← totalSeats_of_books (h d₁ hd₁).books]
    exact Table.viewed_of_get? hget
  -- at least one seat, by the check before the second read
  cases hcheck : checkRide rules passengerId input ride now with
  | error e => exact ⟨hrel, fun plan hplan => by cases hplan⟩
  | ok u =>
    have hseats : 1 ≤ input.seatsBooked := by
      unfold checkRide at hcheck
      split_ifs at hcheck with hwindow hown hblocked hseats
      omega
    refine Guarded.Body.command_bind fun d₂ hd₂ => ?_
    have hrel₂ := (hrel.elapse hd₂).run (c := (findFirst bookings
      (isActiveBookingOf input.rideId passengerId)).statement) (S := SeatsUnseen) fun _ _ hx => hx
    split_ifs with hexisting
    · exact ⟨hrel₂, fun plan hplan => by cases hplan⟩
    cases hplanOn : planOn settings rules input ride now with
    | error e => exact ⟨hrel₂, fun plan hplan => by cases hplan⟩
    | ok plan =>
      refine ⟨hrel₂, fun plan' hplan => ?_⟩
      obtain rfl := Except.ok.inj hplan
      exact ⟨hseats, ride_of_planOn hplanOn ▸ lasting_total _ _ _ _ hride hd₂.step⟩

/-- A row that is written under a new key is new to everybody until the commit. -/
theorem absent_of_created (booking : Booking) {d' : Db} (hrow : d.seatColumns id = v.seatColumns id)
    (h : (createBookingRow id booking).answer v = .ok ())
    (hsame : seatGuard.same (.booking id) d d') : d'.seatColumns id = none := by
  have hv : v.bookings.get? id = none := by
    simp only [createBookingRow] at h
    split_ifs at h with hsome
    simpa using hsome
  exact (hsame.trans hrow).trans (Option.map_eq_none_iff.mpr hv)

/-- **A booking that is created paid** may be committed wherever it ends. -/
theorem body_createPaidBooking (hinv : seatGuard.Inv d) :
    seatGuard.Body Stmt.statement (seatGuard.Ends (Service.Outcome fun _ _ => True))
      (createPaidBooking settings rules overlaps passengerId input requestOfferId now bookingId ctx)
      {} d := by
  refine Guarded.Body.bind ((body_quiet hinv (fun _ _ _ h hv => h.trans hv)
    (quiet_of_seatRows (leaves_reserveOfferOf (fun _ _ => rfl) (fun _ _ => rfl)))
    (relates_open d)).mono ?_)
  rintro (e | u) t₁ d₁ ⟨hrel₁, -, hd₁⟩
  · exact fun _ _ => trivial
  refine Guarded.Body.bind ((Guarded.Body.frame hd₁.inv (body_resolveBookingPlan hrel₁)).mono ?_)
  rintro (e | plan) t₂ d₂ ⟨⟨hrel₂, hplan⟩, -, hd₂⟩
  · exact fun _ _ => trivial
  obtain ⟨hseats, htotal⟩ := hplan plan rfl
  refine Guarded.Body.bind ((Guarded.Body.frame hd₂.inv
    (body_reserveSeatsForBooking fun x hx => ?_)).mono ?_)
  · -- nothing is taken yet, and what is counted is what is committed
    have hunseen := hrel₂ x hx
    rw [CountsRide, heldSeats_none, hunseen.books]
    exact ⟨rfl, rfl⟩
  rintro (e | u) t₃ d₃ ⟨hreserved, -, hd₃⟩
  · exact fun _ _ => trivial
  refine Guarded.Body.perform_bind (fun d₄ u hd₄ hcreated => ?_) fun _ _ _ _ _ _ => trivial
  obtain ⟨hrows, hlock, seen, available, hpending, hcommitted⟩ := hreserved rfl
  have htaken : seatGuard.Relates
      (Taken bookingId (plan.paidBooking passengerId input now).seatColumns)
      (t₃.run (createBookingRow bookingId (plan.paidBooking passengerId input now)).statement d₄)
      d₄ := by
    intro x hx
    have hx₃ := hd₄.trans (hx.mono fun r hr => Underway.mem_run hr)
    obtain ⟨hseen, havailable, hfits⟩ := hcommitted x hx₃
    change Taken _ _ x (insertBooking bookingId _ (t₃.pending x))
    rw [hpending]
    refine taken_insert (hrel₂ x (hd₃.trans (hx₃.mono hrows))) ?_ rfl rfl rfl rfl ?_ hseen
      havailable hfits
    · refine absent_of_created (plan.paidBooking passengerId input now) ?_ hcreated
        (hx.same _ (List.mem_append_right _ (List.mem_singleton_self _)))
      rw [hpending, columns_takeIn, (hrel₂ d₄ (hd₃.trans (hd₄.mono hrows))).columns]
    · exact lasting_total _ _ _ _ htotal (seatGuard.step_trans hd₃.step hx₃.step)
  refine Guarded.Body.bind ((body_quiet hd₄.inv (fun _ _ _ h => h.unseen) quiet_linkPaidOffer
    htaken).mono ?_)
  rintro (e | u) t₅ d₅ ⟨hrel₅, hrows₅, hd₅⟩
  · exact fun _ _ => trivial
  refine Guarded.Body.bind ((body_quiet hd₅.inv (fun _ _ _ h => h.unseen)
    (quiet_of_seatRows (leaves_createPayment fun _ _ => rfl)) hrel₅).mono ?_)
  rintro (e | paymentId) t₆ d₆ ⟨hrel₆, hrows₆, hd₆⟩
  · exact fun _ _ => trivial
  refine ends_of_relates hrel₆ fun x v h hx => h.keeps hx (zero_le_one.trans hseats) ?_ ?_
  · exact hrows₆ _ (hrows₅ _ (List.mem_append_right _ (List.mem_singleton_self _)))
  · exact hrows₆ _ (hrows₅ _ (Underway.mem_run hlock))

/-- What is committed, and what it is with a booking that holds nothing. -/
structure Unheld (id : ℕ) (booking : Booking) (x v : Db) : Prop where
  absent : x.seatColumns id = none
  columns : ∀ j, v.seatColumns j = if j = id then some booking.seatColumns else x.seatColumns j
  books : v.rideSeats = x.rideSeats
  unpaid : ∀ j, j ≠ id → v.unpaid j = true → x.unpaid j = true

theorem Unheld.unseen {booking : Booking} (h : Unheld id booking x v) (hv : SeatsUnseen v v') :
    Unheld id booking x v' where
  absent := h.absent
  columns j := by rw [hv.columns, h.columns]
  books := hv.books.trans h.books
  unpaid j hj hunpaid := h.unpaid j hj (hv.unpaid j hunpaid)

theorem Unheld.keeps {booking : Booking} {rows : List Row} (h : Unheld id booking x v)
    (hx : x.SeatsKept) (hheld : booking.seatColumns.held = false) (hseats : 0 ≤ booking.seatsBooked)
    (hrow : Row.booking id ∈ rows) : seatGuard.Keeps rows x v where
  inv := {
    balanced := fun r => h.books ▸ hx.balanced r
    seats := fun j c hc => by
      rw [h.columns] at hc
      split_ifs at hc with hj
      · obtain rfl := Option.some.inj hc
        exact hseats
      · exact hx.seats j c hc
    unpaid := fun j c hc hunpaid => by
      rw [h.columns] at hc
      split_ifs at hc with hj
      · obtain rfl := Option.some.inj hc
        exact hheld
      · exact hx.unpaid j c hc (h.unpaid j hj hunpaid) }
  step := {
    bookings := by
      intro j c hc
      refine ⟨c, ?_, rfl, rfl⟩
      rw [h.columns, if_neg, hc]
      rintro rfl
      rw [h.absent] at hc
      cases hc
    rides := by
      rw [totalSeats_of_books h.books]
      exact .refl (fun _ => rfl) _ }
  same r hr := by
    cases r with
    | ride j => exact congrFun h.books j
    | booking j =>
      refine (h.columns j).trans (if_neg fun heq => hr ?_)
      rwa [heq]
    | segment | request | offer | payment | user | other => trivial

theorem unheld_insert {booking : Booking} (hunseen : SeatsUnseen x v)
    (habsent : x.seatColumns id = none) (hheld : booking.seatColumns.held = false) :
    Unheld id booking x (insertBooking id booking v) := by
  have hnone : v.seatColumns id = none := by rw [hunseen.columns, habsent]
  refine ⟨habsent, fun j => ?_, ?_, fun j hj hunpaid => ?_⟩
  · rw [columns_insertBooking hnone, hunseen.columns]
  · rw [← hunseen.books]
    funext r
    refine congrArg (RideSeats.mk _ _) ((holders_insertBooking hnone r).trans ?_)
    rw [heldOn_eq, hheld, Bool.and_false, if_neg Bool.false_ne_true]
    exact List.append_nil _
  · rw [unpaid_insertBooking hnone, if_neg hj] at hunpaid
    exact hunseen.unpaid j hunpaid

/-- **A booking that is created unpaid** may be committed wherever it ends. -/
theorem body_createUnpaidBooking {price : ℤ} {paymentIntent : ℕ} {currency : String}
    (hinv : seatGuard.Inv d) :
    seatGuard.Body Stmt.statement (seatGuard.Ends (Service.Outcome fun _ _ => True))
      (createUnpaidBooking settings rules overlaps passengerId input requestOfferId now bookingId
        price paymentIntent currency ctx) {} d := by
  refine Guarded.Body.bind ((body_quiet hinv (fun _ _ _ h hv => h.trans hv)
    (quiet_of_seatRows (leaves_reserveOfferOf (fun _ _ => rfl) (fun _ _ => rfl)))
    (relates_open d)).mono ?_)
  rintro (e | u) t₁ d₁ ⟨hrel₁, -, hd₁⟩
  · exact fun _ _ => trivial
  refine Guarded.Body.bind ((Guarded.Body.frame hd₁.inv (body_resolveBookingPlan hrel₁)).mono ?_)
  rintro (e | plan) t₂ d₂ ⟨⟨hrel₂, hplan⟩, -, hd₂⟩
  · exact fun _ _ => trivial
  dsimp only
  split_ifs with hprice
  · exact fun _ _ => trivial
  refine Guarded.Body.perform_bind (fun d₃ u hd₃ hcreated => ?_) fun _ _ _ _ _ _ => trivial
  have hcreate : seatGuard.Relates
      (Unheld bookingId (plan.unpaidBooking passengerId input paymentIntent currency))
      (t₂.run (createBookingRow bookingId
        (plan.unpaidBooking passengerId input paymentIntent currency)).statement d₃) d₃ := by
    intro x hx
    refine unheld_insert (hrel₂ x (hd₃.trans (hx.mono fun r hr => Underway.mem_run hr))) ?_ rfl
    exact absent_of_created (plan.unpaidBooking passengerId input paymentIntent currency)
      (congrFun (hrel₂ d₃ hd₃).columns.symm bookingId) hcreated
      (hx.same _ (List.mem_append_right _ (List.mem_singleton_self _)))
  refine (body_quiet hd₃.inv (fun _ _ _ h => h.unseen) ?_ hcreate).mono ?_
  · exact quiet_of_seatRows ((leaves_createPayment fun _ _ => rfl).bind fun _ =>
      leaves_linkOffer fun _ _ => rfl)
  rintro (e | u) t₄ d₄ ⟨hrel₄, hrows₄, -⟩
  · exact fun _ _ => trivial
  refine ends_of_relates hrel₄ fun x v h hx => h.keeps hx rfl ?_ ?_
  · exact zero_le_one.trans (hplan plan rfl).1
  · exact hrows₄ _ (List.mem_append_right _ (List.mem_singleton_self _))

end Creation

end Deliivo
