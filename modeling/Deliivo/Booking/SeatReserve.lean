import Deliivo.Booking.SeatGuard

/-!
# Taking seats under locks

A payment claims its booking before it locks the ride, and counts without that booking; a booking that is
created paid is counted first and written behind the count. Either way the books of the ride are balanced
again when the transaction commits, and nobody sees them before.

## Main definitions

* `Reserved`: what a transaction has written once seats are taken
* `Claimed`: a booking that says that it holds seats which the ride does not count yet
* `Taken`: what is committed, and what it is with the seats taken

## Main results

* `body_reserveSeatsForBooking`: taking seats, whatever is committed between the statements
* `Taken.keeps`: a transaction that has taken seats may be committed
-/

namespace Deliivo

open Program (Guarded Underway)

variable {x v v' seen : Db} {id : ℕ} {hold : SeatHold}

/-! ## What taking seats writes -/

/-- The edges as they were found, and the seats that are left. -/
def takeIn (hold : SeatHold) (seen : Db) (available : ℤ) (v : Db) : Db :=
  writeLeft hold.rideId available <|
    writeEdges hold (fun _ => true)
      (fun s => { s with occupiedSeats := s.occupiedSeats + hold.seatsBooked }) seen v

section TakeIn

variable {available : ℤ}

theorem bookings_takeIn : (takeIn hold seen available v).bookings = v.bookings := by
  rw [takeIn, writeLeft, writeEdges_bookings]

theorem columns_takeIn : (takeIn hold seen available v).seatColumns = v.seatColumns := by
  rw [Db.seatColumns, bookings_takeIn, Db.seatColumns]

theorem unpaid_takeIn (j : ℕ) : (takeIn hold seen available v).unpaid j = v.unpaid j := by
  rw [Db.unpaid, bookings_takeIn, Db.unpaid]

theorem books_takeIn (hold : SeatHold) (seen : Db) (available : ℤ) (v : Db)
    (hseen : (seen.rideSeats hold.rideId).edges = (v.rideSeats hold.rideId).edges)
    (r : ℕ) : (takeIn hold seen available v).rideSeats r =
      if r = hold.rideId then
        { capacity := (v.rideSeats r).capacity.map fun c => (c.1, available)
          edges := (v.rideSeats r).edges.map fun e => (e.1, RideSeats.takeEdge hold.seats e.2)
          holders := (v.rideSeats r).holders }
      else v.rideSeats r := by
  have hedges := edges_writeEdges hold (fun _ => true)
    (fun s => { s with occupiedSeats := s.occupiedSeats + hold.seatsBooked }) seen v (fun _ => rfl)
    hseen r
  have hrides : (takeIn hold seen available v).rides =
      v.rides.modify hold.rideId fun r => { r with availableSeats := available } := by
    rw [takeIn, writeLeft, writeEdges_rides]
  have hcapacity := capacity_modify v hold.rideId available r
  split_ifs with hr
  · rw [if_pos hr] at hcapacity
    rw [Db.rideSeats, RideSeats.mk.injEq, hrides, bookings_takeIn]
    refine ⟨hcapacity, hedges.trans (List.map_congr_left fun e _ => ?_), rfl⟩
    simp only [hr, true_and, Bool.and_true]
    rfl
  · rw [if_neg hr] at hcapacity
    rw [Db.rideSeats, Db.rideSeats, RideSeats.mk.injEq, hrides, bookings_takeIn]
    refine ⟨hcapacity, hedges.trans ((List.map_congr_left fun e _ => ?_).trans (List.map_id' _)), rfl⟩
    rw [if_neg fun hand => hr hand.1]

end TakeIn

/-! ## The statements -/

/-- What a transaction has written once it has taken seats, counted by what is committed. -/
structure Reserved (hold : SeatHold) (t t' : Underway Db Row) (d : Db) : Prop where
  rows : ∀ r ∈ t.rows, r ∈ t'.rows
  lock : Row.ride hold.rideId ∈ t'.rows
  written : ∃ seen available, (∀ x, t'.pending x = takeIn hold seen available (t.pending x)) ∧
    ∀ x, seatGuard.Elapse t'.rows d x →
      (seen.rideSeats hold.rideId).edges = (x.rideSeats hold.rideId).edges ∧
        available = hold.totalSeats - (x.rideSeats hold.rideId).taken - hold.seatsBooked ∧
        (x.rideSeats hold.rideId).taken + hold.seatsBooked ≤ hold.totalSeats

/-- A transaction that counts what is committed. -/
def CountsRide (hold : SeatHold) (exclude : Option ℕ) (x v : Db) : Prop :=
  (v.rideSeats hold.rideId).edges = (x.rideSeats hold.rideId).edges ∧
    (heldSeats hold.rideId exclude).answer v = (x.rideSeats hold.rideId).taken

section Reserve

variable {t : Underway Db Row} {d : Db} {exclude : Option ℕ}

theorem body_reserveRideSeats
    (hcounts : seatGuard.Relates (CountsRide hold exclude) t d) :
    seatGuard.Body Stmt.statement (fun r t' d' => r = .ok () → Reserved hold t t' d')
      (reserveRideSeats hold exclude) t d := by
  refine Guarded.Body.command_bind fun d₁ hd₁ => ?_
  refine Guarded.Body.command_bind fun d₂ hd₂ => ?_
  split_ifs with hfull
  · rintro ⟨⟩
  refine body_updateBookedRange hd₂.inv fun d₃ t₃ hd₃ hrows₃ hpending₃ => ?_
  refine Guarded.Body.perform_bind (fun d₄ _ hd₄ _ => ?_) fun _ _ _ _ => by rintro ⟨⟩
  rintro -
  have hride : Row.ride hold.rideId ∈ t₃.rows := hrows₃ _
    (Underway.mem_run (List.mem_append_right _ (List.mem_singleton_self _)))
  have hrows : ∀ r ∈ t.rows, r ∈ t₃.rows := fun r hr =>
    hrows₃ r (Underway.mem_run (Underway.mem_run hr))
  -- the count was of what is committed, and the lock keeps it so
  have hcount := hcounts d₂ (hd₁.trans (hd₂.mono fun r hr => Underway.mem_run hr))
  have hseen := hcounts d₃ (hd₁.trans ((hd₂.mono fun r hr => Underway.mem_run hr).trans
    (hd₃.mono fun r hr => Underway.mem_run (Underway.mem_run hr))))
  refine ⟨fun r hr => Underway.mem_run (hrows r hr), Underway.mem_run hride,
    t.pending d₃, hold.totalSeats - (heldSeats hold.rideId exclude).statement.answer
      ((t.run (lockRideForSeats hold.rideId).statement d₁).pending d₂) - hold.seatsBooked,
    fun y => ?_, fun y hy => ?_⟩
  · change writeLeft hold.rideId _ (t₃.pending y) = _
    rw [hpending₃ y]
    rfl
  · have hsingle : ∀ r ∈ [Row.ride hold.rideId], r ∈ t₃.rows := fun r hr =>
      List.mem_singleton.mp hr ▸ hride
    have h₃ : seatGuard.Elapse [.ride hold.rideId] d₃ y :=
      (hd₄.mono hsingle).trans (hy.mono fun r hr => Underway.mem_run (hsingle r hr))
    have h₂ : seatGuard.Elapse [.ride hold.rideId] d₂ y := (hd₃.mono fun r hr => by
      rw [List.mem_singleton.mp hr]
      exact Underway.mem_run (List.mem_append_right _ (List.mem_singleton_self _))).trans h₃
    have hbooks₃ : y.rideSeats hold.rideId = d₃.rideSeats hold.rideId :=
      h₃.same _ (List.mem_singleton_self _)
    have hbooks₂ : y.rideSeats hold.rideId = d₂.rideSeats hold.rideId :=
      h₂.same _ (List.mem_singleton_self _)
    have hcount : (heldSeats hold.rideId exclude).statement.answer
        ((t.run (lockRideForSeats hold.rideId).statement d₁).pending d₂) =
          (y.rideSeats hold.rideId).taken := hbooks₂ ▸ hcount.2
    rw [hcount] at hfull ⊢
    exact ⟨hbooks₃ ▸ hseen.1, rfl, not_lt.mp hfull⟩

/-- **Taking seats**: the count is of what is committed, and stays so until the transaction commits. -/
theorem body_reserveSeatsForBooking {allowDraft : Bool}
    (hcounts : seatGuard.Relates (CountsRide hold exclude) t d) :
    seatGuard.Body Stmt.statement (fun r t' d' => r = .ok () → Reserved hold t t' d')
      (reserveSeatsForBooking hold exclude allowDraft) t d := by
  refine Guarded.Body.bind ((body_reserveRideSeats hcounts).mono ?_)
  rintro (e | u) t₁ d₁ hreserved
  · rintro ⟨⟩
  refine Guarded.Body.command_bind fun d₂ hd₂ => ?_
  obtain ⟨hrows, hlock, seen, available, hpending, hcommitted⟩ := hreserved rfl
  have hresult : Reserved hold t (t₁.run (findUnique rides hold.rideId).statement d₂) d₂ := by
    refine ⟨fun r hr => Underway.mem_run (hrows r hr), Underway.mem_run hlock, seen, available,
      hpending, fun y hy => hcommitted y (hd₂.trans (hy.mono fun r hr => Underway.mem_run hr))⟩
  dsimp only
  generalize (if allowDraft = true then RideStatus.draft else .published) = bookable
  split_ifs
  · exact fun _ => hresult
  · rintro ⟨⟩

end Reserve

/-! ## A booking that holds seats -/

/-- What is committed, and what it is with a booking that holds its seats. -/
structure Holding (id : ℕ) (c : SeatColumns) (x v : Db) : Prop where
  held : c.held = true
  free : ∀ c', x.seatColumns id = some c' →
    c'.held = false ∧ c'.rideId = c.rideId ∧ c'.seats = c.seats
  columns : ∀ j, v.seatColumns j = if j = id then some c else x.seatColumns j
  unpaid : ∀ j, v.unpaid j = true → x.unpaid j = true ∧ j ≠ id
  others : ∀ r, r ≠ c.rideId → v.rideSeats r = x.rideSeats r
  holders : (v.rideSeats c.rideId).holders.Perm ((id, c.seats) :: (x.rideSeats c.rideId).holders)

/-- The ride does not count the seats yet. -/
structure Claimed (id : ℕ) (c : SeatColumns) (x v : Db) : Prop extends Holding id c x v where
  capacity : (v.rideSeats c.rideId).capacity = (x.rideSeats c.rideId).capacity
  edges : (v.rideSeats c.rideId).edges = (x.rideSeats c.rideId).edges

/-- The ride counts the seats. -/
structure Taken (id : ℕ) (c : SeatColumns) (x v : Db) : Prop extends Holding id c x v where
  took : RideSeats.Took id c.seats (x.rideSeats c.rideId) (v.rideSeats c.rideId)

section Holding

variable {c : SeatColumns}

theorem Holding.unseen (h : Holding id c x v) (hv : SeatsUnseen v v') : Holding id c x v' where
  held := h.held
  free := h.free
  columns j := by rw [hv.columns, h.columns]
  unpaid j hj := h.unpaid j (hv.unpaid j hj)
  others r hr := by rw [hv.books, h.others r hr]
  holders := by
    rw [hv.books]
    exact h.holders

theorem Claimed.unseen (h : Claimed id c x v) (hv : SeatsUnseen v v') : Claimed id c x v' where
  toHolding := h.toHolding.unseen hv
  capacity := by rw [hv.books, h.capacity]
  edges := by rw [hv.books, h.edges]

theorem Taken.unseen (h : Taken id c x v) (hv : SeatsUnseen v v') : Taken id c x v' where
  toHolding := h.toHolding.unseen hv
  took := by
    rw [hv.books]
    exact h.took

/-- Nothing is held by a booking that holds nothing. -/
theorem not_mem_holders {r : ℕ} (hfree : ∀ c', x.seatColumns id = some c' → c'.held = false) :
    ∀ e ∈ (x.rideSeats r).holders, e.1 ≠ id := by
  rintro ⟨j, seats⟩ hmem rfl
  obtain ⟨b, hb, -, hheld, -⟩ := mem_holders.mp hmem
  exact Bool.false_ne_true ((hfree _ (Table.viewed_of_get? hb)).symm.trans hheld)

/-- **The count** of a booking that has been claimed: without it, what is committed is counted. -/
theorem Claimed.counts (h : Claimed id c x v) (hride : hold.rideId = c.rideId) :
    CountsRide hold (some id) x v := by
  rw [CountsRide, hride, heldSeats_some]
  refine ⟨h.edges, ?_⟩
  have hnot := not_mem_holders (r := c.rideId) fun c' hc' => (h.free c' hc').1
  have hfilter := h.holders.filter fun e => e.1 ≠ id
  rw [List.filter_cons_of_neg (by simp),
    List.filter_eq_self.mpr fun e he => decide_eq_true (hnot e he)] at hfilter
  exact List.tally_perm hfilter

/-- What is written is left for good. -/
theorem Taken.last (h : Taken id c x v) : x.SeatsLast v where
  bookings := by
    intro j c' hc'
    rw [h.columns]
    split_ifs with hj
    · subst hj
      exact ⟨c, rfl, (h.free c' hc').2.1.symm, (h.free c' hc').2.2.symm⟩
    · exact ⟨c', hc', rfl, rfl⟩
  rides := by
    have hsame : v.rides.viewed Ride.totalSeats = x.rides.viewed Ride.totalSeats := by
      funext r
      rw [viewed_totalSeats, viewed_totalSeats]
      by_cases hr : r = c.rideId
      · rw [hr, h.took.capacity, Option.map_map]
        rfl
      · rw [h.others r hr]
    rw [hsame]
    exact .refl (fun _ => rfl) _

/-- **A transaction that has taken seats may be committed.** -/
theorem Taken.keeps {rows : List Row} (h : Taken id c x v) (hx : x.SeatsKept)
    (hseats : 0 ≤ c.seats.seatsBooked) (hbooking : Row.booking id ∈ rows)
    (hride : Row.ride c.rideId ∈ rows) : seatGuard.Keeps rows x v where
  inv := {
    balanced := fun r => by
      by_cases hr : r = c.rideId
      · exact hr ▸ (hx.balanced c.rideId).took hseats h.took
      · exact (h.others r hr).symm ▸ hx.balanced r
    seats := fun j c' hc' => by
      rw [h.columns] at hc'
      split_ifs at hc' with hj
      · obtain rfl := Option.some.inj hc'
        exact hseats
      · exact hx.seats j c' hc'
    unpaid := fun j c' hc' hj => by
      obtain ⟨hunpaid, hne⟩ := h.unpaid j hj
      rw [h.columns, if_neg hne] at hc'
      exact hx.unpaid j c' hc' hunpaid }
  step := h.last
  same r hr := by
    cases r with
    | ride j =>
      refine h.others j fun heq => hr ?_
      rwa [heq]
    | booking j =>
      refine (h.columns j).trans (if_neg fun heq => hr ?_)
      rwa [heq]
    | segment | request | offer | payment | user | other => trivial

/-- A booking that is claimed has taken its seats once they are written. -/
theorem Claimed.take {available : ℤ} (h : Claimed id c x v) (hride : hold.rideId = c.rideId)
    (hseats : hold.seats = c.seats)
    (htotal : x.rides.viewed Ride.totalSeats c.rideId = some hold.totalSeats)
    (hseen : (seen.rideSeats hold.rideId).edges = (x.rideSeats hold.rideId).edges)
    (havailable : available = hold.totalSeats - (x.rideSeats hold.rideId).taken - hold.seatsBooked)
    (hfits : (x.rideSeats hold.rideId).taken + hold.seatsBooked ≤ hold.totalSeats) :
    Taken id c x (takeIn hold seen available v) := by
  have hbooks := books_takeIn hold seen available v
    (by rw [hseen, hride, h.edges])
  rw [hride] at havailable hfits
  refine ⟨⟨h.held, h.free, fun j => ?_, fun j hj => ?_, fun r hr => ?_, ?_⟩, ?_⟩
  · rw [columns_takeIn, h.columns]
  · rw [unpaid_takeIn] at hj
    exact h.unpaid j hj
  · rw [hbooks, if_neg (hride ▸ hr), h.others r hr]
  · rw [hbooks, if_pos hride.symm]
    exact h.holders
  · rw [hbooks, if_pos hride.symm]
    have hbooked : hold.seatsBooked = c.seats.seatsBooked := congrArg HeldSeats.seatsBooked hseats
    refine ⟨h.holders, ?_, ?_, ?_⟩
    · rw [hseats, h.edges]
    · rw [h.capacity]
      refine Option.map_congr fun capacity hcapacity => ?_
      rw [total_of_viewed htotal hcapacity, havailable, hbooked]
    · intro capacity hcapacity
      rw [total_of_viewed htotal hcapacity, ← hbooked]
      exact hfits

end Holding

end Deliivo
