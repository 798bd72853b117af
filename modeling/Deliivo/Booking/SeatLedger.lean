import Deliivo.Booking.Seats
import Deliivo.Store.Selection

/-!
# The seats of a ride

What is counted for a ride: its seats and how many of them are left, how many are taken on each edge,
and the bookings that hold some. The books are balanced if the three counts agree. Taking seats that
there are, and giving back what is held, keeps them balanced.

## Main definitions

* `HeldSeats`: the seats that a booking holds, and between which positions
* `RideSeats`, `RideSeats.Balanced`: the books of a ride
* `RideSeats.release`, `RideSeats.Took`: seats that are given back, and taken
* `Db.rideSeats`: the books of a ride, as the database keeps them

## Main results

* `Balanced.release`, `Balanced.took`
-/

namespace Deliivo

/-- The seats that a booking holds, and the positions that it holds them between. -/
structure HeldSeats where
  seatsBooked : ℤ
  pickupPosition : Option ℤ
  dropoffPosition : Option ℤ
  deriving DecidableEq, Repr

/-- Whether the seats are taken on an edge. -/
def HeldSeats.covers (held : HeldSeats) (edge : Segment) : Bool :=
  match held.pickupPosition, held.dropoffPosition with
  | some pickup, some dropoff =>
    decide (pickup ≤ edge.fromPosition) && decide (edge.toPosition ≤ dropoff)
  | _, _ => false

/-- The books of a ride: its seats and how many are left, the edges, and who holds seats. -/
structure RideSeats where
  capacity : Option (ℤ × ℤ)
  edges : List (ℕ × Segment)
  holders : List (ℕ × HeldSeats)

namespace RideSeats

/-- The seats that are held on the ride. -/
def taken (books : RideSeats) : ℤ := books.holders.tally (fun _ => true) fun h => h.2.seatsBooked

/-- The seats that are held on an edge. -/
def takenOn (books : RideSeats) (edge : Segment) : ℤ :=
  books.holders.tally (fun h => h.2.covers edge) fun h => h.2.seatsBooked

/-- No more seats are held than there are, the rest is left, and every edge counts the seats that are
held on it. -/
structure Balanced (books : RideSeats) : Prop where
  nonneg : ∀ h ∈ books.holders, 0 ≤ h.2.seatsBooked
  room : ∀ total available, books.capacity = some (total, available) →
    books.taken ≤ total ∧ available = total - books.taken
  edges : ∀ e ∈ books.edges, e.2.occupiedSeats = books.takenOn e.2

/-- What an edge counts once seats are given back; an edge that counts fewer is passed over. -/
def releaseEdge (held : HeldSeats) (edge : Segment) : Segment :=
  if held.covers edge && decide (held.seatsBooked ≤ edge.occupiedSeats) then
    { edge with occupiedSeats := edge.occupiedSeats - held.seatsBooked }
  else edge

/-- What an edge counts once seats are taken. -/
def takeEdge (held : HeldSeats) (edge : Segment) : Segment :=
  if held.covers edge then { edge with occupiedSeats := edge.occupiedSeats + held.seatsBooked }
  else edge

/-- Without the booking among those that hold seats. -/
def without (id : ℕ) (books : RideSeats) : RideSeats :=
  { books with holders := books.holders.filter fun h => h.1 ≠ id }

/-- A booking gives its seats back, on a ride with `total` seats. -/
def release (id : ℕ) (held : HeldSeats) (total : ℤ) (books : RideSeats) : RideSeats where
  capacity := books.capacity.map fun c => (c.1, max 0 (total - (books.without id).taken))
  edges := books.edges.map fun e => (e.1, releaseEdge held e.2)
  holders := (books.without id).holders

/-- A booking has taken seats. -/
structure Took (id : ℕ) (held : HeldSeats) (books books' : RideSeats) : Prop where
  holders : books'.holders.Perm ((id, held) :: books.holders)
  edges : books'.edges = books.edges.map fun e => (e.1, takeEdge held e.2)
  capacity : books'.capacity =
    books.capacity.map fun c => (c.1, c.1 - books.taken - held.seatsBooked)
  fits : ∀ c, books.capacity = some c → books.taken + held.seatsBooked ≤ c.1

variable {books books' : RideSeats} {id : ℕ} {held : HeldSeats}

theorem taken_of_perm (h : books'.holders.Perm ((id, held) :: books.holders)) :
    books'.taken = held.seatsBooked + books.taken := by
  rw [taken, List.tally_perm h, List.tally_cons, if_pos rfl]
  rfl

theorem takenOn_of_perm (h : books'.holders.Perm ((id, held) :: books.holders)) (edge : Segment) :
    books'.takenOn edge =
      (if held.covers edge then held.seatsBooked else 0) + books.takenOn edge := by
  rw [takenOn, List.tally_perm h, List.tally_cons]
  rfl

/-- **Giving back** what is held keeps the books balanced: no edge is passed over. -/
theorem Balanced.release (h : books.Balanced) (hmem : (id, held) ∈ books.holders)
    (hnodup : (books.holders.map Prod.fst).Nodup) {total : ℤ}
    (htotal : ∀ c, books.capacity = some c → c.1 = total) :
    (books.release id held total).Balanced := by
  have hperm : books.holders.Perm ((id, held) :: (books.without id).holders) :=
    List.perm_cons_filter_ne hmem hnodup
  have hseats : 0 ≤ held.seatsBooked := h.nonneg _ hmem
  have hless : ∀ e ∈ (books.without id).holders, 0 ≤ e.2.seatsBooked :=
    fun e he => h.nonneg e (List.mem_of_mem_filter he)
  have htaken := taken_of_perm hperm
  refine ⟨hless, ?_, ?_⟩
  · intro t available hcapacity
    -- the whole ride: what is free is what the remaining holders leave
    obtain ⟨⟨t₀, a₀⟩, hold, heq⟩ := Option.map_eq_some_iff.mp hcapacity
    obtain ⟨rfl, rfl⟩ := Prod.mk.injEq .. ▸ heq
    obtain ⟨hroom, -⟩ := h.room _ _ hold
    have ht : t₀ = total := htotal _ hold
    change (books.without id).taken ≤ t₀ ∧
      max 0 (total - (books.without id).taken) = t₀ - (books.without id).taken
    omega
  · intro e he
    obtain ⟨e₀, he₀, rfl⟩ := List.mem_map.mp he
    -- one edge: it gives the seats back exactly when the holder travelled on it
    have hcount := h.edges e₀ he₀
    have hon := takenOn_of_perm hperm e₀.2
    have hrest : 0 ≤ (books.without id).takenOn e₀.2 := List.tally_nonneg fun e he => hless e he
    change (releaseEdge held e₀.2).occupiedSeats = (books.without id).takenOn (releaseEdge held e₀.2)
    unfold releaseEdge
    by_cases hcovers : held.covers e₀.2 = true
    · rw [if_pos hcovers] at hon
      have hle : held.seatsBooked ≤ e₀.2.occupiedSeats := by omega
      rw [if_pos (by simp [hcovers, hle])]
      change e₀.2.occupiedSeats - held.seatsBooked = (books.without id).takenOn e₀.2
      omega
    · rw [if_neg hcovers] at hon
      rw [if_neg (by simp [hcovers])]
      omega

/-- **Taking** seats that there are keeps the books balanced. -/
theorem Balanced.took (h : books.Balanced) (hseats : 0 ≤ held.seatsBooked)
    (htook : Took id held books books') : books'.Balanced := by
  have htaken := taken_of_perm htook.holders
  refine ⟨?_, ?_, ?_⟩
  · intro e he
    rcases List.mem_cons.mp (htook.holders.mem_iff.mp he) with rfl | he
    · exact hseats
    · exact h.nonneg e he
  · intro t available hcapacity
    rw [htook.capacity] at hcapacity
    obtain ⟨c, hold, heq⟩ := Option.map_eq_some_iff.mp hcapacity
    obtain ⟨rfl, rfl⟩ := Prod.mk.injEq .. ▸ heq
    have hfits := htook.fits c hold
    omega
  · intro e he
    rw [htook.edges] at he
    obtain ⟨e₀, he₀, rfl⟩ := List.mem_map.mp he
    have hcount := h.edges e₀ he₀
    have hon := takenOn_of_perm htook.holders e₀.2
    dsimp only
    unfold takeEdge
    by_cases hcovers : held.covers e₀.2 = true
    · rw [if_pos hcovers] at hon ⊢
      change e₀.2.occupiedSeats + held.seatsBooked = books'.takenOn e₀.2
      omega
    · rw [if_neg hcovers] at hon ⊢
      omega

end RideSeats

/-! ## The books in the database -/

/-- The seats of a booking. -/
def Booking.seats (booking : Booking) : HeldSeats where
  seatsBooked := booking.seatsBooked
  pickupPosition := booking.pickupPosition
  dropoffPosition := booking.dropoffPosition

/-- What a booking holds on a ride. -/
def Booking.heldOn (rideId : ℕ) (booking : Booking) : Option HeldSeats :=
  if booking.holdsOn rideId then some booking.seats else none

/-- An edge of a ride. -/
def Segment.ofRide (rideId : ℕ) (edge : Segment) : Option Segment :=
  if edge.rideId == rideId then some edge else none

/-- The books of a ride. -/
def Db.rideSeats (d : Db) (rideId : ℕ) : RideSeats where
  capacity := (d.rides.get? rideId).map fun r => (r.totalSeats, r.availableSeats)
  edges := d.segments.select (Segment.ofRide rideId)
  holders := d.bookings.select (Booking.heldOn rideId)

theorem nodup_holders (d : Db) (rideId : ℕ) :
    ((d.rideSeats rideId).holders.map Prod.fst).Nodup := d.bookings.nodup_select _

theorem mem_holders {d : Db} {rideId id : ℕ} {held : HeldSeats} :
    (id, held) ∈ (d.rideSeats rideId).holders ↔ ∃ b, d.bookings.get? id = some b ∧
      b.rideId = rideId ∧ b.seatsReservedAt.isSome = true ∧ b.seats = held := by
  rw [Db.rideSeats, Table.mem_select]
  refine exists_congr fun b => and_congr_right fun _ => ?_
  rw [Booking.heldOn, Booking.holdsOn]
  split_ifs with h <;> simp_all

end Deliivo
