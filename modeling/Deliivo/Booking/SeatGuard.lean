import Deliivo.Booking.Frame
import Deliivo.Booking.SeatLedger
import Deliivo.Domain.Sessions
import Deliivo.Store.RowView

/-!
# Seats under locks

A transaction that takes or gives back seats clears or sets `seatsReservedAt` first, then locks the ride
and counts. Between any two of its statements other transactions may commit. What it can rely on is that
a booking that it has written, and the books of a ride that it has locked, stay as they are until it
commits: every other writer of them takes the same locks.

## Main definitions

* `Db.SeatsKept`: what every committed state satisfies
* `seatGuard`: what the commits keep, and what the locks protect
* `Db.Knows`: what has been read of a booking and its ride, and stays so for good

## Main results

* `quiet_of_seatRows`: statements that nobody can tell from none
* `body_releaseBookingSeats`: giving seats back keeps a transaction ready
-/

namespace Deliivo

open Program (Guarded Underway)

/-! ## What is kept -/

/-- The columns of a booking that its seats depend on. -/
structure SeatColumns where
  rideId : ℕ
  seats : HeldSeats
  held : Bool
  deriving DecidableEq

def Booking.seatColumns (booking : Booking) : SeatColumns where
  rideId := booking.rideId
  seats := booking.seats
  held := booking.seatsReservedAt.isSome

/-- The columns of the bookings. -/
def Db.seatColumns (d : Db) : ℕ → Option SeatColumns := d.bookings.viewed Booking.seatColumns

/-- Whether a booking waits for its payment. -/
def Booking.unpaid (booking : Booking) : Bool := booking.status == .paymentPending

/-- The bookings that wait for their payment. -/
def Db.unpaid (d : Db) (id : ℕ) : Bool := (d.bookings.get? id).any Booking.unpaid

/-- The books of every ride are balanced, and a booking that waits for its payment holds nothing. -/
structure Db.SeatsKept (d : Db) : Prop where
  balanced : ∀ rideId, (d.rideSeats rideId).Balanced
  seats : ∀ id c, d.seatColumns id = some c → 0 ≤ c.seats.seatsBooked
  unpaid : ∀ id c, d.seatColumns id = some c → d.unpaid id = true → c.held = false

/-- What a commit leaves for good: which seats a booking asks for, and how many a ride has. -/
structure Db.SeatsLast (d d' : Db) : Prop where
  bookings : RowsKeep (fun c c' => c'.rideId = c.rideId ∧ c'.seats = c.seats)
    d.seatColumns d'.seatColumns
  rides : RowsKeep Eq (d.rides.viewed Ride.totalSeats) (d'.rides.viewed Ride.totalSeats)

theorem Db.SeatsLast.refl (d : Db) : d.SeatsLast d :=
  ⟨.refl (fun _ => ⟨rfl, rfl⟩) _, .refl (fun _ => rfl) _⟩

theorem Db.SeatsLast.trans {d d' d'' : Db} (h : d.SeatsLast d') (h' : d'.SeatsLast d'') :
    d.SeatsLast d'' where
  bookings := h.bookings.trans (fun _ _ _ h h' => ⟨h'.1.trans h.1, h'.2.trans h.2⟩) h'.bookings
  rides := h.rides.trans (fun _ _ _ h h' => h.trans h') h'.rides

/-- What the lock of a row protects: the lock of a ride its books, the lock of a booking its columns. -/
def SameSeats : Row → Db → Db → Prop
  | .ride id, d, d' => d'.rideSeats id = d.rideSeats id
  | .booking id, d, d' => d'.seatColumns id = d.seatColumns id
  | _, _, _ => True

/-- The seats, and the locks that protect them. -/
def seatGuard : Guarded Db Row where
  same := SameSeats
  refl r d := by cases r <;> trivial
  trans := by
    intro r d d' d'' h h'
    cases r with
    | ride id => exact Eq.trans h' h
    | booking id => exact Eq.trans h' h
    | segment | request | offer | payment | user | other => trivial
  symm := by
    intro r d d' h
    cases r with
    | ride id => exact Eq.symm h
    | booking id => exact Eq.symm h
    | segment | request | offer | payment | user | other => trivial
  Inv := Db.SeatsKept
  Step := Db.SeatsLast
  step_refl := .refl
  step_trans := .trans

/-! ## Statements that nobody can tell from none -/

/-- All that others look at. -/
def seatRows (d : Db) : (ℕ → RideSeats) × (ℕ → Option SeatColumns) × (ℕ → Bool) :=
  (d.rideSeats, d.seatColumns, d.unpaid)

section Unseen

variable {d d' : Db}

/-- The seats of a ride are in its books. -/
theorem viewed_totalSeats (d : Db) (rideId : ℕ) :
    d.rides.viewed Ride.totalSeats rideId = (d.rideSeats rideId).capacity.map Prod.fst := by
  simp only [Db.rideSeats, Option.map_map]
  rfl

theorem total_of_viewed {rideId : ℕ} {total : ℤ} {capacity : ℤ × ℤ}
    (htotal : d.rides.viewed Ride.totalSeats rideId = some total)
    (hcapacity : (d.rideSeats rideId).capacity = some capacity) : capacity.1 = total := by
  rw [viewed_totalSeats, hcapacity] at htotal
  exact Option.some.inj htotal

theorem totalSeats_of_books (h : d'.rideSeats = d.rideSeats) :
    d'.rides.viewed Ride.totalSeats = d.rides.viewed Ride.totalSeats := by
  funext id
  rw [viewed_totalSeats, viewed_totalSeats, h]

/-- A write that nobody can tell from none: a booking may at most stop waiting for its payment. -/
structure SeatsUnseen (d d' : Db) : Prop where
  books : d'.rideSeats = d.rideSeats
  columns : d'.seatColumns = d.seatColumns
  unpaid : ∀ id, d'.unpaid id = true → d.unpaid id = true

theorem SeatsUnseen.refl (d : Db) : SeatsUnseen d d := ⟨rfl, rfl, fun _ h => h⟩

theorem SeatsUnseen.trans {d'' : Db} (h : SeatsUnseen d d') (h' : SeatsUnseen d' d'') :
    SeatsUnseen d d'' :=
  ⟨h'.books.trans h.books, h'.columns.trans h.columns, fun id hid => h.unpaid id (h'.unpaid id hid)⟩

theorem SeatsUnseen.unseen (h : SeatsUnseen d d') : seatGuard.Unseen d d' where
  inv hd := {
    balanced := fun rideId => by
      rw [h.books]
      exact hd.balanced rideId
    seats := fun id c hc => hd.seats id c (h.columns ▸ hc)
    unpaid := fun id c hc hid => hd.unpaid id c (h.columns ▸ hc) (h.unpaid id hid) }
  step := by
    refine ⟨?_, ?_⟩
    · rw [h.columns]
      exact .refl (fun _ => ⟨rfl, rfl⟩) _
    · rw [totalSeats_of_books h.books]
      exact .refl (fun _ => rfl) _
  same r := by
    cases r with
    | ride id => exact congrFun h.books id
    | booking id => exact congrFun h.columns id
    | segment | request | offer | payment | user | other => trivial

/-- A statement that nobody can tell from none. -/
def Stmt.SeatQuiet {β : Type} (c : Stmt β) : Prop := ∀ seen d, SeatsUnseen d (c.write seen d)

theorem Stmt.SeatQuiet.quiet {β : Type} {c : Stmt β} (h : c.SeatQuiet) :
    seatGuard.Quiet c.statement := fun seen d => (h seen d).unseen

theorem seatsUnseen_of_seatRows (h : seatRows d' = seatRows d) : SeatsUnseen d d' := by
  obtain ⟨hbooks, hrest⟩ := Prod.mk.injEq .. ▸ h
  obtain ⟨hcolumns, hunpaid⟩ := Prod.mk.injEq .. ▸ hrest
  exact ⟨hbooks, hcolumns, fun id hid => by rwa [hunpaid] at hid⟩

/-- A statement that leaves the rows alone. -/
theorem quiet_of_leaves {β : Type} {c : Stmt β} (h : c.Leaves seatRows) : c.SeatQuiet :=
  fun seen d => seatsUnseen_of_seatRows (h seen d)

/-- The frame of what others look at. -/
abbrev seatFrame : Frame := .ofDb seatRows

/-- What leaves the rows alone is quiet. -/
theorem quiet_of_seatRows {α : Type} {body : Tx α} (h : body.Leaves seatRows) :
    body.Issues Stmt.SeatQuiet :=
  h.mono fun _ hc => quiet_of_leaves hc

theorem kept_of_seatRows {α : Type} {p : Service α} {C : Db → Prop} (hC : seatGuard.Lasting C)
    (hd : C d) (h : p.Leaves seatFrame) : p.Kept seatGuard (fun _ => C) d :=
  Service.kept_quiet hC hd
    (Service.quiet_of_leaves (fun _ _ heq => (seatsUnseen_of_seatRows heq).unseen) h)

/-! ### Bookings -/

theorem heldOn_eq (rideId : ℕ) (b : Booking) :
    b.heldOn rideId = if b.seatColumns.rideId == rideId && b.seatColumns.held then
      some b.seatColumns.seats else none := rfl

theorem heldOn_congr {b b' : Booking} (h : b'.seatColumns = b.seatColumns) (rideId : ℕ) :
    b'.heldOn rideId = b.heldOn rideId := by
  rw [heldOn_eq, heldOn_eq, h]

/-- What a write makes of a booking, as far as others look at it. -/
def SeatsAlike (b b' : Booking) : Prop :=
  b'.seatColumns = b.seatColumns ∧ (b'.unpaid = true → b.unpaid = true)

/-- Writing bookings so that nobody can tell. -/
theorem unseen_modifyWhere {P : ℕ → Booking → Bool} {f : Booking → Booking}
    (hf : ∀ id b, d.bookings.get? id = some b → P id b = true → SeatsAlike b (f b)) :
    SeatsUnseen d { d with bookings := d.bookings.modifyWhere P f } := by
  refine ⟨?_, ?_, ?_⟩
  · funext rideId
    refine congrArg (RideSeats.mk _ _) (Table.select_modifyWhere_of_same fun id b hb hP => ?_)
    exact heldOn_congr (hf id b hb hP).1 rideId
  · funext id
    refine (Table.viewed_modifyWhere (t := d.bookings) P id).trans (Option.map_congr fun b hb => ?_)
    split_ifs with hP
    · exact (hf id b hb hP).1
    · rfl
  · intro id hid
    unfold Db.unpaid at hid ⊢
    rw [Table.get?_modifyWhere] at hid
    cases hb : d.bookings.get? id with
    | none =>
      rw [hb] at hid
      cases hid
    | some b =>
      rw [hb, Option.map_some] at hid
      split_ifs at hid with hP
      · exact (hf id b hb hP).2 hid
      · exact hid

theorem unseen_modify {id : ℕ} {f : Booking → Booking}
    (hf : ∀ b, d.bookings.get? id = some b → SeatsAlike b (f b)) :
    SeatsUnseen d { d with bookings := d.bookings.modify id f } := by
  rw [Table.modify_eq_modifyWhere]
  exact unseen_modifyWhere fun j b hb hj => hf b (of_decide_eq_true hj ▸ hb)

theorem quiet_update {id : ℕ} {f : Booking → Booking} (hf : ∀ b, SeatsAlike b (f b)) :
    (update bookings id f).SeatQuiet :=
  fun _ _ => unseen_modify fun b _ => hf b

theorem quiet_updateMany {P : ℕ → Booking → Bool} {f : Booking → Booking}
    (hf : ∀ b, SeatsAlike b (f b)) : (updateMany bookings P f).SeatQuiet :=
  fun _ _ => unseen_modifyWhere fun _ b _ _ => hf b

/-- Writing a booking so that its seats and its waiting stay as they are. -/
theorem seatRows_modify {f : Booking → Booking}
    (hf : ∀ b, (f b).seatColumns = b.seatColumns ∧ (f b).unpaid = b.unpaid) (d : Db) (id : ℕ) :
    seatRows { d with bookings := d.bookings.modify id f } = seatRows d := by
  have hunseen : SeatsUnseen d { d with bookings := d.bookings.modify id f } :=
    unseen_modify fun b _ => ⟨(hf b).1, fun hb => (hf b).2 ▸ hb⟩
  refine Prod.ext hunseen.books (Prod.ext hunseen.columns (funext fun j => ?_))
  exact Table.any_get?_modify (fun b => (hf b).2) d.bookings id j

/-- Ending a booking. -/
theorem seatsAlike_of_status {b b' : Booking} (h : b'.seatColumns = b.seatColumns)
    (hstatus : b'.status ≠ .paymentPending) : SeatsAlike b b' := by
  refine ⟨h, fun hunpaid => absurd ?_ hstatus⟩
  exact beq_iff_eq.mp hunpaid

/-- Writing rides, but for their seats. -/
theorem unseen_rides {P : ℕ → Ride → Bool} {f : Ride → Ride}
    (hf : ∀ r, (f r).totalSeats = r.totalSeats ∧ (f r).availableSeats = r.availableSeats) :
    SeatsUnseen d { d with rides := d.rides.modifyWhere P f } := by
  refine ⟨?_, rfl, fun _ h => h⟩
  funext rideId
  refine congrArg (fun c => RideSeats.mk c _ _) ?_
  have hview : (d.rides.modifyWhere P f).viewed (fun r => (r.totalSeats, r.availableSeats)) rideId =
      _ := Table.viewed_modifyWhere P rideId
  refine hview.trans (Option.map_congr fun r _ => ?_)
  split_ifs
  · rw [(hf r).1, (hf r).2]
  · rfl

theorem quiet_updateRides {P : ℕ → Ride → Bool} {f : Ride → Ride}
    (hf : ∀ r, (f r).totalSeats = r.totalSeats ∧ (f r).availableSeats = r.availableSeats) :
    (updateMany rides P f).SeatQuiet := fun _ _ => unseen_rides hf

theorem quiet_updateRide {id : ℕ} {f : Ride → Ride}
    (hf : ∀ r, (f r).totalSeats = r.totalSeats ∧ (f r).availableSeats = r.availableSeats) :
    (update rides id f).SeatQuiet := by
  intro seen d
  show SeatsUnseen d { d with rides := d.rides.modify id f }
  rw [Table.modify_eq_modifyWhere]
  exact unseen_rides hf

end Unseen

/-! ## What has been read -/

/-- A booking asks for these seats, of a ride with this many. -/
def Db.Knows (d : Db) (bookingId : ℕ) (hold : SeatHold) : Prop :=
  ∃ c, d.seatColumns bookingId = some c ∧
    d.rides.viewed Ride.totalSeats c.rideId = some hold.totalSeats ∧
    c.rideId = hold.rideId ∧ c.seats = ⟨hold.seatsBooked, hold.pickupPosition, hold.dropoffPosition⟩

theorem lasting_knows (bookingId : ℕ) (hold : SeatHold) :
    seatGuard.Lasting fun d => d.Knows bookingId hold := by
  rintro d d' ⟨c, hc, htotal, hride, hseats⟩ hstep
  obtain ⟨c', hc', hride', hseats'⟩ := hstep.bookings bookingId c hc
  obtain ⟨total', htotal', rfl⟩ := hstep.rides c.rideId _ htotal
  exact ⟨c', hc', hride' ▸ htotal', hride'.trans hride, hseats'.trans hseats⟩

theorem knows_of_found {d : Db} {bookingId : ℕ} {booking : Booking} {ride : Ride}
    (h : (findBookingWithRide bookingId).answer d = some (booking, ride)) :
    d.Knows bookingId (booking.hold ride.totalSeats) := by
  obtain ⟨hb, hr⟩ := findBookingWithRide_eq_some.mp h
  exact ⟨booking.seatColumns, Table.viewed_of_get? hb, Table.viewed_of_get? hr, rfl, rfl⟩

/-! ## Giving seats back -/

/-- Stop a booking from holding seats. -/
def Booking.released (booking : Booking) : Booking := { booking with seatsReservedAt := none }

section Release

variable {v seen : Db} {id rideId : ℕ} {hold : SeatHold}

/-- What is counted is what the books say. -/
theorem heldSeats_none (rideId : ℕ) (d : Db) :
    (heldSeats rideId none).answer d = (d.rideSeats rideId).taken := by
  simp only [heldSeats, Option.all_none, Bool.and_true, RideSeats.taken, Db.rideSeats, Table.select]
  induction d.bookings.rows with
  | nil => rfl
  | cons row rows ih =>
    rw [List.tally_cons, ih]
    by_cases h : row.2.holdsOn rideId = true
    · rw [if_pos h, List.filterMap_cons_some (b := (row.1, row.2.seats)) (by simp [Booking.heldOn, h]),
        List.tally_cons, if_pos rfl]
      rfl
    · rw [if_neg h, List.filterMap_cons_none (by simp [Booking.heldOn, h]), zero_add]

/-- Counted without one booking. -/
theorem heldSeats_some (rideId id : ℕ) (d : Db) :
    (heldSeats rideId (some id)).answer d = ((d.rideSeats rideId).without id).taken := by
  rw [RideSeats.taken, RideSeats.without, List.tally_filter]
  simp only [heldSeats, Option.all_some, Bool.true_and, Db.rideSeats, Table.select]
  induction d.bookings.rows with
  | nil => rfl
  | cons row rows ih =>
    rw [List.tally_cons, ih]
    by_cases h : row.2.holdsOn rideId = true
    · rw [List.filterMap_cons_some (b := (row.1, row.2.seats)) (by simp [Booking.heldOn, h]),
        List.tally_cons]
      by_cases hid : id = row.1
      · simp [h, hid]
      · simp [h, hid, Ne.symm hid, Booking.seats]
    · rw [List.filterMap_cons_none (by simp [Booking.heldOn, h])]
      simp [h]

/-- What the edges of a ride are once those that are booked and satisfy `P` are written, found by
looking at `seen`. -/
def writeEdges (hold : SeatHold) (P : Segment → Bool) (f : Segment → Segment) (seen v : Db) : Db :=
  match hold.pickupPosition, hold.dropoffPosition with
  | some pickup, some dropoff =>
    (updateMany segments (fun _ s => bookedRange hold.rideId pickup dropoff s && P s) f).write seen v
  | _, _ => v

/-- The seats that are taken or given back. -/
def SeatHold.seats (hold : SeatHold) : HeldSeats where
  seatsBooked := hold.seatsBooked
  pickupPosition := hold.pickupPosition
  dropoffPosition := hold.dropoffPosition

section Edges

variable {P : Segment → Bool} {f : Segment → Segment}

@[simp] theorem writeEdges_bookings (hold : SeatHold) (P : Segment → Bool) (f : Segment → Segment)
    (seen v : Db) : (writeEdges hold P f seen v).bookings = v.bookings := by
  unfold writeEdges
  split <;> rfl

@[simp] theorem writeEdges_rides (hold : SeatHold) (P : Segment → Bool) (f : Segment → Segment)
    (seen v : Db) : (writeEdges hold P f seen v).rides = v.rides := by
  unfold writeEdges
  split <;> rfl

/-- The edges that a statement has found are those of the ride, where its books are as they were. -/
theorem edges_writeEdges (hold : SeatHold) (P : Segment → Bool) (f : Segment → Segment) (seen v : Db)
    (hf : ∀ s, (f s).rideId = s.rideId)
    (hseen : (seen.rideSeats hold.rideId).edges = (v.rideSeats hold.rideId).edges) (r : ℕ) :
    ((writeEdges hold P f seen v).rideSeats r).edges =
      (v.rideSeats r).edges.map fun e =>
        (e.1, if r = hold.rideId ∧ (hold.seats.covers e.2 && P e.2) = true then f e.2 else e.2) := by
  unfold writeEdges HeldSeats.covers SeatHold.seats
  rcases hold.pickupPosition with _ | pickup
  · simp
  rcases hold.dropoffPosition with _ | dropoff
  · simp
  refine Table.select_modifyWhere_map (t := v.segments) (g := Segment.ofRide r)
    (h := fun _ s => if r = hold.rideId ∧ (decide (pickup ≤ s.fromPosition) &&
      decide (s.toPosition ≤ dropoff) && P s) = true then f s else s) fun j s hs => ?_
  -- a row that is there meets the condition as it was found exactly if it does now
  have hholds : seen.segments.holds
      (fun _ s => bookedRange hold.rideId pickup dropoff s && P s) j = true ↔
        (bookedRange hold.rideId pickup dropoff s && P s) = true := by
    constructor
    · intro h
      cases hsj : seen.segments.get? j with
      | none => simp [Table.holds, hsj] at h
      | some s' =>
        rw [Table.holds, hsj, Option.elim_some] at h
        have hride : s'.rideId = hold.rideId := by
          simp only [bookedRange, Bool.and_eq_true, beq_iff_eq] at h
          exact h.1.1.1
        have hmem : (j, s') ∈ (v.rideSeats hold.rideId).edges := by
          rw [← hseen]
          exact Table.mem_select.mpr ⟨s', hsj, by simp [Segment.ofRide, hride]⟩
        obtain ⟨s'', hs'', heq⟩ := Table.mem_select.mp hmem
        rw [hs] at hs''
        obtain rfl := Option.some.inj hs''
        have hsame : s = s' := by
          unfold Segment.ofRide at heq
          split_ifs at heq
          exact Option.some.inj heq
        rwa [hsame]
    · intro h
      have hride : s.rideId = hold.rideId := by
        simp only [bookedRange, Bool.and_eq_true, beq_iff_eq] at h
        exact h.1.1.1
      have hmem : (j, s) ∈ (seen.rideSeats hold.rideId).edges := by
        rw [hseen]
        exact Table.mem_select.mpr ⟨s, hs, by simp [Segment.ofRide, hride]⟩
      obtain ⟨s', hs', heq⟩ := Table.mem_select.mp hmem
      have hsame : s' = s := by
        unfold Segment.ofRide at heq
        split_ifs at heq
        exact Option.some.inj heq
      rw [Table.holds, hs', hsame]
      exact h
  by_cases hr : s.rideId = r
  · -- an edge of the ride asked about
    have hiff : (bookedRange hold.rideId pickup dropoff s && P s) = true ↔
        r = hold.rideId ∧ (decide (pickup ≤ s.fromPosition) && decide (s.toPosition ≤ dropoff) &&
          P s) = true := by
      rw [← hr]
      simp only [bookedRange, Bool.and_eq_true, beq_iff_eq]
      tauto
    have hselect : ∀ s' : Segment, s'.rideId = r → Segment.ofRide r s' = some s' := by
      intro s' hs'
      simp [Segment.ofRide, hs']
    rw [hselect s hr, hselect _ (by split_ifs <;> simp [hf, hr]), Option.map_some]
    refine congrArg some (if_congr ?_ rfl rfl)
    exact hholds.trans hiff
  · have hnone : ∀ s' : Segment, s'.rideId = s.rideId → Segment.ofRide r s' = none := by
      intro s' hs'
      simp [Segment.ofRide, hs', hr]
    rw [hnone s rfl, hnone _ (by split_ifs <;> simp [hf])]
    rfl

end Edges

/-- What writing the seats that are left makes of the database. -/
def writeLeft (rideId : ℕ) (available : ℤ) (v : Db) : Db :=
  { v with rides := v.rides.modify rideId fun r => { r with availableSeats := available } }

/-- What giving seats back writes: the booking, the edges as they were found, and the seats that are
left. -/
def releaseIn (id : ℕ) (hold : SeatHold) (seen : Db) (available : ℤ) (v : Db) : Db :=
  writeLeft hold.rideId available <|
    writeEdges hold (fun s => decide (hold.seatsBooked ≤ s.occupiedSeats))
      (fun s => { s with occupiedSeats := s.occupiedSeats - hold.seatsBooked }) seen
      { v with bookings := v.bookings.modify id Booking.released }

theorem rides_releaseIn (available : ℤ) : (releaseIn id hold seen available v).rides =
    v.rides.modify hold.rideId fun r => { r with availableSeats := available } := by
  rw [releaseIn, writeLeft, writeEdges_rides]

theorem capacity_modify (v : Db) (rideId : ℕ) (available : ℤ) (r : ℕ) :
    ((v.rides.modify rideId fun ride => { ride with availableSeats := available }).get? r).map
        (fun ride => (ride.totalSeats, ride.availableSeats)) =
      if r = rideId then (v.rideSeats r).capacity.map fun c => (c.1, available)
      else (v.rideSeats r).capacity := by
  rw [Table.get?_modify]
  split_ifs with h
  · simp only [Db.rideSeats, Option.map_map]
    rfl
  · rfl

theorem columns_modify_released (j : ℕ) :
    (v.bookings.modify id Booking.released).viewed Booking.seatColumns j =
      if j = id then (v.seatColumns j).map fun c => { c with held := false }
      else v.seatColumns j := by
  rw [Table.viewed_modify]
  split_ifs with h
  · subst h
    rw [Db.seatColumns, Table.viewed, Option.map_map]
    rfl
  · rfl

theorem columns_releaseIn (available : ℤ) (j : ℕ) :
    (releaseIn id hold seen available v).seatColumns j =
      if j = id then (v.seatColumns j).map fun c => { c with held := false }
      else v.seatColumns j := by
  rw [← columns_modify_released, Db.seatColumns, releaseIn]
  exact congrArg (fun t : Table Booking => t.viewed Booking.seatColumns j)
    (writeEdges_bookings hold _ _ seen _)

theorem unpaid_releaseIn (available : ℤ) (j : ℕ) :
    (releaseIn id hold seen available v).unpaid j = v.unpaid j := by
  rw [Db.unpaid, releaseIn]
  refine (congrArg (fun t : Table Booking => (t.get? j).any Booking.unpaid)
    (writeEdges_bookings hold _ _ seen _)).trans ?_
  exact Table.any_get?_modify (f := Booking.released) (fun _ => rfl) v.bookings id j

/-- The booking is on no other ride. -/
theorem holders_modify_released (hknows : v.Knows id hold) {r : ℕ} (hr : r ≠ hold.rideId) :
    (v.bookings.modify id Booking.released).select (Booking.heldOn r) = (v.rideSeats r).holders := by
  refine Table.select_modify_of_same fun b hb => ?_
  obtain ⟨c, hc, -, hride, -⟩ := hknows
  obtain ⟨b', hb', rfl⟩ := Table.viewed_eq_some.mp hc
  rw [hb] at hb'
  obtain rfl := Option.some.inj hb'
  have hother : (b.rideId == r) = false := by
    rw [beq_eq_false_iff_ne]
    exact fun heq => hr (heq ▸ hride)
  simp [Booking.heldOn, Booking.holdsOn, Booking.released, hother]

/-- **The books of the ride** are those with the seats given back; those of any other are as before. -/
theorem books_releaseIn {available : ℤ} (hknows : v.Knows id hold)
    (hseen : (seen.rideSeats hold.rideId).edges = (v.rideSeats hold.rideId).edges)
    (havailable : available =
      max 0 (hold.totalSeats - ((v.rideSeats hold.rideId).without id).taken)) (r : ℕ) :
    (releaseIn id hold seen available v).rideSeats r =
      if r = hold.rideId then (v.rideSeats r).release id hold.seats hold.totalSeats
      else v.rideSeats r := by
  have hedges := edges_writeEdges hold (fun s => decide (hold.seatsBooked ≤ s.occupiedSeats))
    (fun s => { s with occupiedSeats := s.occupiedSeats - hold.seatsBooked }) seen
    { v with bookings := v.bookings.modify id Booking.released } (fun _ => rfl) hseen r
  have hbookings : (releaseIn id hold seen available v).bookings =
      v.bookings.modify id Booking.released := writeEdges_bookings hold _ _ seen _
  have hcapacity := capacity_modify v hold.rideId available r
  split_ifs with hr
  · -- the ride of the hold: its seats, its edges and its holders in turn
    rw [if_pos hr] at hcapacity
    rw [RideSeats.release, Db.rideSeats, RideSeats.mk.injEq]
    refine ⟨?_, ?_, ?_⟩
    · rw [rides_releaseIn]
      refine hcapacity.trans ?_
      rw [havailable, hr]
    · refine hedges.trans (List.map_congr_left fun e _ => ?_)
      simp only [hr, true_and]
      rfl
    · rw [hbookings]
      exact Table.select_modify_none fun b _ => by simp [Booking.heldOn, Booking.holdsOn,
        Booking.released]
  · -- any other ride: neither its seats nor its edges are touched, and the holder was not on it
    rw [if_neg hr] at hcapacity
    rw [Db.rideSeats, Db.rideSeats, RideSeats.mk.injEq, rides_releaseIn]
    refine ⟨hcapacity, ?_, ?_⟩
    · refine hedges.trans ((List.map_congr_left fun e _ => ?_).trans (List.map_id' _))
      rw [if_neg fun hand => hr hand.1]
    · rw [hbookings]
      exact holders_modify_released hknows hr

/-- What has been found, of a booking that gives its seats back. -/
structure Releasing (id : ℕ) (hold : SeatHold) (seen : Db) (available : ℤ) (v : Db) : Prop where
  knows : v.Knows id hold
  held : ∀ c, v.seatColumns id = some c → c.held = true
  edges : (seen.rideSeats hold.rideId).edges = (v.rideSeats hold.rideId).edges
  left : available = max 0 (hold.totalSeats - ((v.rideSeats hold.rideId).without id).taken)

theorem mem_holders_of_columns {c : SeatColumns} (hc : v.seatColumns id = some c)
    (hheld : c.held = true) : (id, c.seats) ∈ (v.rideSeats c.rideId).holders := by
  obtain ⟨b, hb, rfl⟩ := Table.viewed_eq_some.mp hc
  exact mem_holders.mpr ⟨b, hb, rfl, hheld, rfl⟩

theorem total_of_knows {d : Db} (h : d.Knows id hold) {capacity : ℤ × ℤ}
    (hcapacity : (d.rideSeats hold.rideId).capacity = some capacity) :
    capacity.1 = hold.totalSeats := by
  obtain ⟨c, -, htotal, hride, -⟩ := h
  exact total_of_viewed (hride ▸ htotal) hcapacity

variable {available : ℤ}

theorem Releasing.kept (h : Releasing id hold seen available v) (hv : v.SeatsKept) :
    (releaseIn id hold seen available v).SeatsKept where
  balanced r := by
    rw [books_releaseIn h.knows h.edges h.left]
    split_ifs with hr
    · obtain ⟨c, hc, -, hride, hseats⟩ := h.knows
      have hmem := mem_holders_of_columns hc (h.held c hc)
      rw [hride, hseats, ← hr] at hmem
      exact (hv.balanced r).release hmem (nodup_holders v r) fun capacity hcapacity =>
        total_of_knows h.knows (hr ▸ hcapacity)
    · exact hv.balanced r
  seats j c hc := by
    rw [columns_releaseIn] at hc
    split_ifs at hc with hj
    · obtain ⟨c₀, hc₀, rfl⟩ := Option.map_eq_some_iff.mp hc
      exact hv.seats j c₀ hc₀
    · exact hv.seats j c hc
  unpaid j c hc hunpaid := by
    rw [unpaid_releaseIn] at hunpaid
    rw [columns_releaseIn] at hc
    split_ifs at hc with hj
    · obtain ⟨c₀, -, rfl⟩ := Option.map_eq_some_iff.mp hc
      rfl
    · exact hv.unpaid j c hc hunpaid

theorem last_releaseIn : v.SeatsLast (releaseIn id hold seen available v) where
  bookings := by
    intro j c hc
    rw [columns_releaseIn, hc]
    split_ifs
    · exact ⟨_, rfl, rfl, rfl⟩
    · exact ⟨c, rfl, rfl, rfl⟩
  rides := by
    rw [rides_releaseIn, Table.viewed_modify_of_same (f := fun r : Ride =>
      { r with availableSeats := available }) (fun _ => rfl)]
    exact .refl (fun _ => rfl) _

/-- Only the booking and the books of its ride are touched. -/
theorem Releasing.same (h : Releasing id hold seen available v) {r : Row} (hb : r ≠ .booking id)
    (hr : r ≠ .ride hold.rideId) : seatGuard.same r v (releaseIn id hold seen available v) := by
  cases r with
  | ride j =>
    refine (books_releaseIn h.knows h.edges h.left j).trans (if_neg fun heq => hr ?_)
    rw [heq]
  | booking j =>
    refine (columns_releaseIn available j).trans (if_neg fun heq => hb ?_)
    rw [heq]
  | segment | request | offer | payment | user | other => trivial

/-- What was alike is so once the seats are given back. -/
theorem Releasing.alike {v' : Db} (h : Releasing id hold seen available v)
    (h' : Releasing id hold seen available v') {r : Row} (hsame : seatGuard.same r v v') :
    seatGuard.same r (releaseIn id hold seen available v)
      (releaseIn id hold seen available v') := by
  cases r with
  | ride j =>
    have hbooks : v'.rideSeats j = v.rideSeats j := hsame
    show (releaseIn id hold seen available v').rideSeats j =
      (releaseIn id hold seen available v).rideSeats j
    rw [books_releaseIn h.knows h.edges h.left, books_releaseIn h'.knows h'.edges h'.left, hbooks]
  | booking j =>
    have hcolumns : v'.seatColumns j = v.seatColumns j := hsame
    show (releaseIn id hold seen available v').seatColumns j =
      (releaseIn id hold seen available v).seatColumns j
    rw [columns_releaseIn, columns_releaseIn, hcolumns]
  | segment | request | offer | payment | user | other => trivial

/-- A transaction that has given seats back may be committed if it might before. -/
theorem ready_released (id : ℕ) (hold : SeatHold) (seen : Db) (available : ℤ)
    {t t' : Underway Db Row} {d₀ d : Db} (h : seatGuard.Ready t d₀)
    (hrows : ∀ r ∈ t.rows, r ∈ t'.rows) (hb : Row.booking id ∈ t'.rows)
    (hr : Row.ride hold.rideId ∈ t'.rows) (hd : seatGuard.Elapse t.rows d₀ d)
    (hfound : ∀ d', seatGuard.Elapse t'.rows d d' →
      Releasing id hold seen available (t.pending d'))
    (hpending : ∀ x, t'.pending x = releaseIn id hold seen available (t.pending x)) :
    seatGuard.Ready t' d where
  keeps d' hd' := by
    have hkeeps := h.keeps d' (hd.trans (hd'.mono hrows))
    have hreleasing := hfound d' hd'
    rw [hpending]
    refine ⟨hreleasing.kept hkeeps.inv, seatGuard.step_trans hkeeps.step last_releaseIn, ?_⟩
    intro r hr'
    refine seatGuard.trans (hkeeps.same r fun hmem => hr' (hrows r hmem)) (hreleasing.same ?_ ?_)
    · exact fun heq => hr' (heq ▸ hb)
    · exact fun heq => hr' (heq ▸ hr)
  alike d₁ d₂ h₁ h₂ r hsame := by
    rw [hpending, hpending]
    exact (hfound d₁ h₁).alike (hfound d₂ h₂)
      (h.alike d₁ d₂ (hd.trans (h₁.mono hrows)) (hd.trans (h₂.mono hrows)) r hsame)

/-! ### The statements -/

section Statements

variable {α β : Type} {t : Underway Db Row} {d : Db} {P : ℕ → Booking → Bool}
  {f : Booking → Booking} {Q : Except Err α → Underway Db Row → Db → Prop}

/-- A statement that has found no row. -/
theorem write_of_none (hnone : (updateMany bookings P f).answer v = []) (x : Db) :
    (updateMany bookings P f).write v x = x := by
  have hfilter : v.bookings.filter P = [] := List.map_eq_nil_iff.mp hnone
  have hholds : ∀ j, v.bookings.holds P j = false := by
    intro j
    cases hj : v.bookings.get? j with
    | none => simp [Table.holds, hj]
    | some b => simpa [Table.holds, hj] using Table.not_of_filter_nil hfilter hj
  show { x with bookings := x.bookings.modifyWhere (fun j _ => v.bookings.holds P j) f } = x
  have hsame : x.bookings.modifyWhere (fun j _ => v.bookings.holds P j) f = x.bookings := by
    simp [Table.modifyWhere, hholds]
  rw [hsame]

theorem run_of_none {d : Db} (hnone : (updateMany bookings P f).answer (t.pending d) = []) :
    t.run (updateMany bookings P f).statement d = t := by
  have hfilter : (t.pending d).bookings.filter P = [] := List.map_eq_nil_iff.mp hnone
  have hlocks : (updateMany bookings P f).statement.locks (t.pending d) = [] :=
    congrArg (List.map fun r : ℕ × Booking => bookings.row r.1) hfilter
  rw [Underway.run, hlocks, List.append_nil]
  exact congrArg (Underway.mk t.rows) (funext fun x => write_of_none hnone (t.pending x))

/-- A statement that has found the row under one key, which is the only one that it asks for. -/
theorem write_of_some (hP : ∀ j b, P j b = true → j = id)
    (hsome : (updateMany bookings P f).answer v ≠ []) :
    (∃ b, v.bookings.get? id = some b ∧ P id b = true) ∧
      Row.booking id ∈ (updateMany bookings P f).locks v ∧
      ∀ x : Db, (updateMany bookings P f).write v x =
        { x with bookings := x.bookings.modify id f } := by
  have hfilter : v.bookings.filter P ≠ [] := fun hnil => hsome (congrArg (List.map Prod.fst) hnil)
  obtain ⟨⟨j, b⟩, hmem⟩ := List.exists_mem_of_ne_nil _ hfilter
  obtain ⟨hb, hPb⟩ := Table.mem_filter_iff.mp hmem
  obtain rfl := hP j b hPb
  refine ⟨⟨b, hb, hPb⟩, List.mem_map.mpr ⟨(j, b), hmem, rfl⟩, fun x => ?_⟩
  refine congrArg (fun t => { x with bookings := t }) (Table.modifyWhere_eq_modify fun k r _ => ?_)
  constructor
  · intro hk
    cases hrow : v.bookings.get? k with
    | none => simp [Table.holds, bookings, hrow] at hk
    | some b' => exact hP k b' (by simpa [Table.holds, bookings, hrow] using hk)
  · rintro rfl
    simpa [Table.holds, bookings, hb] using hPb

/-- The edges that a booking's seats are taken on are written. -/
theorem body_updateBookedRange {hold : SeatHold} {P : Segment → Bool} {f : Segment → Segment}
    {k : Unit → Tx α} (hinv : seatGuard.Inv d)
    (h : ∀ d' t', seatGuard.Elapse t.rows d d' → (∀ r ∈ t.rows, r ∈ t'.rows) →
      (∀ x, t'.pending x = writeEdges hold P f (t.pending d') (t.pending x)) →
      seatGuard.Body Stmt.statement Q (k ()) t' d') :
    seatGuard.Body Stmt.statement Q ((updateBookedRange hold P f).bind k) t d := by
  have hskip : (∀ seen x : Db, writeEdges hold P f seen x = x) →
      seatGuard.Body Stmt.statement Q (k ()) t d := fun hwrite =>
    h d t (.refl hinv) (fun _ hr => hr) fun x => (hwrite _ _).symm
  unfold updateBookedRange
  cases hpickup : hold.pickupPosition with
  | none => exact hskip fun seen x => by simp [writeEdges, hpickup]
  | some pickup =>
    cases hdropoff : hold.dropoffPosition with
    | none => exact hskip fun seen x => by simp [writeEdges, hpickup, hdropoff]
    | some dropoff =>
      refine Guarded.Body.command_bind fun d' hd' => ?_
      refine h d' _ hd' (fun r hr => List.mem_append_left _ hr) fun x => ?_
      simp only [writeEdges, hpickup, hdropoff]
      rfl

end Statements

/-- What is counted once a booking holds nothing any more. -/
theorem heldSeats_released (rideId : ℕ) (hold : SeatHold) (P : Segment → Bool)
    (f : Segment → Segment) (seen v : Db) :
    (heldSeats rideId none).answer (writeEdges hold P f seen
        { v with bookings := v.bookings.modify id Booking.released }) =
      ((v.rideSeats rideId).without id).taken := by
  rw [heldSeats_none, Db.rideSeats, writeEdges_bookings, writeEdges_rides]
  have hholders : (v.bookings.modify id Booking.released).select (Booking.heldOn rideId) =
      ((v.rideSeats rideId).without id).holders :=
    Table.select_modify_none fun b _ => by simp [Booking.heldOn, Booking.holdsOn, Booking.released]
  exact congrArg (List.tally _ _) hholders

/-- A booking has stopped holding seats; the edges and the seats that are left follow. -/
theorem body_releaseSegmentSeats {t t₁ : Underway Db Row} {d₁ : Db} (h : seatGuard.Ready t d₁)
    (hrows : ∀ r ∈ t.rows, r ∈ t₁.rows) (hlock : Row.booking id ∈ t₁.rows)
    (hpending : ∀ x, t₁.pending x =
      { t.pending x with bookings := (t.pending x).bookings.modify id Booking.released })
    (hinv : seatGuard.Inv d₁) (hknows : d₁.Knows id hold)
    (hheld : ∀ c, (t.pending d₁).seatColumns id = some c → c.held = true) :
    seatGuard.Body Stmt.statement (Service.Returns seatGuard fun _ _ => True)
      (releaseSegmentSeats hold) t₁ d₁ := by
  refine Guarded.Body.command_bind fun d₂ hd₂ => ?_
  refine body_updateBookedRange hd₂.inv fun d₃ t₃ hd₃ hrows₃ hpending₃ => ?_
  refine Guarded.Body.command_bind fun d₄ hd₄ => ?_
  refine Guarded.Body.perform_bind (fun d₅ _ hd₅ _ => ?_) fun _ _ _ _ => trivial
  have hrows₁ : ∀ r ∈ t₁.rows, r ∈ t₃.rows := fun r hr => hrows₃ r (Underway.mem_run hr)
  have hride : Row.ride hold.rideId ∈ t₃.rows :=
    hrows₃ _ (List.mem_append_right _ (List.mem_singleton_self _))
  -- what may have happened since each of the reads
  have helapse₃ : ∀ d', seatGuard.Elapse t₃.rows d₅ d' → seatGuard.Elapse [.ride hold.rideId] d₃ d' ∧
      seatGuard.Elapse [.ride hold.rideId] d₄ d' ∧ seatGuard.Elapse t₁.rows d₁ d' := by
    intro d' hd'
    have hd₅' := hd₅.mono fun r hr => Underway.mem_run hr
    have hsingle : ∀ r ∈ [Row.ride hold.rideId], r ∈ t₃.rows := fun r hr =>
      List.mem_singleton.mp hr ▸ hride
    have h₄ := hd₅'.trans hd'
    have h₃ := hd₄.trans h₄
    refine ⟨h₃.mono hsingle, h₄.mono hsingle, ?_⟩
    exact hd₂.trans ((hd₃.mono fun r hr => Underway.mem_run hr).trans (h₃.mono hrows₁))
  refine ⟨ready_released id hold (t₁.pending d₃)
    (max 0 (hold.totalSeats - (heldSeats hold.rideId none).answer (t₃.pending d₄))) h
    (fun r hr => Underway.mem_run (Underway.mem_run (hrows₁ r (hrows r hr))))
    (Underway.mem_run (Underway.mem_run (hrows₁ _ hlock)))
    (Underway.mem_run (Underway.mem_run hride))
    ?_ ?_ ?_, trivial⟩
  · exact (helapse₃ d₅ (.refl hd₅.inv)).2.2.mono hrows
  · intro d' hd'
    obtain ⟨h₃, h₄, h₁⟩ := helapse₃ d' (hd'.mono fun r hr => Underway.mem_run (Underway.mem_run hr))
    have hopen₁ := h₁.mono hrows
    have hstart : seatGuard.Elapse t.rows d₁ d₁ := .refl hinv
    have hopen₃ : seatGuard.Elapse t.rows d₁ d₃ :=
      (hd₂.trans (hd₃.mono fun r hr => Underway.mem_run hr)).mono hrows
    have hopen₄ : seatGuard.Elapse t.rows d₁ d₄ := hopen₃.trans (hd₄.mono fun r hr =>
      hrows₁ r (hrows r hr))
    have hbooks₃ : (t.pending d').rideSeats hold.rideId = (t.pending d₃).rideSeats hold.rideId :=
      h.alike d₃ d' hopen₃ hopen₁ (.ride hold.rideId) (h₃.same _ (List.mem_singleton_self _))
    have hbooks₄ : (t.pending d').rideSeats hold.rideId = (t.pending d₄).rideSeats hold.rideId :=
      h.alike d₄ d' hopen₄ hopen₁ (.ride hold.rideId) (h₄.same _ (List.mem_singleton_self _))
    have hcolumns : (t.pending d').seatColumns id = (t.pending d₁).seatColumns id :=
      h.alike d₁ d' hstart hopen₁ (.booking id) (h₁.same _ hlock)
    refine ⟨?_, fun c hc => hheld c (hcolumns ▸ hc), ?_, ?_⟩
    · exact lasting_knows id hold _ _ hknows
        (seatGuard.step_trans h₁.step (h.keeps d' hopen₁).step)
    · rw [hpending, hbooks₃]
      rfl
    · rw [hpending₃, hbooks₄]
      refine congrArg (fun n => max 0 (hold.totalSeats - n)) ?_
      change (heldSeats hold.rideId none).answer (writeEdges hold _ _ (t₁.pending d₃)
        (t₁.pending d₄)) = _
      rw [hpending d₄]
      exact heldSeats_released hold.rideId hold _ _ _ _
  · intro x
    change writeLeft hold.rideId _ (t₃.pending x) = _
    rw [hpending₃ x]
    change writeLeft hold.rideId _ (writeEdges hold _ _ (t₁.pending d₃) (t₁.pending x)) = _
    rw [hpending x]
    rfl

/-- **Giving seats back** keeps a transaction ready, whatever is committed between its statements. -/
theorem body_releaseBookingSeats {t : Underway Db Row} {d : Db} (h : seatGuard.Ready t d)
    (hknows : d.Knows id hold) :
    seatGuard.Body Stmt.statement (Service.Returns seatGuard fun _ _ => True)
      (releaseBookingSeats id hold) t d := by
  refine Guarded.Body.command_bind fun d₁ hd₁ => ?_
  have h₁ := h.elapse hd₁
  have hP : ∀ j (b : Booking), (j == id && b.seatsReservedAt.isSome) = true → j = id :=
    fun j b hj => beq_iff_eq.mp (Bool.and_eq_true_iff.mp hj).1
  split_ifs with hnone
  · -- the booking holds nothing
    have hrun := run_of_none (t := t) (f := Booking.released) hnone
    exact ⟨hrun.symm ▸ h₁, trivial⟩
  obtain ⟨⟨b, hb, hheld⟩, hlock, hwrite⟩ := write_of_some (f := Booking.released) hP hnone
  have hcolumns : (t.pending d₁).seatColumns id = some b.seatColumns := Table.viewed_of_get? hb
  refine Guarded.Body.sequence (A := fun _ _ => True) ?_ fun _ _ _ hready _ => ⟨hready, trivial⟩
  refine body_releaseSegmentSeats h₁ (fun r hr => List.mem_append_left _ hr)
    (List.mem_append_right _ hlock) (fun x => hwrite (t.pending x)) hd₁.inv
    (lasting_knows id hold _ _ hknows hd₁.step) fun c hc => ?_
  obtain rfl := Option.some.inj (hcolumns.symm.trans hc)
  exact (Bool.and_eq_true_iff.mp hheld).2

end Release

end Deliivo
