import Deliivo.Domain.World
import Deliivo.Store.Tally

/-!
# Seats

A ride's capacity is counted for the whole ride. Which bookings hold seats is said by their column
`seatsReservedAt` alone; `availableSeats` of the ride is recomputed from it under a lock on the
ride, and the edges of the ride record besides how many seats are taken on each leg.

## Main definitions

* `SeatHold`: the booking on whose behalf seats are taken or given back
* `reserveRideSeats`, `reserveSeatsForBooking`: take seats, or throw and let the transaction roll
  back
* `releaseBookingSeats`: give back what the booking holds, once
-/

namespace Deliivo

/-- `ReleaseSeatsInput`. -/
structure SeatHold where
  rideId : ℕ
  seatsBooked : ℤ
  pickupPosition : Option ℤ
  dropoffPosition : Option ℤ
  totalSeats : ℤ
  deriving DecidableEq, Repr

/-- The seats of a booking on a ride with `totalSeats`. -/
def Booking.hold (booking : Booking) (totalSeats : ℤ) : SeatHold where
  rideId := booking.rideId
  seatsBooked := booking.seatsBooked
  pickupPosition := booking.pickupPosition
  dropoffPosition := booking.dropoffPosition
  totalSeats

/-- A booking with its ride, as the services include it. -/
def findBookingWithRide (bookingId : ℕ) : Stmt (Option (Booking × Ride)) where
  answer d := do
    let booking ← d.bookings.get? bookingId
    let ride ← d.rides.get? booking.rideId
    return (booking, ride)

/-- `findUniqueOrThrow`, with the ride included. -/
def findBookingWithRideOrThrow (bookingId : ℕ) : Stmt (Except Err (Booking × Ride)) where
  answer d := ((findBookingWithRide bookingId).answer d).elim (.error .notFound) .ok

/-! ## Counting -/

/-- Whether a booking holds seats on a ride. -/
def Booking.holdsOn (rideId : ℕ) (booking : Booking) : Bool :=
  booking.rideId == rideId && booking.seatsReservedAt.isSome

/-- The seats held on a ride by the bookings other than `exclude`. -/
def heldSeats (rideId : ℕ) (exclude : Option ℕ) : Stmt ℤ where
  answer d := d.bookings.rows.tally
    (fun r => r.2.holdsOn rideId && exclude.all (· != r.1)) fun r => r.2.seatsBooked

/-- `SELECT … FOR UPDATE` on the ride. -/
def lockRideForSeats (rideId : ℕ) : Stmt Unit where
  locks _ := [.ride rideId]
  answer _ := ()

/-- `bookedRangeWhere`: the edges from a pickup to a dropoff. -/
def bookedRange (rideId : ℕ) (pickup dropoff : ℤ) (segment : Segment) : Bool :=
  segment.rideId == rideId && decide (pickup ≤ segment.fromPosition) &&
    decide (segment.toPosition ≤ dropoff)

/-- Change the edges that a booking's seats are taken on and that satisfy `P`; a booking without
positions is on none. -/
def updateBookedRange (hold : SeatHold) (P : Segment → Bool) (f : Segment → Segment) : Tx Unit :=
  match hold.pickupPosition, hold.dropoffPosition with
  | some pickup, some dropoff =>
    (Program.command <|
      updateMany segments (fun _ s => bookedRange hold.rideId pickup dropoff s && P s) f).bind
        fun _ => .ret ()
  | _, _ => .ret ()

/-- Write the number of seats that are left on a ride. -/
def writeAvailableSeats (rideId : ℕ) (availableSeats : ℤ) : Tx Unit := do
  let _ ← Program.perform (update rides rideId fun r => { r with availableSeats })

/-! ## Giving seats back -/

def recomputeAvailableSeats (rideId : ℕ) (totalSeats : ℤ) : Tx Unit := do
  let held ← Program.command (heldSeats rideId none)
  writeAvailableSeats rideId (max 0 (totalSeats - held))

/-- Give seats back on the edges and recount; the booking has stopped holding seats. -/
def releaseSegmentSeats (hold : SeatHold) : Tx Unit := do
  Program.command (lockRideForSeats hold.rideId)
  -- an edge that counts fewer seats than are given back is passed over
  updateBookedRange hold (fun s => decide (hold.seatsBooked ≤ s.occupiedSeats))
    fun s => { s with occupiedSeats := s.occupiedSeats - hold.seatsBooked }
  recomputeAvailableSeats hold.rideId hold.totalSeats

/-- Stop a booking from holding seats; the answer names it if it did. -/
def claimSeatRelease (bookingId : ℕ) : Stmt (List ℕ) :=
  updateMany bookings (fun id b => id == bookingId && b.seatsReservedAt.isSome)
    fun b => { b with seatsReservedAt := none }

/-- Release a booking's seats exactly once: clearing `seatsReservedAt` is the claim. -/
def releaseBookingSeats (bookingId : ℕ) (hold : SeatHold) : Tx Bool := do
  let claimed ← Program.command (claimSeatRelease bookingId)
  if claimed = [] then
    return false
  else
    releaseSegmentSeats hold
    return true

/-! ## Taking seats -/

/-- Take seats, counted against the whole ride. `bookingId` is the booking that takes them where
its row already says so, so that it is not counted twice. -/
def reserveRideSeats (hold : SeatHold) (bookingId : Option ℕ) : Tx Unit := do
  Program.command (lockRideForSeats hold.rideId)
  let held ← Program.command (heldSeats hold.rideId bookingId)
  if hold.totalSeats < held + hold.seatsBooked then
    throw (.text "INSUFFICIENT_SEATS")
  else
    updateBookedRange hold (fun _ => true)
      fun s => { s with occupiedSeats := s.occupiedSeats + hold.seatsBooked }
    writeAvailableSeats hold.rideId (hold.totalSeats - held - hold.seatsBooked)

/-- Take seats on a ride that can be booked: a published one or, for an offer that is being
confirmed, a draft. The status is read under the lock. -/
def reserveSeatsForBooking (hold : SeatHold) (bookingId : Option ℕ) (allowDraft : Bool) :
    Tx Unit := do
  reserveRideSeats hold bookingId
  let ride ← Program.command (findUnique rides hold.rideId)
  let bookable : RideStatus := if allowDraft then .draft else .published
  if ride.map (·.status) = some bookable then
    return ()
  else
    throw (.text "RIDE_NOT_FOUND")

end Deliivo
