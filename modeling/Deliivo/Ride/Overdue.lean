import Deliivo.Booking.Ending

/-!
# Rides that were never started

A ride that nobody has started two hours after its departure is closed: it is cancelled with the
bookings that the sweeper has read as active, or expires if there are none. Nothing is refunded; that
is left to a human.

## Main definitions

* `closeOverdueRideTx`: the transaction
* `closeOverdueUnstartedRide`
-/

namespace Deliivo

/-- The bookings that an overdue ride is cancelled with. -/
def BookingStatus.waitsForOverdueRide : BookingStatus → Bool
  | .driverPending | .confirmed | .waitingForPickup | .driverArrived | .otpPending | .onboard
  | .dropPending | .inProgress => true
  | _ => false

/-- Whether a ride can still be closed unstarted. -/
def Ride.unstarted (ride : Ride) : Bool :=
  (ride.status == .published || ride.status == .scheduled || ride.status == .readyToStart) &&
    ride.actualStartTime.isNone

/-- What the transaction makes of a booking that was active when it was read. -/
def Booking.cancelledOverdue (now : ℕ) (booking : Booking) : Booking :=
  { booking with
    status := .cancelled
    cancelledAt := some now
    cancelledByRole := some .system
    refundPercent := some 100 }

/-- Cancel the bookings, whatever has become of them, and give their seats back. -/
def cancelOverdueBookings (ride : Ride) (activeBookings : List (ℕ × Booking)) (now : ℕ) : Tx Unit := do
  let _ ← Program.command <|
    updateMany bookings (fun id _ => activeBookings.any fun b => b.1 == id)
      (Booking.cancelledOverdue now)
  Program.forEach activeBookings fun booking =>
    endBooking booking.1 (booking.2.hold ride.totalSeats) fun b =>
      { b with refundAmount := some booking.2.fullRefundAmount }

/-- The transaction of `closeOverdueUnstartedRide`; whether it closed the ride. -/
def closeOverdueRideTx (rideId : ℕ) (ride : Ride) (activeBookings : List (ℕ × Booking)) (now : ℕ) :
    Tx Bool := do
  let closed ← Program.command <|
    updateMany rides (fun id r => id == rideId && r.unstarted) fun r =>
      { r with status := if activeBookings = [] then .expired else .cancelled }
  if closed = [] then return false
  else if activeBookings = [] then return true
  else
    cancelOverdueBookings ride activeBookings now
    return true

/-- What the commit of the transaction means. -/
def reportRideClosed (rideId : ℕ) (activeBookings : List (ℕ × Booking)) (closed : Bool) :
    List Event :=
  if closed then [.rideClosed rideId (activeBookings.map Prod.fst)] else []

/-- `closeOverdueUnstartedRide`, for a ride and its bookings as the sweeper has read them. -/
def closeOverdueUnstartedRide (rideId : ℕ) (ride : Ride) (rideBookings : List (ℕ × Booking)) :
    Service Unit := do
  -- the bookings as the job listed them
  let activeBookings := rideBookings.filter fun b => b.2.status.waitsForOverdueRide
  let now ← Program.command .clock
  let rideClosed ← Program.perform <| .transact
    (fun _ => closeOverdueRideTx rideId ride activeBookings now)
    (reportRideClosed rideId activeBookings)
  if rideClosed = false then return ()
  else if activeBookings = [] then
    notify
    createIssue {
      paymentId := none, bookingId := none, issueType := .overdueRideExpired, rideId := some rideId }
  else
    notify
    Program.forEach activeBookings fun _ => notify
    createIssue {
      paymentId := none, bookingId := none, issueType := .overdueRideAutoCancelled
      rideId := some rideId }

end Deliivo
