import Deliivo.Booking.Ending

/-!
# Deleting an account

A user who leaves takes their open requests and offers along, cancels the rides that they still
drive with the bookings on them, and cancels the bookings that they hold themselves. Each ride, and
each booking of the user's own, is one transaction, which refunds at Stripe before it commits. Only
then is the user's record anonymised.

## Main definitions

* `closeBooking`: a booking is cancelled, gives its seats back and is refunded
* `closeRide`: a ride of the user is cancelled with the bookings on it
* `deleteUserAccount`
-/

namespace Deliivo

/-! ## What is closed -/

/-- `ACTIVE_BOOKING_STATUSES` of the deletion. -/
def BookingStatus.closesWithAccount : BookingStatus → Bool
  | .driverPending | .confirmed | .inProgress => true
  | _ => false

/-- `CANCELLABLE_RIDE_STATUSES`. -/
def RideStatus.closesWithAccount : RideStatus → Bool
  | .published | .inProgress => true
  | _ => false

/-- The intent and the amount to refund a booking by, where it has both; an amount of zero is
none. -/
def Booking.refundable (booking : Booking) : Option (ℕ × ℤ) :=
  match booking.stripePaymentIntentId, booking.paymentAmount with
  | some paymentIntent, some amount => if amount = 0 then none else some (paymentIntent, amount)
  | _, _ => none

/-- What the deletion makes of a booking that it has read as `listed`. -/
def Booking.closed (listed : Booking) (now : ℕ) (booking : Booking) : Booking :=
  { booking with
    status := .cancelled
    cancelledAt := some now
    cancelledByRole := some .system
    refundAmount := listed.paymentAmount
    refundPercent := some 100 }

/-- Refund a booking at Stripe, if it was paid there. -/
def refundClosed (ctx : Ctx) (listed : ℕ × Booking) : StripeTx Unit :=
  match listed.2.refundable with
  | none => return ()
  | some (paymentIntent, amount) => do
    let _ ← txRefund paymentIntent (toMinorCurrencyUnits amount)
    txWriteBooking listed.1 fun b => { b with refundedAt := some ctx.now }

/-- Cancel one booking, give its seats back and refund it. -/
def closeBooking (ctx : Ctx) (listed : ℕ × Booking) (totalSeats : ℤ) : StripeTx Unit := do
  (endBooking listed.1 (listed.2.hold totalSeats) (listed.2.closed ctx.now)).lift
  refundClosed ctx listed

/-- A ride of the user, with the bookings on it that are closed. -/
structure ClosedRide where
  rideId : ℕ
  ride : Ride
  bookings : List (ℕ × Booking)

/-- Cancel a ride and the bookings on it. -/
def closeRide (closed : ClosedRide) (ctx : Ctx) : StripeTx Unit := do
  let _ ← txSqlOrThrow (update rides closed.rideId fun r => { r with status := .cancelled })
  Program.forEach closed.bookings fun booking => closeBooking ctx booking closed.ride.totalSeats

/-! ## The call -/

/-- `rideRequestOffer.count`: whether an offer of the user, or to the user, is being paid for. -/
def checkoutInProgress (userId : ℕ) : Stmt Bool where
  answer d := d.offers.rows.any fun o => o.2.status == .selected &&
    (o.2.driverId == userId || (d.requests.get? o.2.requestId).any (·.riderId == userId))

/-- `rideRequest.deleteMany`: the offers of a request go with it. -/
def deleteRequestsOf (userId : ℕ) : Stmt Unit where
  answer _ := ()
  write seen d :=
    let gone := fun id => seen.requests.holds (fun _ r => r.riderId == userId) id
    { d with
      requests := d.requests.deleteWhere fun id _ => gone id
      offers := d.offers.deleteWhere fun _ o => gone o.requestId }

/-- The rides that the user still drives, with the bookings on them that are closed. -/
def findActiveRides (userId : ℕ) : Stmt (List ClosedRide) where
  answer d :=
    (d.rides.filter fun _ r => r.driverId == userId && r.status.closesWithAccount).map fun r =>
      { rideId := r.1
        ride := r.2
        bookings := d.bookings.filter fun _ b => b.rideId == r.1 && b.status.closesWithAccount }

/-- The bookings that the user holds, each with the seats of its ride. -/
def findActiveBookings (passengerId : ℕ) : Stmt (List ((ℕ × Booking) × ℤ)) where
  answer d :=
    (d.bookings.filter fun _ b => b.passengerId == passengerId && b.status.closesWithAccount).filterMap
      fun b => (d.rides.get? b.2.rideId).map fun ride => (b, ride.totalSeats)

/-- The bookings that a transaction has ended, and whether it has refunded them. -/
def reportClosed (closed : List (ℕ × Booking)) : List Event :=
  closed.map fun b => .bookingEnded b.1 b.2.refundable.isSome

/-- `refreshToken.deleteMany`: the user's sessions end. -/
def revokeRefreshTokens (userId : ℕ) : Service Unit :=
  sql (deleteMany refreshTokens fun _ token => token.userId == userId)

/-- `clearPreferredLocaleCache` and `clearDetectedCountryCache`. -/
def clearCaches : Service Unit := do
  notify
  notify

def deleteUserAccount (userId : ℕ) : Service Unit := do
  let inProgress ← sql (checkoutInProgress userId)
  if inProgress then
    throw <| .text <| "A ride request payment is still being processed. " ++
      "Please retry account deletion after checkout expires."
  else
    sql (deleteRequestsOf userId)
    sql (deleteMany offers fun _ o => o.driverId == userId && o.status != .accepted)
    let activeRides ← sql (findActiveRides userId)
    -- one transaction a ride and one a booking: what is closed stays closed if a later one fails
    Program.forEach activeRides fun closed =>
      Program.perform (.transactWithStripe (closeRide closed) fun _ => reportClosed closed.bookings)
    let activeBookings ← sql (findActiveBookings userId)
    Program.forEach activeBookings fun booking =>
      Program.perform (.transactWithStripe (fun ctx => closeBooking ctx booking.1 booking.2)
        fun _ => reportClosed [booking.1])
    revokeRefreshTokens userId
    let _ ← sqlOrThrow (update users userId fun u => { u with stripeAccountId := none })
    clearCaches

end Deliivo
