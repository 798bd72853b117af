import Deliivo.Arith.Hundredths
import Deliivo.Domain.World
import Deliivo.Program.ReadCommitted
import Deliivo.Text.Strings

/-!
# Rating the other side of a booking

A rating and the statistics of the user who is rated are written in one transaction. The statistics are
read, added to and written back; the row of a user who has none yet is created. Two unique indexes stand
behind it: one rating for a booking and a rater, and one row of statistics for a user.

## Main definitions

* `RideRating`, `UserRatingStats`, `RatingDb`: the rows
* `submitBookingRating`
* `ratingPool`: calls next to each other, and next to what becomes of bookings and rides
-/

open Program (Concurrent Server ServerCall Statement)

namespace Deliivo

/-! ## The rows -/

structure RideRating where
  bookingId : ℕ
  rideId : ℕ
  raterId : ℕ
  rateeId : ℕ
  stars : ℤ
  reviewText : Option String := none
  deriving DecidableEq, Repr

structure UserRatingStats where
  totalRatings : ℤ
  totalStars : ℤ
  averageRating : ℚ
  deriving DecidableEq, Repr

/-- The ratings, and the statistics under the id of their user, next to all other tables. -/
structure RatingDb where
  db : Db := {}
  ratings : List RideRating := []
  stats : Table UserRatingStats := .empty

/-- What a statement can lock: an entry of one of the two unique indexes. -/
inductive RatingRow
  | rating (bookingId raterId : ℕ)
  | stats (userId : ℕ)
  deriving DecidableEq, Repr

/-- The columns of the two indexes, as an error names them. -/
inductive RatingColumn
  | bookingId
  | raterId
  | userId
  deriving DecidableEq, Repr

/-- What a call throws. -/
inductive RatingError
  | unavailable
  | notFound
  /-- `P2002`, with the columns of the index (`meta.target`). -/
  | uniqueViolation (target : List RatingColumn)
  | text (message : String)
  deriving DecidableEq, Repr

/-- What a commit says: the statistics of a user were written, on top of this row. -/
inductive RatingEvent
  | statsUpdated (userId : ℕ) (read : UserRatingStats)
  deriving DecidableEq, Repr

/-- A statement on ratings. -/
abbrev RatingStatement := Statement RatingDb RatingRow RatingEvent

/-- A program of such statements. -/
abbrev RatingProgram := Program (ServerCall RatingDb RatingRow RatingEvent RatingError) RatingError

/-! ## The statements -/

/-- `rideBooking.findUnique`, with the ride. -/
def findRatedBooking (bookingId : ℕ) : RatingStatement (Option (Booking × Ride)) where
  answer d := do
    let booking ← d.db.bookings.get? bookingId
    let ride ← d.db.rides.get? booking.rideId
    return (booking, ride)

/-- A rating is the one of a booking and a rater. -/
def RideRating.isOf (bookingId raterId : ℕ) (rating : RideRating) : Bool :=
  rating.bookingId == bookingId && rating.raterId == raterId

/-- `rideRating.findUnique`; whether there is one. -/
def findRating (bookingId raterId : ℕ) : RatingStatement Bool where
  answer d := d.ratings.any (RideRating.isOf bookingId raterId)

/-- `rideRating.create`. -/
def createRating (rating : RideRating) : RatingStatement (Except RatingError Unit) where
  locks _ := [.rating rating.bookingId rating.raterId]
  answer d :=
    if d.ratings.any (RideRating.isOf rating.bookingId rating.raterId) then
      .error (.uniqueViolation [.bookingId, .raterId])
    else .ok ()
  write seen d :=
    if seen.ratings.any (RideRating.isOf rating.bookingId rating.raterId) then d
    else { d with ratings := d.ratings ++ [rating] }

/-- `userRatingStats.findUnique`. -/
def findStats (userId : ℕ) : RatingStatement (Option UserRatingStats) where
  answer d := d.stats.get? userId

/-- `userRatingStats.create`. -/
def createStats (userId : ℕ) (row : UserRatingStats) : RatingStatement (Except RatingError Unit) where
  locks _ := [.stats userId]
  answer d :=
    if (d.stats.get? userId).isSome then .error (.uniqueViolation [.userId]) else .ok ()
  write seen d :=
    if (seen.stats.get? userId).isSome then d else { d with stats := d.stats.insert userId row }

/-- `userRatingStats.update`. -/
def updateStats (userId : ℕ) (row : UserRatingStats) : RatingStatement (Except RatingError Unit) where
  locks _ := [.stats userId]
  answer d := if (d.stats.get? userId).isSome then .ok () else .error .notFound
  write _ d := { d with stats := d.stats.modify userId fun _ => row }

/-! ## The call -/

/-- `SubmitRatingInput`. -/
structure SubmitRatingInput where
  stars : ℚ
  reviewText : Option String := none

/-- The text of a review, none if it is blank. -/
def SubmitRatingInput.review (input : SubmitRatingInput) : Option String :=
  (input.reviewText.map trim).filter fun text => !text.isEmpty

/-- `rateableBookingStatuses`. -/
def BookingStatus.isRateable : BookingStatus → Bool
  | .completed | .noShow | .driverMissedPickup => true
  | _ => false

/-- `acceptedBookingStatuses`. -/
def BookingStatus.isAccepted : BookingStatus → Bool
  | .confirmed | .waitingForPickup | .driverArrived | .otpPending | .inProgress | .onboard
  | .dropPending | .driverDropped | .disputed => true
  | _ => false

def isBookingRateable (bookingStatus : BookingStatus) (rideStatus : RideStatus) : Bool :=
  bookingStatus.isRateable || rideStatus == .completed && bookingStatus.isAccepted

def isDuplicateRatingConstraint : RatingError → Bool
  | .uniqueViolation target => target.contains .bookingId && target.contains .raterId
  | _ => false

/-- The checks, and the rating that is to be written. -/
def checkRating (raterId bookingId : ℕ) (input : SubmitRatingInput) (booking : Booking)
    (ride : Ride) : Except RatingError RideRating :=
  if !isBookingRateable booking.status ride.status then .error (.text "BOOKING_NOT_COMPLETED")
  else
    -- the rider rates the driver and the driver the rider
    let isPassenger := booking.passengerId == raterId
    let isDriver := ride.driverId == raterId
    if !isPassenger && !isDriver then .error (.text "NOT_BOOKING_PARTICIPANT")
    else
      let rateeId := if isPassenger then ride.driverId else booking.passengerId
      if rateeId = raterId then .error (.text "SELF_RATING_NOT_ALLOWED")
      else .ok {
        bookingId
        rideId := booking.rideId
        raterId, rateeId
        stars := input.stars.num
        reviewText := input.review }

/-- The statistics of a first rating. -/
def firstStats (stars : ℤ) : UserRatingStats where
  totalRatings := 1
  totalStars := stars
  averageRating := (stars : ℚ).toHundredth

/-- The statistics with one rating more. The average is the exact one, a half hundredth rounded up,
where the source applies `toFixed(2)` to a double. -/
def UserRatingStats.add (existing : UserRatingStats) (stars : ℤ) : UserRatingStats where
  totalRatings := existing.totalRatings + 1
  totalStars := existing.totalStars + stars
  averageRating :=
    (((existing.totalStars + stars : ℤ) : ℚ) / (existing.totalRatings + 1 : ℤ)).toHundredth

/-- Write a rating and the statistics of its user: the row that they were read from, if there was
one. -/
def writeRating (rating : RideRating) : RatingProgram (Option UserRatingStats) := do
  let created ← Program.perform (.run (createRating rating))
  Program.ofExcept created
  let existing ← Program.perform (.run (findStats rating.rateeId))
  match existing with
  | none => do
    let written ← Program.perform (.run (createStats rating.rateeId (firstStats rating.stars)))
    Program.ofExcept written
    return none
  | some row => do
    let written ← Program.perform (.run (updateStats rating.rateeId (row.add rating.stars)))
    Program.ofExcept written
    return some row

/-- The transaction: what the index of ratings refuses was rated before. -/
def writeRatingOnce (rating : RideRating) : RatingProgram (Option UserRatingStats) :=
  (writeRating rating).tryCatch fun e =>
    if isDuplicateRatingConstraint e then throw (.text "RATING_ALREADY_SUBMITTED") else throw e

/-- `submitBookingRating`. -/
def submitBookingRating (raterId bookingId : ℕ) (input : SubmitRatingInput) :
    RatingProgram RideRating :=
  if !(input.stars.isInt && decide (1 ≤ input.stars) && decide (input.stars ≤ 5)) then
    throw (.text "INVALID_RATING_VALUE")
  else do
    let found ← Program.autocommit (findRatedBooking bookingId)
    match found with
    | none => throw (.text "BOOKING_NOT_FOUND")
    | some (booking, ride) => do
      let rating ← Program.ofExcept (checkRating raterId bookingId input booking ride)
      -- read outside the transaction; two calls may both find nothing
      let existing ← Program.autocommit (findRating bookingId raterId)
      if existing then throw (.text "RATING_ALREADY_SUBMITTED")
      else do
        let _ ← Program.transaction (writeRatingOnce rating) fun read =>
          read.toList.map (.statsUpdated rating.rateeId)
        return rating

/-! ## Calls next to each other -/

/-- A call. -/
structure RatingCall where
  raterId : ℕ
  bookingId : ℕ
  input : SubmitRatingInput

/-- The program of a call. -/
def RatingCall.program (call : RatingCall) : RatingProgram Unit :=
  (submitBookingRating call.raterId call.bookingId call.input).bind fun _ => .ret ()

/-- Any number of calls, while bookings, rides and all other tables become anything. -/
def ratingPool :
    Concurrent (ServerCall RatingDb RatingRow RatingEvent RatingError) RatingError Bool RatingEvent
      (Server RatingDb RatingRow) Db RatingCall :=
  Program.serverPool .unavailable (fun db d => { d with db }) RatingCall.program

end Deliivo
