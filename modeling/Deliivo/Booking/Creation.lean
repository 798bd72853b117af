import Deliivo.Booking.Ending

/-!
# Creating a booking

In bypass mode a booking is created paid, with its seats, in one transaction. In Stripe mode its
PaymentIntent is created first and the booking is written behind it, unpaid and without seats; if that
transaction fails the intent is cancelled, as far as Stripe can be reached. A rider who has an unpaid
booking on the ride already gets it back as long as its intent can be paid.

## Main definitions

* `resolveBookingPlan`: what is read and checked before a booking is written
* `createPaidBooking`, `createUnpaidBooking`: the transactions
* `resolvePendingBookingReentry`: what becomes of an unpaid booking that is there already
* `createBooking`
-/

namespace Deliivo

/-! ## The plan -/

/-- `CreateBookingInput`. -/
structure CreateBookingInput where
  rideId : ℕ
  seatsBooked : ℤ
  responseExpiryOption : Option ExpiryOption := none

/-- The part of the route that is booked, and its price. -/
structure RoutePlan where
  pickupPosition : ℤ
  dropoffPosition : ℤ
  segmentFare : ℤ
  priceBreakdown : PriceBreakdown

/-- What the checks read besides rides and bookings: the rider's account, the blocks between users,
and the points of the route with the fees on them. -/
structure BookingRules where
  /-- The terms that the rider has accepted, bans, the rider's age and the child seat. -/
  account : Except Err Unit := .ok ()
  /-- Whether the rider and the driver of a ride have blocked each other. -/
  blocked : Ride → Bool := fun _ => false
  /-- Whether a ride takes women only and the rider is none. -/
  femaleOnly : Ride → Bool := fun _ => false
  /-- `resolveSegmentView` with the price of the segment. -/
  route : Ride → Except Err RoutePlan

structure BookingPlan where
  ride : Ride
  route : RoutePlan
  driverDecisionDeadlineAt : ℕ

/-- `MAX_SEATS_PER_BOOKING`. -/
def maxSeatsPerBooking : ℤ := 4

/-- `SAME_DAY_MINIMUM_BOOKING_LEAD_MS`. -/
def sameDayMinimumBookingLeadMs : ℕ := 60 * 60 * 1000

def dayMs : ℕ := 24 * 60 * 60 * 1000

def isSameUtcDay (left right : ℕ) : Bool := left / dayMs == right / dayMs

def isBookingWindowClosed (departureAt now : ℕ) : Bool :=
  decide (departureAt ≤ now) ||
    isSameUtcDay departureAt now && decide (departureAt < now + sameDayMinimumBookingLeadMs)

/-- `ACTIVE_BOOKING_STATUSES`, the statuses of the unique index on rider and ride. -/
def BookingStatus.active : BookingStatus → Bool
  | .driverPending | .confirmed | .inProgress => true
  | _ => false

/-- Whether a row is an active booking of the rider on the ride. -/
def isActiveBookingOf (rideId passengerId : ℕ) (_id : ℕ) (booking : Booking) : Bool :=
  booking.rideId == rideId && booking.passengerId == passengerId && booking.status.active

section Plan

variable (settings : Settings) (rules : BookingRules) (passengerId : ℕ) (input : CreateBookingInput)

/-- The deadline of the driver's decision: in bypass mode the rider has chosen it. -/
def decisionDeadline (departureAt now : ℕ) : ℕ :=
  if settings.bypassPayment then calculateDeadline input.responseExpiryOption departureAt now
  else now + driverDecisionWindowMs

/-- The checks on the ride that come before bookings are looked at. -/
def checkRide (ride : Ride) (now : ℕ) : Except Err Unit :=
  if isBookingWindowClosed ride.departureAt now then .error (.text "BOOKING_WINDOW_CLOSED")
  else if ride.driverId = passengerId then .error (.text "CANNOT_BOOK_OWN_RIDE")
  else if rules.blocked ride then .error (.text "USER_BLOCKED")
  else if input.seatsBooked < 1 then .error (.text "MINIMUM_ONE_SEAT_REQUIRED")
  else if maxSeatsPerBooking < input.seatsBooked then .error (.text "MAXIMUM_SEATS_EXCEEDED")
  else .ok ()

/-- The checks that come after them: the plan, if they are passed. -/
def planOn (ride : Ride) (now : ℕ) : Except Err BookingPlan :=
  if rules.femaleOnly ride then .error (.text "FEMALE_ONLY_RIDE")
  else
    match rules.route ride with
    | .error e => .error e
    | .ok route =>
      if ride.availableSeats < input.seatsBooked then .error (.text "INSUFFICIENT_SEATS")
      else .ok {
        ride, route
        driverDecisionDeadlineAt := decisionDeadline settings input ride.departureAt now }

/-- `resolveBookingPlan`: an offer's ride has to be a draft, any other published. -/
def resolveBookingPlan (now : ℕ) (answersRequest : Bool) : Tx BookingPlan := do
  let found ← Program.command <| findFirst rides fun id r =>
    id == input.rideId && r.status == if answersRequest then .draft else .published
  match found with
  | none => throw (.text "RIDE_NOT_FOUND")
  | some (_, ride) => do
    Program.ofExcept (checkRide rules passengerId input ride now)
    let existing ← Program.command (findFirst bookings (isActiveBookingOf input.rideId passengerId))
    if existing.isSome then throw (.text "BOOKING_ALREADY_EXISTS")
    else Program.ofExcept (planOn settings rules input ride now)

end Plan

/-! ## The rows -/

/-- `buildBookingData`, with what the mode adds to it. -/
def BookingPlan.booking (plan : BookingPlan) (passengerId : ℕ) (input : CreateBookingInput) :
    Booking where
  rideId := input.rideId
  passengerId
  seatsBooked := input.seatsBooked
  totalPrice := plan.route.priceBreakdown.totalPrice
  serviceFeeAmount := some plan.route.priceBreakdown.serviceFee
  segmentFare := some plan.route.segmentFare
  pickupPosition := some plan.route.pickupPosition
  dropoffPosition := some plan.route.dropoffPosition
  paymentCurrency := some plan.ride.currency
  driverDecisionDeadlineAt := some plan.driverDecisionDeadlineAt
  responseExpiryOption := input.responseExpiryOption

/-- The booking of bypass mode: paid, with its seats. -/
def BookingPlan.paidBooking (plan : BookingPlan) (passengerId : ℕ) (input : CreateBookingInput)
    (now : ℕ) : Booking :=
  { plan.booking passengerId input with
    status := .driverPending
    seatsReservedAt := some now
    paymentAmount := some plan.route.priceBreakdown.totalPrice
    paymentCapturedAt := some now }

/-- The booking of Stripe mode: it waits for its payment and holds nothing. -/
def BookingPlan.unpaidBooking (plan : BookingPlan) (passengerId : ℕ) (input : CreateBookingInput)
    (paymentIntent : ℕ) (currency : String) : Booking :=
  { plan.booking passengerId input with
    status := .paymentPending
    stripePaymentIntentId := some paymentIntent
    paymentAmount := some plan.route.priceBreakdown.totalPrice
    paymentCurrency := some currency }

/-- `rideBooking.create`, under an id that was drawn before: a row that has it refuses a second. The
index `RideBooking_active_rider_ride_key`, by which an active booking refuses a second one of the rider
on the ride, is not enforced: two calls that both pass the check of the plan both create theirs. -/
def createBookingRow (bookingId : ℕ) (booking : Booking) : Stmt (Except Err Unit) where
  locks _ := [.booking bookingId]
  answer d := if (d.bookings.get? bookingId).isSome then .error .uniqueViolation else .ok ()
  write _ d := { d with bookings := d.bookings.insert bookingId booking }

/-- `createPayment`, for the booking of a plan. -/
def createPayment (plan : BookingPlan) (bookingId passengerId rideId : ℕ) (currency : String)
    (paymentIntent : Option ℕ) (ctx : Ctx) : Tx ℕ := do
  let split ← Program.ofExcept (resolvePaymentSplit plan.route.priceBreakdown)
  Program.command <| create payments ctx.uuid
    { split with
      currency
      bookingId
      rideId
      riderId := passengerId
      stripePaymentIntentId := paymentIntent
      status := .paymentPending }
  return ctx.uuid

/-! ## The transactions -/

section Transactions

variable (settings : Settings) (rules : BookingRules) (overlaps : ℕ → ℕ → Db → Bool)
  (passengerId : ℕ) (input : CreateBookingInput) (requestOfferId : Option ℕ) (now bookingId : ℕ)

/-- Select the offer that the booking answers, if it answers one. -/
def reserveOfferOf (ctx : Ctx) : Tx Unit :=
  match requestOfferId with
  | none => return ()
  | some offerId =>
    reserveRequestOffer overlaps ctx offerId passengerId input.rideId input.seatsBooked

/-- Link the offer to its booking. -/
def linkOffer : Tx Unit :=
  match requestOfferId with
  | none => return ()
  | some offerId => do
    let _ ← Program.perform <| update offers offerId fun o => { o with bookingId := some bookingId }

/-- Link the offer and match its request: in bypass mode it is paid. -/
def linkPaidOffer (ctx : Ctx) : Tx Unit :=
  match requestOfferId with
  | none => return ()
  | some offerId => do
    let _ ← Program.perform <| update offers offerId fun o => { o with bookingId := some bookingId }
    confirmRequestBooking settings.platformFeePercent ctx bookingId

/-- The transaction of bypass mode: the plan and the id of the payment. -/
def createPaidBooking (ctx : Ctx) : Tx (BookingPlan × ℕ) := do
  reserveOfferOf overlaps passengerId input requestOfferId ctx
  let plan ← resolveBookingPlan settings rules passengerId input now requestOfferId.isSome
  let booking := plan.paidBooking passengerId input now
  reserveSeatsForBooking (booking.hold plan.ride.totalSeats) none requestOfferId.isSome
  Program.perform (createBookingRow bookingId booking)
  linkPaidOffer settings requestOfferId bookingId ctx
  let paymentId ← createPayment plan bookingId passengerId input.rideId plan.ride.currency none ctx
  return (plan, paymentId)

/-- The transaction of Stripe mode, behind the intent created for `price`. -/
def createUnpaidBooking (price : ℤ) (paymentIntent : ℕ) (currency : String) (ctx : Ctx) :
    Tx Unit := do
  reserveOfferOf overlaps passengerId input requestOfferId ctx
  let plan ← resolveBookingPlan settings rules passengerId input now requestOfferId.isSome
  if plan.route.priceBreakdown.totalPrice ≠ price then throw (.text "BOOKING_PRICE_CHANGED")
  else
    Program.perform <|
      createBookingRow bookingId (plan.unpaidBooking passengerId input paymentIntent currency)
    let _ ← createPayment plan bookingId passengerId input.rideId currency (some paymentIntent) ctx
    linkOffer requestOfferId bookingId

end Transactions

/-! ## A booking that is there already -/

/-- `RESUMABLE_INTENT_STATUSES`. -/
def IntentStatus.resumable : IntentStatus → Bool
  | .requiresPaymentMethod | .requiresConfirmation | .requiresAction | .processing => true
  | _ => false

/-- `PendingBookingReentry`. -/
inductive PendingBookingReentry
  | none
  | replace
  | applied (bookingId : ℕ)
  | resume (bookingId paymentIntent : ℕ)
  deriving DecidableEq, Repr

/-- The unpaid booking of the rider on the ride, the latest if there are several, with its ride. -/
def findPendingBooking (rideId passengerId : ℕ) : Stmt (Option (ℕ × Booking × Option Ride)) where
  answer d := (d.bookings.filter fun _ b =>
      b.rideId == rideId && b.passengerId == passengerId && b.status == .paymentPending).getLast?.map
    fun r => (r.1, r.2, d.rides.get? rideId)

/-- `paymentIntents.retrieve`: nothing if there is no such intent, and no answer if Stripe is down. -/
def retrieveIfPresent (paymentIntent : ℕ) : Service (Option Intent) :=
  Program.tryCatch (do
      let intent ← retrievePaymentIntent paymentIntent
      return some intent)
    fun e =>
      if e = .stripe then return Option.none
      else throw (.text "PAYMENT_VERIFICATION_UNAVAILABLE")

/-- Close a stale unpaid booking out. -/
def replacePendingBooking (bookingId : ℕ) : Service PendingBookingReentry := do
  failBookingAndReleaseSeats bookingId
  return .replace

def resolvePendingBookingReentry (settings : Settings) (passengerId rideId : ℕ) :
    Service PendingBookingReentry := do
  let pending ← sql (findPendingBooking rideId passengerId)
  match pending with
  | Option.none => return .none
  | some (bookingId, booking, ride) =>
    -- what cannot be paid any more is replaced: its ride not open, no intent, or the intent gone or over
    if ride.map (·.status) ≠ some .published then replacePendingBooking bookingId
    else
      match booking.stripePaymentIntentId with
      | Option.none => replacePendingBooking bookingId
      | some paymentIntent => do
        let found ← retrieveIfPresent paymentIntent
        match found with
        | Option.none => replacePendingBooking bookingId
        | some intent =>
          if intent.status = .succeeded then do
            let _ ← applyStripePaymentSucceededToBooking settings paymentIntent intent
            return .applied bookingId
          else if intent.status.resumable then return .resume bookingId paymentIntent
          else replacePendingBooking bookingId

/-! ## The call -/

/-- `getBookingById`; whether there is such a booking. -/
def getBookingById (passengerId bookingId : ℕ) : Service Bool := do
  let found ← sql <| findFirst bookings fun id b => id == bookingId && b.passengerId == passengerId
  return found.isSome

/-- `reschedulePaymentExpiryCheck`: its job is queued again, best effort. -/
def reschedulePaymentExpiryCheck : Service Unit := bestEffort notify

/-- `paymentIntents.create`. -/
def Stripe.createIntent (intent : Intent) (s : Stripe) : Except Err (ℕ × Stripe) :=
  .ok (s.intents.nextKey, { s with intents := s.intents.insert s.intents.nextKey intent })

/-- `createBookingPaymentIntent`: the metadata of the intent names the booking. -/
def createBookingPaymentIntent (bookingId : ℕ) (amount : ℤ) (currency : String) : Service ℕ :=
  if amount ≤ 0 then throw (.text "INVALID_PAYMENT_AMOUNT")
  else
    Program.perform <| .stripe
      (Stripe.createIntent { bookingId := some bookingId, amount, currency }) fun _ => []

section Create

variable (settings : Settings) (rules : BookingRules) (overlaps : ℕ → ℕ → Db → Bool)
  (passengerId : ℕ) (input : CreateBookingInput) (requestOfferId : Option ℕ)

/-- A unique index has refused a row. -/
def bookingExists (e : Err) : Err :=
  if e = .uniqueViolation then .text "BOOKING_ALREADY_EXISTS" else e

/-- Bypass mode. -/
def createBookingPaid (now bookingId : ℕ) : Service Unit := do
  let (plan, paymentId) ← (transaction
    (createPaidBooking settings rules overlaps passengerId input requestOfferId now bookingId)).tryCatch
      fun e => throw (bookingExists e)
  bestEffort do
    let _ ← markPaymentPaid paymentId plan.ride.driverId
  if requestOfferId.isSome then return ()
  else bestEffort do
    notify
    notify
    notify
    notify

/-- The pre-flight plan, each read on its own. -/
def preflightPlan (now : ℕ) : Service BookingPlan :=
  (resolveBookingPlan settings rules passengerId input now requestOfferId.isSome).translate fun s =>
    sql s

/-- Stripe mode, once no earlier booking is to be resumed. -/
def createBookingUnpaid (now bookingId : ℕ) : Service Unit := do
  let plan ← preflightPlan settings rules passengerId input requestOfferId now
  let price := plan.route.priceBreakdown.totalPrice
  let paymentIntent ← (createBookingPaymentIntent bookingId price plan.ride.currency).tryCatch
    fun _ => throw (.text "PAYMENT_INITIALIZATION_FAILED")
  (transaction (createUnpaidBooking settings rules overlaps passengerId input requestOfferId now
      bookingId price paymentIntent (toUpperCase plan.ride.currency))).tryCatch fun e => do
    -- there is no booking, only the intent to release
    bestEffort (cancelPaymentIntent paymentIntent)
    throw (bookingExists e)
  bestEffort notify
  bestEffort notify

/-- What Stripe mode makes of an unpaid booking that is there already; whether it is done with it. -/
def resumePendingBooking (reentry : PendingBookingReentry) : Service Bool :=
  match reentry with
  | .none | .replace => return false
  | .applied bookingId => getBookingById passengerId bookingId
  | .resume bookingId _ => do
    let existing ← getBookingById passengerId bookingId
    if existing then
      reschedulePaymentExpiryCheck
      return true
    else return false

/-- An offer's booking is not resumed. -/
def pendingBookingReentry : Service PendingBookingReentry :=
  if requestOfferId.isSome then return .none
  else resolvePendingBookingReentry settings passengerId input.rideId

def createBooking : Service Unit := do
  Program.ofExcept rules.account
  let now ← Program.command .clock
  let bookingId ← Program.command .randomUUID
  if settings.bypassPayment then
    createBookingPaid settings rules overlaps passengerId input requestOfferId now bookingId
  else
    let reentry ← pendingBookingReentry settings passengerId input requestOfferId
    let resumed ← resumePendingBooking passengerId reentry
    if resumed then return ()
    else createBookingUnpaid settings rules overlaps passengerId input requestOfferId now bookingId

end Create

end Deliivo
