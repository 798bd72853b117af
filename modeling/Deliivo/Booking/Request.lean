import Deliivo.Booking.Seats
import Deliivo.Payment.Service
import Deliivo.Text.Strings

/-!
# Bookings that answer a ride request

A driver's offer on a ride request becomes a booking when the rider selects it, and the request is
matched in the transaction that applies the payment. Everything here runs inside the transaction of
its caller, so a throw undoes what the caller has written as well.

## Main definitions

* `ensureRequestPayment`: the payment row of such a booking, created where it is missing
* `reserveRequestOffer`: select an offer
* `confirmRequestBooking`: match the request, in the transaction of the payment
-/

namespace Deliivo

/-! ## The payment of a request -/

/-- The fee of a booking: its checkout snapshot or, for a booking without one, a percentage of the
price. -/
def requestPlatformFee (feePercent : Option ℚ) (booking : Booking) : Option ℤ :=
  match booking.serviceFeeAmount, feePercent with
  | some fee, _ => some fee
  | none, some percent =>
    if 0 ≤ percent ∧ percent ≤ 100 then some ⌊booking.totalPrice * percent / 100 + 1 / 2⌋ else none
  | none, none => none

/-- The split of a booking's price, where its fee is one. -/
def requestPaymentSplit (feePercent : Option ℚ) (booking : Booking) (currency : String) :
    Option PaymentSplit :=
  match requestPlatformFee feePercent booking with
  | none => none
  | some fee =>
    if h : 0 ≤ fee ∧ fee ≤ booking.totalPrice then
      some {
        amountTotal := booking.totalPrice
        -- the fare is what the fee leaves, so the two always make up the total
        fareAmount := booking.totalPrice - fee
        platformFeeAmount := fee
        currency
        balanced := by ring
        fare_nonneg := by omega
        fee_nonneg := h.1 }
    else none

/-- `payment.upsert` by booking: the row that is there, or `row`. -/
def upsertPayment (id bookingId : ℕ) (row : Payment) : Stmt (ℕ × Payment) where
  locks d := [.payment (((findPaymentOfBooking bookingId).answer d).elim id Prod.fst)]
  answer d := ((findPaymentOfBooking bookingId).answer d).getD (id, row)
  write seen d :=
    match (findPaymentOfBooking bookingId).answer seen with
    | some _ => d
    | none => { d with payments := d.payments.insert id row }

/-- Whether a payment row is the one of a booking. -/
def Payment.matchesBooking (payment : Payment) (booking : Booking) (intent : ℕ)
    (currency : String) : Prop :=
  payment.rideId = booking.rideId ∧ payment.riderId = booking.passengerId ∧
    payment.amountTotal = booking.totalPrice ∧ toUpperCase payment.currency = currency ∧
    (payment.stripePaymentIntentId = none ∨ payment.stripePaymentIntentId = some intent)

instance (payment : Payment) (booking : Booking) (intent : ℕ) (currency : String) :
    Decidable (payment.matchesBooking booking intent currency) :=
  inferInstanceAs (Decidable (_ ∧ _))

/-- Link a payment row to its intent, unless another call has linked it meanwhile. -/
def linkRequestPayment (paymentId intent : ℕ) : Tx Unit := do
  let linked ← Program.command <|
    updateMany payments (fun id p => id == paymentId && p.stripePaymentIntentId.isNone)
      fun p => { p with stripePaymentIntentId := some intent }
  if linked = [] then throw (.text "REQUEST_PAYMENT_LINK_CHANGED") else return ()

/-- `ensureRequestPayment`, under the id drawn for a new row. -/
def ensureRequestPayment (feePercent : Option ℚ) (uuid bookingId : ℕ) (booking : Booking) :
    Tx Unit :=
  match booking.stripePaymentIntentId, booking.paymentCurrency with
  | none, _ => throw (.text "REQUEST_PAYMENT_NOT_INITIALIZED")
  | some _, none => throw (.text "REQUEST_PAYMENT_CURRENCY_MISSING")
  | some intent, some paymentCurrency =>
    match requestPaymentSplit feePercent booking (toUpperCase paymentCurrency) with
    | none => throw (.text "INVALID_PLATFORM_FEE")
    | some split => do
      -- an existing row is left as it is by the upsert, and checked against the booking
      let (paymentId, payment) ← Program.command <| upsertPayment uuid bookingId
        { split with
          bookingId
          rideId := booking.rideId
          riderId := booking.passengerId
          stripePaymentIntentId := some intent
          status := .paymentPending }
      if payment.matchesBooking booking intent (toUpperCase paymentCurrency) then
        if payment.stripePaymentIntentId.isNone then linkRequestPayment paymentId intent
        else return ()
      else throw (.text "REQUEST_PAYMENT_RECORD_MISMATCH")

/-! ## Selecting an offer -/

/-- `REQUEST_CHECKOUT_MS`. -/
def requestCheckoutMs : ℕ := 15 * 60 * 1000

/-- `SELECT … FOR UPDATE` on the driver. -/
def lockDriver (driverId : ℕ) : Stmt Unit where
  locks _ := [.user driverId]
  answer _ := ()

/-- An offer with its request. -/
def viewOffer (offerId : ℕ) : Stmt (Option (RideRequestOffer × RideRequest)) where
  answer d := do
    let offer ← d.offers.get? offerId
    let request ← d.requests.get? offer.requestId
    return (offer, request)

/-- `reserveRequestOffer`. Whether the driver already has a ride at that time is read off the
database by `overlaps`. -/
def reserveRequestOffer (overlaps : ℕ → ℕ → Db → Bool) (ctx : Ctx)
    (offerId riderId rideId : ℕ) (seats : ℤ) : Tx Unit := do
  let found ← Program.command (viewOffer offerId)
  match found with
  | none => throw (.text "OFFER_UNAVAILABLE")
  | some (offer, request) =>
    if offer.rideId ≠ rideId ∨ request.riderId ≠ riderId ∨ request.seats ≠ seats ∨
        offer.status ≠ .open ∨ offer.expiresAt ≤ ctx.now then
      throw (.text "OFFER_UNAVAILABLE")
    else
      -- one checkout of a driver at a time
      Program.command (lockDriver offer.driverId)
      let overlap ← Program.command { answer := overlaps offer.driverId offer.rideId }
      if overlap then throw (.text "DRIVER_RIDE_TIME_CONFLICT")
      else
        -- both updates are guarded: another checkout may have taken the request or the offer
        let changed ← Program.command <|
          updateMany requests (fun id r => id == offer.requestId && r.riderId == riderId &&
              r.status == .open && decide (ctx.now < r.expiresAt))
            fun r => { r with
              status := .checkoutPending
              checkoutExpiresAt := some (min (ctx.now + requestCheckoutMs) offer.expiresAt) }
        if changed = [] then throw (.text "REQUEST_ALREADY_SELECTED")
        else
          let selected ← Program.command <|
            updateMany offers (fun id o => id == offerId && o.status == .open)
              fun o => { o with status := .selected }
          if selected = [] then throw (.text "OFFER_UNAVAILABLE") else return ()

/-! ## Matching the request -/

/-- An offer with the request, the ride and the booking that it includes. -/
structure OfferView where
  offerId : ℕ
  offer : RideRequestOffer
  request : RideRequest
  ride : Ride
  booking : Option Booking

/-- `rideRequestOffer.findUnique({ where: { bookingId } })`. -/
def findOfferOfBooking (bookingId : ℕ) : Stmt (Option (ℕ × RideRequestOffer)) :=
  findFirst offers fun _ o => o.bookingId == some bookingId

/-- The offer of a booking, with what it includes. -/
def viewOfferOfBooking (bookingId : ℕ) : Stmt (Option OfferView) where
  answer d := do
    let (offerId, offer) ← (findOfferOfBooking bookingId).answer d
    let request ← d.requests.get? offer.requestId
    let ride ← d.rides.get? offer.rideId
    return { offerId, offer, request, ride, booking := d.bookings.get? bookingId }

/-- `dropOtpExpiresAt` of `bookingOtpExpiries`: a day after the journey, which starts now at the
earliest. -/
def Ride.dropOtpExpiry (ride : Ride) (now : ℕ) : ℕ :=
  max now ride.departureAt + ride.routeDurationSeconds.getD 0 * 1000 + 24 * 3600000

/-- `pickupOtpExpiresAt` of `bookingOtpExpiries`: six hours after the journey starts. -/
def Ride.pickupOtpExpiry (ride : Ride) (now : ℕ) : ℕ := max now ride.departureAt + 6 * 3600000

/-- `hashOtp(generateBookingOtp())`: a text drawn for the drop-off. -/
def freshOtpHash (ctx : Ctx) : String := toString ctx.uuid

/-- The same for the pickup. -/
def freshPickupOtpHash (ctx : Ctx) : String := "pickup " ++ toString ctx.uuid

/-- The five writes of `confirmRequestBooking`. -/
def matchRequest (ctx : Ctx) (bookingId : ℕ) (view : OfferView) : Tx Unit := do
  let _ ← Program.perform <| update bookings bookingId fun b => { b with
    status := .confirmed
    driverDecisionAt := some ctx.now
    driverDecisionDeadlineAt := none
    pickupOtpHash := some (freshPickupOtpHash ctx)
    pickupOtpExpiresAt := some (view.ride.pickupOtpExpiry ctx.now)
    dropOtpHash := some (freshOtpHash ctx)
    dropOtpExpiresAt := some (view.ride.dropOtpExpiry ctx.now)
    otpAttemptCount := 0 }
  let _ ← Program.perform <| update rides view.offer.rideId fun r => { r with status := .published }
  let _ ← Program.perform <| update offers view.offerId fun o => { o with status := .accepted }
  let _ ← Program.perform <| update requests view.offer.requestId fun r => { r with
    status := .matched
    checkoutExpiresAt := none }
  let _ ← Program.command <|
    updateMany offers (fun _ o => o.requestId == view.offer.requestId && o.status == .open)
      fun o => { o with status := .closed }

/-- `confirmRequestBooking`: nothing for a booking that answers no request. -/
def confirmRequestBooking (feePercent : Option ℚ) (ctx : Ctx) (bookingId : ℕ) : Tx Unit := do
  let found ← Program.command (viewOfferOfBooking bookingId)
  match found with
  | none => return ()
  | some view =>
    if view.offer.status ≠ .selected ∨ view.request.status ≠ .checkoutPending then
      throw (.text "REQUEST_PAYMENT_REQUIRES_RECONCILIATION")
    else if view.ride.departureAt ≤ ctx.now then
      throw (.text "REQUEST_PAYMENT_REQUIRES_RECONCILIATION")
    else
      match view.booking with
      | none => throw (.text "REQUEST_BOOKING_NOT_FOUND")
      | some booking =>
        -- a booking without an intent was made without payment
        if booking.stripePaymentIntentId.isSome then
          ensureRequestPayment feePercent ctx.uuid bookingId booking
          matchRequest ctx bookingId view
        else
          matchRequest ctx bookingId view

end Deliivo
