import Deliivo.Booking.Ending
import Deliivo.Webhook.Refund

/-!
# The Stripe webhook

`handleStripeWebhook` checks the request, looks the event's id up among the events received so far,
stores it there, and only then processes the event. The row is committed on its own: an exception
while processing leaves it behind.

## Main definitions

* `StripeEvent`, `WebhookRequest`, `WebhookResponse`
* `applyPaymentIntentFailed`, `processStripeEvent`
* `handleStripeWebhook`
-/

namespace Deliivo

/-! ## Events -/

/-- `event.type` with `event.data.object`, for the types that are processed. -/
inductive EventBody
  | paymentIntentSucceeded (id : ℕ) (intent : Intent)
  | paymentIntentPaymentFailed (id : ℕ) (intent : Intent)
  | chargeRefunded (charge : ChargeObject)
  | refundCreated (refund : RefundObject)
  | refundUpdated (refund : RefundObject)
  | other (type : String) (objectId : Option ℕ)
  deriving DecidableEq, Repr

structure StripeEvent where
  id : ℕ
  body : EventBody
  deriving DecidableEq, Repr

/-- `event.type`. -/
def EventBody.type : EventBody → String
  | paymentIntentSucceeded _ _ => "payment_intent.succeeded"
  | paymentIntentPaymentFailed _ _ => "payment_intent.payment_failed"
  | chargeRefunded _ => "charge.refunded"
  | refundCreated _ => "refund.created"
  | refundUpdated _ => "refund.updated"
  | other type _ => type

/-- `event.data.object.id`. -/
def EventBody.objectId : EventBody → Option ℕ
  | paymentIntentSucceeded id _ | paymentIntentPaymentFailed id _ => some id
  | chargeRefunded charge => some charge.id
  | refundCreated refund | refundUpdated refund => some refund.id
  | other _ objectId => objectId

/-! ## A payment that failed -/

/-- The transaction of `applyPaymentIntentFailed`; the booking that it failed, as it was read. -/
def failPendingBooking (bookingId : ℕ) : Tx (Option Booking) := do
  let found ← Program.command (findBookingWithRide bookingId)
  match found with
  | none => return none
  | some (booking, ride) =>
    if booking.status = .paymentPending then do
      let _ ← Program.perform <| update bookings bookingId fun b => { b with
        status := .paymentFailed }
      let _ ← releaseBookingSeats bookingId (booking.hold ride.totalSeats)
      return some booking
    else return none

/-- `applyPaymentIntentFailed`; the bookings of a ride request keep their seats. -/
def applyPaymentIntentFailed (intent : Intent) : Service Unit :=
  match intent.bookingId with
  | none => return ()
  | some bookingId => do
    let selected ← sql <| findFirst offers fun _ o =>
      o.bookingId == some bookingId && o.status == .selected
    if selected.isSome then return ()
    else
      let failed ← Program.perform <| .transact (fun _ => failPendingBooking bookingId)
        fun booking => reportWrittenOff bookingId booking.isSome
      match failed with
      | none => return ()
      | some _ => notify

/-! ## Processing -/

def processStripeEvent (settings : Settings) (event : StripeEvent) : Service Unit :=
  match event.body with
  | .paymentIntentSucceeded id intent => do
    let _ ← applyStripePaymentSucceededToBooking settings id intent
  | .paymentIntentPaymentFailed _ intent => applyPaymentIntentFailed intent
  | .chargeRefunded charge => applyChargeRefunded charge
  | .refundCreated refund | .refundUpdated refund => applyRefundUpdated refund
  | .other _ _ => return ()

/-! ## The handler -/

/-- The body of a request: as it came in, or parsed already by a middleware in front. -/
inductive WebhookBody
  | raw (payload : String)
  | parsed
  deriving DecidableEq, Repr

structure WebhookRequest where
  /-- The header `stripe-signature`, where it is there and not empty. -/
  signature : Option String
  body : WebhookBody
  deriving DecidableEq, Repr

inductive WebhookResponse
  | send (status : ℕ) (text : String)
  | received (duplicate : Bool)
  deriving DecidableEq, Repr

def WebhookResponse.status : WebhookResponse → ℕ
  | send status _ => status
  | received _ => 200

/-- The checks in front of the database: the event, or the answer that ends the call.
`constructStripeEvent` verifies the signature of a payload and parses it. -/
def readWebhookRequest (constructStripeEvent : String → String → Option StripeEvent)
    (request : WebhookRequest) : WebhookResponse ⊕ StripeEvent :=
  match request.signature, request.body with
  | none, _ => .inl (.send 400 "Missing stripe signature")
  | some _, .parsed => .inl (.send 500 "Server configuration error: body must be raw")
  | some signature, .raw payload =>
    match constructStripeEvent payload signature with
    | none => .inl (.send 400 "Invalid stripe signature")
    | some event => .inr event

/-- `stripeWebhookEvent.findUnique`, by event id. -/
def findWebhookEvent (eventId : ℕ) : Stmt (Option WebhookEvent) where
  answer d := d.webhookEvents.find? fun e => e.stripeEventId == eventId

/-- `stripeWebhookEvent.create`: whether the row is new, where the unique index would refuse it
otherwise (`P2002`). -/
def createWebhookEvent (event : StripeEvent) : Stmt Bool where
  locks _ := [.other]
  answer d := !d.webhookEvents.any fun e => e.stripeEventId == event.id
  write seen d :=
    if seen.webhookEvents.any fun e => e.stripeEventId == event.id then d
    else
      { d with webhookEvents := d.webhookEvents ++
          [{ stripeEventId := event.id
             eventType := event.body.type
             paymentIntentId := event.body.objectId }] }

/-- The lookup and the row: whether the event is new and is to be processed. -/
def admitWebhookEvent (event : StripeEvent) : Service Bool := do
  let existing ← sql (findWebhookEvent event.id)
  if existing.isSome then return false
  else sql (createWebhookEvent event)

/-- Process an event that is new. -/
def answerWebhookEvent (settings : Settings) (event : StripeEvent) (isNew : Bool) :
    Service WebhookResponse :=
  if isNew then do
    processStripeEvent settings event
    return .received false
  else return .received true

def handleStripeWebhook (settings : Settings)
    (constructStripeEvent : String → String → Option StripeEvent) (request : WebhookRequest) :
    Service WebhookResponse :=
  match readWebhookRequest constructStripeEvent request with
  | .inl response => return response
  | .inr event => do
    let isNew ← admitWebhookEvent event
    answerWebhookEvent settings event isNew

end Deliivo
