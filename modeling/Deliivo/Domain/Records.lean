import Deliivo.Money.Split

/-!
# The rows of the database

One record per table, with the columns that the modelled services read or write, and one
enumeration per column that holds one of a fixed set of texts. A payment extends the split of its
charge, so that every payment row is balanced by construction.
-/

namespace Deliivo

/-! ## Rides and bookings -/

/-- `BookingStatus`. -/
inductive BookingStatus
  | paymentPending
  | driverPending
  | confirmed
  | waitingForPickup
  | driverArrived
  | otpPending
  | onboard
  | dropPending
  | driverDropped
  | inProgress
  | paymentFailed
  | rideFullRefunded
  | cancelled
  | completed
  | noShow
  | driverMissedPickup
  | disputed
  deriving DecidableEq, Repr

/-- `RideStatus`. -/
inductive RideStatus
  | draft
  | published
  | scheduled
  | readyToStart
  | inProgress
  | completionPending
  | completed
  | cancelled
  | expired
  | disputed
  deriving DecidableEq, Repr

/-- `RideRequest.status`. -/
inductive RequestStatus
  | open
  | checkoutPending
  | matched
  | cancelled
  | expired
  deriving DecidableEq, Repr

/-- `RideRequestOffer.status`. -/
inductive OfferStatus
  | open
  | selected
  | accepted
  | closed
  | withdrawn
  | expired
  deriving DecidableEq, Repr

/-- `cancelledByRole`. -/
inductive CancelledByRole
  | passenger
  | driver
  | admin
  | system
  deriving DecidableEq, Repr

/-- `EXPIRY_OPTIONS`: how long a rider lets a driver decide. -/
inductive ExpiryOption
  | oneHour
  | threeHours
  | sixHours
  | twelveHours
  | twentyFourHours
  | beforeDeparture
  deriving DecidableEq, Repr

structure Ride where
  driverId : ℕ
  totalSeats : ℤ
  availableSeats : ℤ
  status : RideStatus
  departureAt : ℕ
  actualStartTime : Option ℕ := none
  routeDurationSeconds : Option ℕ := none
  currency : String := "EUR"
  deriving DecidableEq, Repr

/-- One edge of a ride and the seats occupied on it (`RideSegmentCapacity`). -/
structure Segment where
  rideId : ℕ
  fromPosition : ℤ
  toPosition : ℤ
  occupiedSeats : ℤ := 0
  deriving DecidableEq, Repr

/-- `RideBooking`. -/
structure Booking where
  rideId : ℕ
  passengerId : ℕ
  pickupPosition : Option ℤ := none
  dropoffPosition : Option ℤ := none
  segmentFare : Option ℤ := none
  seatsBooked : ℤ
  totalPrice : ℤ
  serviceFeeAmount : Option ℤ := none
  status : BookingStatus := .paymentPending
  seatsReservedAt : Option ℕ := none
  stripePaymentIntentId : Option ℕ := none
  paymentAmount : Option ℤ := none
  paymentCurrency : Option String := none
  paymentCapturedAt : Option ℕ := none
  refundId : Option ℕ := none
  refundedAt : Option ℕ := none
  refundAmount : Option ℤ := none
  refundPercent : Option ℤ := none
  responseExpiryOption : Option ExpiryOption := none
  driverDecisionDeadlineAt : Option ℕ := none
  deadlineExpiredNotifiedAt : Option ℕ := none
  deadlineExtendedAt : Option ℕ := none
  driverDecisionAt : Option ℕ := none
  autoCancelledAt : Option ℕ := none
  cancelledAt : Option ℕ := none
  cancelledByRole : Option CancelledByRole := none
  withdrawnAt : Option ℕ := none
  driverArrivedAt : Option ℕ := none
  waitTimerStartedAt : Option ℕ := none
  pickupOtpHash : Option String := none
  pickupOtpExpiresAt : Option ℕ := none
  pickupOtpVerifiedAt : Option ℕ := none
  onboardedAt : Option ℕ := none
  noShowMarkedAt : Option ℕ := none
  dropoffConfirmedAt : Option ℕ := none
  dropOtpHash : Option String := none
  dropOtpExpiresAt : Option ℕ := none
  dropOtpVerifiedAt : Option ℕ := none
  otpAttemptCount : ℕ := 0
  riderDropoffConfirmedAt : Option ℕ := none
  completedAt : Option ℕ := none
  deriving DecidableEq, Repr

/-- The two codes of a booking: the one that the rider tells the driver at the pickup, and the one at the
drop-off. -/
inductive OtpCode
  | pickup
  | drop
  deriving DecidableEq, Repr

/-- `RideEvent`: an action of a driver or a rider that has been recorded under the id that the client
gave it. -/
structure RideEvent where
  actionId : ℕ
  rideId : ℕ
  bookingId : Option ℕ
  eventType : String
  actorId : ℕ
  deriving DecidableEq, Repr

structure RideRequest where
  riderId : ℕ
  seats : ℤ
  expiresAt : ℕ
  status : RequestStatus := .open
  checkoutExpiresAt : Option ℕ := none
  deriving DecidableEq, Repr

/-- A driver's answer to a request; `bookingId` links it to the booking that selected it. -/
structure RideRequestOffer where
  requestId : ℕ
  driverId : ℕ
  rideId : ℕ
  expiresAt : ℕ
  bookingId : Option ℕ := none
  status : OfferStatus := .open
  deriving DecidableEq, Repr

/-! ## Payments and payouts -/

structure Payment extends PaymentSplit where
  bookingId : ℕ
  rideId : ℕ
  riderId : ℕ
  stripePaymentIntentId : Option ℕ := none
  refundedFareAmount : ℤ := 0
  refundedFeeAmount : ℤ := 0
  status : PaymentStatus := .created
  failureReason : Option String := none
  payoutEligibleAt : Option ℕ := none

/-- `ENTRY_TYPES`. -/
inductive EntryType
  | riderPaymentReceived
  | driverEarningLiability
  | platformFeeRevenue
  | stripeFeeExpense
  | refundToRider
  | driverTransferCreated
  | payoutFailureReversal
  | platformFeeReversal
  deriving DecidableEq, Repr

/-- `ACCOUNT_TYPES`. -/
inductive AccountType
  | rider
  | driver
  | platform
  | provider
  deriving DecidableEq, Repr

/-- `DIRECTION`. -/
inductive Direction
  | debit
  | credit
  deriving DecidableEq, Repr

structure LedgerEntry where
  entryGroupId : ℕ
  paymentId : ℕ
  bookingId : ℕ
  userId : Option ℕ
  accountType : AccountType
  entryType : EntryType
  direction : Direction
  amount : ℤ
  currency : String
  deriving DecidableEq, Repr

/-- The event types that the outbox worker has a handler for, and any other text. -/
inductive OutboxEventType
  | paymentPaid
  | bookingCompleted
  | other (name : String)
  deriving DecidableEq, Repr

inductive OutboxStatus
  | pending
  | processing
  | processed
  | failed
  deriving DecidableEq, Repr

/-- `PaymentEventOutbox`; the payload is the payment it names. -/
structure OutboxEvent where
  eventType : OutboxEventType
  paymentId : Option ℕ
  status : OutboxStatus := .pending
  retryCount : ℕ := 0
  nextRetryAt : Option ℕ := none
  deriving DecidableEq, Repr

inductive PayoutStatus
  | pending
  | processing
  | completed
  | failed
  deriving DecidableEq, Repr

structure PayoutItem where
  bookingId : ℕ
  paymentId : ℕ
  driverAmount : ℤ
  platformFee : ℤ
  status : PayoutStatus := .pending
  deriving DecidableEq, Repr

/-- `stripeTransferId`: the id of a transfer at Stripe, or in mock mode a text made of the batch. -/
inductive TransferRef
  | stripe (transfer : ℕ)
  | mock (batch : ℕ)
  deriving DecidableEq, Repr

/-- A payout batch with the items created in it. -/
structure PayoutBatch where
  driverId : ℕ
  currency : String
  amountTotal : ℤ
  status : PayoutStatus := .pending
  stripeTransferId : Option TransferRef := none
  items : List PayoutItem := []
  deriving DecidableEq, Repr

/-- The columns of `User` that payouts and drivers' decisions read. -/
structure User where
  stripeAccountId : Option ℕ := none
  stripeOnboardingComplete : Bool := false
  dlVerified : Bool := false
  deriving DecidableEq, Repr

/-! ## Licences and vehicles -/

inductive DlVerificationStatus
  | pending
  | approved
  | declined
  | resubmissionRequested
  | expired
  | identityMismatch
  | superseded
  deriving DecidableEq, Repr

/-- `veriffSessionId`: a session at Veriff, or the one row of a user for manual review. -/
inductive SessionId
  | veriff (session : ℕ)
  | manual (userId : ℕ)
  deriving DecidableEq, Repr

/-- `updatedAt` numbers the writes of the table, so that the later of two has the greater one. -/
structure DlVerification where
  userId : ℕ
  veriffSessionId : SessionId
  status : DlVerificationStatus := .pending
  documentImageKey : Option String := none
  declineReason : Option String := none
  updatedAt : ℕ
  deriving DecidableEq, Repr

inductive VehicleVerificationStatus
  | pending
  | approved
  | rejected
  deriving DecidableEq, Repr

inductive DocumentType
  | vehicleImage
  | vehicleImageFront
  | vehicleImageBack
  | vehicleDocument
  | drivingLicense
  | insuranceDocument
  deriving DecidableEq, Repr

/-- What `updateVehicleDetailService` writes. -/
structure VehicleDetails where
  brand : Option String := none
  modelNum : Option String := none
  modelName : Option String := none
  type : Option String := none
  color : Option String := none
  year : Option ℤ := none
  deriving DecidableEq, Repr

structure Vehicle where
  userId : ℕ
  licenseCountry : String
  licenseNumber : String
  details : VehicleDetails := {}
  isVerified : Bool := false
  deletedAt : Option ℕ := none
  verificationStatus : VehicleVerificationStatus := .pending
  rejectionReason : Option String := none
  reviewedAt : Option ℕ := none
  reviewedById : Option ℕ := none
  deriving DecidableEq, Repr

/-- The kind of driver edit being applied to a vehicle. -/
inductive VehicleChangeKind
  | licensePlate
  | vehicleDetails
  | kycDocument
  | primaryPhoto
  deriving DecidableEq, Repr

structure VehicleDocument where
  vehicleId : ℕ
  image : Option String := none
  imageKey : Option String := none
  documentType : DocumentType
  deriving DecidableEq, Repr

/-! ## Disputes, webhooks and reconciliation -/

/-- `DISPUTE_STATUSES`. -/
inductive DisputeStatus
  | open
  | evidenceCollected
  | autoResolvedRiderRefund
  | autoResolvedDriverPayout
  | needsManualReview
  | waitingForUserResponse
  | resolvedRefund
  | resolvedPayout
  | resolvedSplit
  | escalated
  deriving DecidableEq, Repr

/-- `OPEN_DISPUTE_STATUSES`. -/
def DisputeStatus.isOpen : DisputeStatus → Bool
  | .open | .evidenceCollected | .needsManualReview | .waitingForUserResponse | .escalated => true
  | _ => false

structure Dispute where
  bookingId : ℕ
  status : DisputeStatus := .open
  resolvedAt : Option ℕ := none
  deriving DecidableEq, Repr

/-- `StripeWebhookEvent`: an event id that has been received. -/
structure WebhookEvent where
  stripeEventId : ℕ
  eventType : String
  paymentIntentId : Option ℕ
  deriving DecidableEq, Repr

inductive IssueType
  | stripeMismatch
  | missingWebhook
  | orphanIntent
  | ledgerImbalance
  | staleEscrow
  | disputePaymentMismatch
  | overdueRideExpired
  | overdueRideAutoCancelled
  | overdueRideStart
  | overdueRideCompletion
  | offlineManualRecovery
  | adminMoneyDispute
  deriving DecidableEq, Repr

structure ReconciliationIssue where
  paymentId : Option ℕ
  bookingId : Option ℕ
  issueType : IssueType
  autoRepaired : Bool := false
  /-- The ride that `metadataJson` names. -/
  rideId : Option ℕ := none
  deriving DecidableEq, Repr

/-! ## Sessions, cards and prices -/

/-- `RefreshToken`; the rows are kept under the token, which is unique. -/
structure RefreshToken where
  userId : ℕ
  revoked : Bool := false
  deriving DecidableEq, Repr

inductive PaymentMethodStatus
  | active
  | removed
  deriving DecidableEq, Repr

structure PaymentMethod where
  userId : ℕ
  stripeCustomerId : ℕ
  stripePaymentMethodId : ℕ
  isDefault : Bool := false
  status : PaymentMethodStatus := .active
  createdAt : ℕ
  deriving DecidableEq, Repr

structure PricingConfig where
  regionCode : String
  minRatePerKm : ℚ
  recommendedRatePerKm : ℚ
  maxRatePerKm : ℚ
  serviceFeePercent : ℚ
  serviceFeeFlat : ℚ
  active : Bool := true
  validFrom : ℕ
  validTo : Option ℕ := none
  createdAt : ℕ
  deriving DecidableEq

end Deliivo
