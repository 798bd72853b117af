import Deliivo.Program.Straight
import Deliivo.Payout.FailureAccounting
import Deliivo.Payment.RefundRecords
import Deliivo.Ledger.Balance
import Deliivo.Dispute.Retry
import Deliivo.Webhook.Delivery
import Deliivo.Rewards.BalanceLaw
import Deliivo.Program.Confined
import Deliivo.Trip.Payable
import Deliivo.Payment.TransitionTable
import Deliivo.Payment.BookedOnce
import Deliivo.Payment.Outbox
import Deliivo.Ride.CancelRefunds
import Deliivo.Booking.SeatsFollow
import Deliivo.Booking.Extension
import Deliivo.Booking.Deadlines
import Deliivo.Booking.Decisions
import Deliivo.Booking.AutoCancel
import Deliivo.Program.Traced
import Deliivo.Ride.Departure
import Deliivo.Search.Offers
import Deliivo.Admin.BookingRefund
import Deliivo.Domain.Attempt
import Deliivo.Domain.Sessions
import Deliivo.Booking.SeatLedger
import Deliivo.Booking.SeatGuard
import Deliivo.Booking.SeatReserve
import Deliivo.Booking.SeatTaking
import Deliivo.Booking.SeatsBalanced
import Deliivo.Vehicle.Reviewed
import Deliivo.Trip.EndedStays
import Deliivo.Ride.ClosedSettled
import Deliivo.Vehicle.DraftEdits
import Deliivo.Otp.OneTime
import Deliivo.Auth.Rotation
import Deliivo.Payment.OneDefault
import Deliivo.Licence.InStep
import Deliivo.Licence.Standing
import Deliivo.Licence.Verification
import Deliivo.Licence.Writes
import Deliivo.Pricing.Handover
import Deliivo.Account.Closed
import Deliivo.Trip.Replay
import Deliivo.Trip.OtpGuesses
import Deliivo.Payment.PartialRefunds
import Deliivo.Money.Receipt
import Deliivo.Search.Fares
import Deliivo.Ride.DraftPricing
import Deliivo.Account.NameMatch
import Deliivo.Chat.Pagination
import Deliivo.Ride.LocalTime
import Deliivo.Ride.PublishedFares
import Deliivo.Ride.Polyline
import Deliivo.Rewards.Payload
import Deliivo.Payment.RequestRepair
import Deliivo.Ratings.Statistics
import Deliivo.Booking.FailedRefunds
import Deliivo.Chat.Delivery
import Deliivo.Sms.Caps
import Deliivo.Middleware.RateLimit
