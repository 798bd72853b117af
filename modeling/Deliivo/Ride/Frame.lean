import Deliivo.Booking.Frame
import Deliivo.Ride.Lifecycle

/-!
# What is done besides

A sweep tells those who have a part in a ride, and leaves an issue to a human; a call on the road keeps
a record of the action. None of it touches a ride or a booking, and neither do the checks of a call.

## Main results

* `leaves_assertOrForce`, `leaves_assertForceAllowedOnRide`
* `leaves_recordEvent`, `leaves_handleForcedAction`
* `leaves_notifyRideStakeholders`, `leaves_ensureRideIssue`, `leaves_alertOverdueCompletion`
-/

namespace Deliivo

variable {F : Frame}

theorem leaves_clock : Service.Leaves F (Program.command .clock) :=
  (Program.issues_command _).mpr trivial

/-! ## The checks of a call on the road -/

theorem leaves_assertOrForce (forced violated : Bool) (code : String) :
    (assertOrForce forced violated code).Leaves F := by
  unfold assertOrForce
  split_ifs <;> trivial

theorem leaves_assertForceAllowedOnRide (forced : Bool) (rideStatus : RideStatus) :
    (assertForceAllowedOnRide forced rideStatus).Leaves F := by
  unfold assertForceAllowedOnRide
  split_ifs <;> trivial

/-! ## What follows -/

theorem leaves_notifyRideStakeholders (listed : SweptRide) :
    (notifyRideStakeholders listed).Leaves F :=
  leaves_notify.bind fun _ => Program.Issues.forEach fun _ => leaves_notify

theorem leaves_handleForcedAction (forced : Bool) : (handleForcedAction forced).Leaves F := by
  unfold handleForcedAction
  split_ifs
  · exact leaves_bestEffort leaves_notify
  · trivial

theorem leaves_recordEvent (he : ∀ d l, F.db { d with rideEvents := l } = F.db d)
    (event : RideEvent) : (recordEvent event).Leaves F := by
  refine (leaves_sql fun _ _ => rfl).bind fun existing => ?_
  split_ifs
  · trivial
  · exact leaves_sqlOrThrow fun _ d => he d _

variable (hi : ∀ d l, F.db { d with issues := l } = F.db d)

include hi

theorem leaves_ensureRideIssue (issueType : IssueType) (rideId : ℕ) :
    (ensureRideIssue issueType rideId).Leaves F := by
  refine (leaves_sql fun _ _ => rfl).bind fun existing => ?_
  split_ifs
  · trivial
  · exact (leaves_createIssue hi _).bind fun _ => trivial

theorem leaves_alertOverdueCompletion (listed : SweptRide) (departureAt now : ℕ) :
    (alertOverdueCompletion listed departureAt now).Leaves F := by
  unfold alertOverdueCompletion
  split
  · trivial
  · split_ifs
    · refine (leaves_ensureRideIssue hi _ _).bind fun created => ?_
      split_ifs
      · exact leaves_notifyRideStakeholders _
      · trivial
    · trivial

/-- What follows once a ride has been promoted. -/
theorem leaves_promoted (listed : SweptRide) :
    Service.Leaves F (do
      notifyRideStakeholders listed
      let _ ← ensureRideIssue .overdueRideStart listed.id) :=
  (leaves_notifyRideStakeholders _).bind fun _ => (leaves_ensureRideIssue hi _ _).bind fun _ => trivial

/-- What follows once an overdue ride has been closed, or has not. -/
theorem leaves_closed (rideId : ℕ) (activeBookings : List (ℕ × Booking)) (rideClosed : Bool) :
    Service.Leaves F (
      if rideClosed = false then return ()
      else if activeBookings = [] then do
        notify
        createIssue {
          paymentId := none, bookingId := none, issueType := .overdueRideExpired
          rideId := some rideId }
      else do
        notify
        Program.forEach activeBookings fun _ => notify
        createIssue {
          paymentId := none, bookingId := none, issueType := .overdueRideAutoCancelled
          rideId := some rideId }) := by
  split_ifs
  · trivial
  · exact leaves_notify.bind fun _ => leaves_createIssue hi _
  · refine leaves_notify.bind fun _ => Program.Issues.bind ?_ fun _ => leaves_createIssue hi _
    exact Program.Issues.forEach fun _ => leaves_notify

end Deliivo
