import Deliivo.Ride.Overdue
import Deliivo.Trip.Completion

/-!
# The life of a ride

A ride is started, finished, closed when nobody starts it, and disputed. Some of these calls move the
status where the row is still as they have read it; the others write the ride by its id, and the status
that they have checked may be long gone.

## Main definitions

* `RideStatus.transitions`: the table of the statuses
* `startRide`, `startPublishedRide`, `finishRide`: the driver's calls
* `runRideOverdueCheck`, `reconcileDriverRideListStatuses`: rides that nobody has started
* `adminOpenBookingDispute`
-/

namespace Deliivo

/-! ## The table -/

/-- `RIDE_TRANSITIONS`. -/
def RideStatus.transitions : RideStatus → List RideStatus
  | .draft => [.published]
  | .published => [.scheduled, .readyToStart, .cancelled, .expired]
  | .scheduled => [.readyToStart, .cancelled, .expired]
  | .readyToStart => [.inProgress, .cancelled, .expired]
  | .inProgress => [.completionPending, .cancelled, .disputed]
  | .completionPending => [.completed, .disputed]
  | .completed => [.disputed]
  | .cancelled | .expired | .disputed => []

/-- `assertRideTransition`. -/
def assertRideTransition (current target : RideStatus) : Service Unit :=
  if target ∈ current.transitions then return ()
  else throw (.text "INVALID_RIDE_STATE_TRANSITION")

/-! ## Recorded actions -/

/-- What a client sends with an action; where it was, and when, is left out. -/
structure RideEventInput where
  actionId : ℕ
  forced : Bool := false
  deriving DecidableEq, Repr

/-- `rideEvent.create`: an action id is recorded once. -/
def createRideEvent (event : RideEvent) : Stmt (Except Err Unit) where
  answer d := if d.rideEvents.any fun e => e.actionId == event.actionId then .error .uniqueViolation
    else .ok ()
  write _ d := { d with rideEvents := d.rideEvents ++ [event] }

/-- Whether an action has been recorded. -/
def findRideEvent (actionId : ℕ) : Stmt Bool where
  answer d := d.rideEvents.any fun e => e.actionId == actionId

/-- `recordEvent`: an action that has been recorded is not recorded again. -/
def recordEvent (event : RideEvent) : Service Unit := do
  let existing ← sql (findRideEvent event.actionId)
  if existing then return () else sqlOrThrow (createRideEvent event)

/-- `handleForcedAction`: the rider is told; the dispute that some actions open for a review is not
modelled. Neither fails the action. -/
def handleForcedAction (forced : Bool) : Service Unit :=
  if forced then bestEffort notify else return ()

/-! ## The driver's calls -/

/-- The settings that a start depends on. -/
structure RideSettings where
  /-- `ALLOW_RIDE_SIMULATION`. -/
  allowSimulation : Bool := false
  /-- `RIDE_START_EARLY_LIMIT_MINUTES` in milliseconds, where it is a number. -/
  startEarlyLimitMs : Option ℕ := none

/-- `isRideStartTooEarly`. -/
def RideSettings.startTooEarly (settings : RideSettings) (departureAt now : ℕ) : Bool :=
  settings.startEarlyLimitMs.any fun limit => now + limit < departureAt

/-- The check of the departure, unless rides are simulated. -/
def assertStartWindow (settings : RideSettings) (departureAt : ℕ) : Service Unit := do
  if settings.allowSimulation then return ()
  else
    let now ← Program.command .clock
    if settings.startTooEarly departureAt now then throw (.text "RIDE_TOO_EARLY") else return ()

/-- Write the status of a ride by its id, and `f` besides. -/
def moveRide (rideId : ℕ) (status : RideStatus) (f : Ride → Ride) : Service Unit := do
  let _ ← Program.perform <| .transact
    (fun _ => Program.perform <| update rides rideId fun r => { f r with status })
    fun _ => [.rideMoved rideId status]

/-- The bookings that are picked up once their ride has been started. -/
def awaitPickup (rideId : ℕ) : Stmt (List ℕ) :=
  updateMany bookings (fun _ b => b.rideId == rideId && b.status == .confirmed)
    fun b => { b with status := .waitingForPickup }

/-- A ride with its bookings. -/
def findRideWithBookings (rideId : ℕ) (P : Booking → Bool) :
    Stmt (Option (Ride × List (ℕ × Booking))) where
  answer d := (d.rides.get? rideId).map fun ride =>
    (ride, d.bookings.filter fun _ b => b.rideId == rideId && P b)

/-- A published ride may be started, which the table does not say. -/
def assertStartable (current : RideStatus) : Service Unit :=
  if current = .published ∨ current = .readyToStart then return ()
  else assertRideTransition current .inProgress

/-- `startRide` of the ride operations. -/
def startRide (settings : RideSettings) (driverId rideId : ℕ) (input : RideEventInput) :
    Service Unit := do
  let found ← sql (findRideWithBookings rideId fun b => b.status.goesWithRide)
  match found with
  | none => throw (.text "RIDE_NOT_FOUND")
  | some (ride, riding) =>
    if ride.driverId ≠ driverId then throw (.text "FORBIDDEN_DRIVER")
    else
      assertStartable ride.status
      assertStartWindow settings ride.departureAt
      let now ← Program.command .clock
      -- written by id, the status having been read before
      moveRide rideId .inProgress fun r => { r with actualStartTime := some now }
      let _ ← sql (awaitPickup rideId)
      recordEvent {
        actionId := input.actionId
        rideId
        bookingId := none
        eventType := "RIDE_STARTED"
        actorId := driverId }
      Program.forEach riding fun _ => notify

/-- `startRide` of the published rides. -/
def startPublishedRide (settings : RideSettings) (driverId rideId : ℕ) : Service Unit := do
  let found ← sql <| findFirst rides fun id r =>
    id == rideId && r.driverId == driverId && r.status == .published
  match found with
  | none => throw (.text "RIDE_NOT_FOUND_OR_CANNOT_START")
  | some (_, ride) => do
    assertStartWindow settings ride.departureAt
    let _ ← Program.perform <| .transact
      (fun ctx => do
        let _ ← Program.perform <| update rides rideId fun r =>
          { r with status := .inProgress, actualStartTime := some ctx.now }
        Program.command (awaitPickup rideId))
      fun _ => [.rideMoved rideId .inProgress]

/-- `NON_TERMINAL_BOOKING_STATES`. -/
def BookingStatus.blocksCompletion : BookingStatus → Bool
  | .driverPending | .confirmed | .waitingForPickup | .driverArrived | .otpPending | .onboard
  | .dropPending | .driverDropped | .inProgress => true
  | _ => false

/-- `finishRide`. -/
def finishRide (driverId rideId : ℕ) (input : RideEventInput) : Service Unit := do
  let found ← sql (findRideWithBookings rideId fun _ => true)
  match found with
  | none => throw (.text "RIDE_NOT_FOUND")
  | some (ride, riding) =>
    if ride.driverId ≠ driverId then throw (.text "FORBIDDEN_DRIVER")
    else if ride.status ≠ .inProgress then throw (.text "RIDE_NOT_IN_PROGRESS")
    else
      let nonTerminal := riding.filter fun b => b.2.status.blocksCompletion
      assertForceAllowedOnRide input.forced ride.status
      assertOrForce input.forced (nonTerminal ≠ []) "BOOKINGS_NOT_ALL_TERMINAL"
      -- `actualEndTime` is not among the columns
      moveRide rideId .completed id
      recordEvent {
        actionId := input.actionId
        rideId
        bookingId := none
        eventType := "RIDE_FINISHED"
        actorId := driverId }
      Program.forEach nonTerminal fun _ => handleForcedAction input.forced
      notify

/-! ## Rides that nobody has started -/

/-- `OVERDUE_CANCEL_AFTER_MINUTES`, as milliseconds. -/
def overdueCancelAfterMs : ℕ := 120 * 60 * 1000

/-- `OVERDUE_END_GRACE_MINUTES`, as milliseconds. -/
def overdueEndGraceMs : ℕ := 30 * 60 * 1000

/-- The statuses of a ride that can still be started. -/
def RideStatus.unstarted : RideStatus → Bool
  | .published | .scheduled | .readyToStart => true
  | _ => false

/-- The statuses that an overdue ride is promoted from. -/
def RideStatus.promotable : RideStatus → Bool
  | .published | .scheduled => true
  | _ => false

/-- Move a ride that is still as it has to be to `READY_TO_START`. -/
def promoteRide (rideId : ℕ) (P : Ride → Bool) : Stmt (List ℕ) :=
  updateMany rides (fun id r => id == rideId && r.status.promotable && r.actualStartTime.isNone && P r)
    fun r => { r with status := .readyToStart }

/-- A ride with all of its bookings, as the sweeps list it. -/
structure SweptRide where
  id : ℕ
  ride : Ride
  bookings : List (ℕ × Booking)

/-- Whether a booking that was active when the ride was listed is on it. -/
def SweptRide.activeBookings (listed : SweptRide) : List (ℕ × Booking) :=
  listed.bookings.filter fun b => b.2.status.waitsForOverdueRide

def listRides (P : ℕ → Ride → Bool) : Stmt (List SweptRide) where
  answer d := (d.rides.filter P).map fun r =>
    { id := r.1, ride := r.2, bookings := d.bookings.filter fun _ b => b.rideId == r.1 }

/-- `notifyRideStakeholders`. -/
def notifyRideStakeholders (listed : SweptRide) : Service Unit := do
  notify
  Program.forEach listed.activeBookings fun _ => notify

/-- `hasOpenRideIssue`; no call modelled here resolves these issues. -/
def hasOpenRideIssue (issueType : IssueType) (rideId : ℕ) : Stmt Bool where
  answer d := d.issues.any fun issue => issue.issueType == issueType && issue.rideId == some rideId

/-- Create an issue about a ride unless there is one. -/
def ensureRideIssue (issueType : IssueType) (rideId : ℕ) : Service Bool := do
  let existing ← sql (hasOpenRideIssue issueType rideId)
  if existing then return false
  else
    createIssue { paymentId := none, bookingId := none, issueType, rideId := some rideId }
    return true

/-- The first part of the check of a ride: it is ready to start once its departure has passed. -/
def promoteOverdueRide (listed : SweptRide) (departureAt now : ℕ) : Service Unit :=
  if listed.ride.status.promotable && decide (departureAt ≤ now) then do
    let _ ← sql (promoteRide listed.id fun _ => true)
    notifyRideStakeholders listed
    let _ ← ensureRideIssue .overdueRideStart listed.id
  else return ()

/-- The last part: an alert about a ride that should have ended; `actualEndTime` is not among the
columns. -/
def alertOverdueCompletion (listed : SweptRide) (departureAt now : ℕ) : Service Unit :=
  match listed.ride.routeDurationSeconds with
  | none => return ()
  | some duration =>
    if listed.ride.status == .inProgress && 0 < duration &&
        decide (departureAt + duration * 1000 + overdueEndGraceMs ≤ now) then do
      let created ← ensureRideIssue .overdueRideCompletion listed.id
      if created then notifyRideStakeholders listed else return ()
    else return ()

/-- The check of one ride; `departureAt` is none where the departure is not valid. -/
def checkOverdueRide (departureAt : Option ℕ) (now : ℕ) (listed : SweptRide) : Service Unit :=
  match departureAt with
  | none => return ()
  | some departureAt => do
    promoteOverdueRide listed departureAt now
    if listed.ride.status.unstarted && decide (departureAt + overdueCancelAfterMs ≤ now) &&
        listed.ride.actualStartTime.isNone then
      closeOverdueUnstartedRide listed.id listed.ride listed.bookings
    else alertOverdueCompletion listed departureAt now

/-- When a ride departs, as the two sweeps work it out, and the day that it departs on. -/
structure Departures where
  inUtc : Ride → Option ℕ
  inTimezone : Ride → Option ℕ
  day : Ride → ℕ

/-- `runRideOverdueCheck`. -/
def runRideOverdueCheck (departures : Departures) : Service Unit := do
  let now ← Program.command .clock
  let listed ← sql <| listRides fun _ r =>
    (r.status.unstarted || r.status == .inProgress) && decide (departures.day r ≤ now)
  Program.forEach listed fun ride => checkOverdueRide (departures.inUtc ride.ride) now ride

/-- Let a ride expire that is still as it has to be. -/
def expireRide (driverId rideId : ℕ) : Stmt (List ℕ) :=
  updateMany rides (fun id r =>
      id == rideId && r.driverId == driverId && r.status.unstarted && r.actualStartTime.isNone)
    fun r => { r with status := .expired }

/-- What one turn of `reconcileDriverRideListStatuses` makes of a ride. -/
def reconcileListedRide (driverId now : ℕ) (departureAt : Option ℕ) (listed : SweptRide) :
    Service Unit :=
  match departureAt with
  | none => return ()
  | some departureAt =>
    if now < departureAt then return ()
    else if departureAt + overdueCancelAfterMs ≤ now ∧ listed.activeBookings = [] then do
      let _ ← Program.perform <| .transact (fun _ => Program.command (expireRide driverId listed.id))
        fun expired => expired.map fun id => .rideClosed id []
    else if listed.ride.status.promotable then do
      let _ ← sql (promoteRide listed.id fun r => r.driverId == driverId)
    else return ()

/-- `reconcileDriverRideListStatuses`, one ride after the other. -/
def reconcileDriverRideListStatuses (departures : Departures) (driverId : ℕ) : Service Unit := do
  let now ← Program.command .clock
  let candidates ← sql <| listRides fun _ r => r.driverId == driverId && r.status.unstarted &&
    r.actualStartTime.isNone && decide (departures.day r ≤ now)
  Program.forEach candidates fun listed =>
    reconcileListedRide driverId now (departures.inTimezone listed.ride) listed

/-! ## Disputes that support opens -/

/-- `TERMINAL_RIDE_RESOLUTION_BOOKING_STATUSES`. -/
def BookingStatus.terminalForResolution : BookingStatus → Bool
  | .paymentFailed | .cancelled | .completed | .noShow | .driverMissedPickup | .disputed => true
  | _ => false

/-- A booking with what `adminOpenBookingDispute` includes. -/
structure RideDisputeView where
  booking : Booking
  ride : Ride
  paymentId : Option ℕ
  openDispute : Bool

def viewForDispute (bookingId : ℕ) : Stmt (Option RideDisputeView) where
  answer d := do
    let (booking, ride) ← (findBookingWithRide bookingId).answer d
    return {
      booking, ride
      paymentId := ((findPaymentOfBooking bookingId).answer d).map Prod.fst
      openDispute := hasOpenDispute d bookingId }

/-- The ride of a dispute is disputed with its booking, if it was under way when it was read. -/
def disputeRide (view : RideDisputeView) : Tx Unit :=
  if view.ride.status.forceCompletable then do
    let _ ← Program.perform <| update rides view.booking.rideId fun r => { r with status := .disputed }
  else return ()

/-- The transaction of `adminOpenBookingDispute`; the issues that it resolves are not told apart. -/
def openDisputeTx (bookingId adminId : ℕ) (view : RideDisputeView) (ctx : Ctx) : Tx Unit := do
  Program.command <| create disputes ctx.uuid { bookingId, status := .needsManualReview }
  let _ ← Program.perform <| update bookings bookingId fun b => { b with status := .disputed }
  disputeRide view
  Program.perform <| createRideEvent {
    actionId := ctx.uuid
    rideId := view.booking.rideId
    bookingId := some bookingId
    eventType := "ADMIN_OPENED_MONEY_DISPUTE"
    actorId := adminId }
  Program.command {
    answer := fun _ => ()
    write := fun _ d => { d with issues := d.issues ++ [{
      paymentId := view.paymentId
      bookingId := some bookingId
      issueType := .adminMoneyDispute
      rideId := some view.booking.rideId }] } }

/-- What the commit means. -/
def RideDisputeView.events (view : RideDisputeView) : List Event :=
  if view.ride.status.forceCompletable then [.rideMoved view.booking.rideId .disputed] else []

/-- `adminOpenBookingDispute`. -/
def adminOpenBookingDispute (bookingId adminId : ℕ) : Service Unit := do
  let found ← sql (viewForDispute bookingId)
  match found with
  | none => throw (.text "BOOKING_NOT_FOUND")
  | some view =>
    if view.openDispute then return ()
    else if view.booking.status.terminalForResolution then throw (.text "BOOKING_ALREADY_TERMINAL")
    else
      Program.perform <| .transact (openDisputeTx bookingId adminId view) fun _ => view.events
      notify
      notify

end Deliivo
