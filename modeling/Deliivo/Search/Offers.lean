import Deliivo.Search.Advanced

/-!
# Whether what the search offers can be booked

The search offers the closest pair of points, whatever points they are. A booking of the token it
hands out is refused where the ride has meeting points and an end of the part is none of its
waypoints, and every published ride has meeting points. What is not refused has the price that the
search has shown, since both compute it from the same part.

**A part that the search offers can be booked, at the price shown, exactly when the closest pair
leaves out the origin and the destination of the ride** (`offers_bookable_iff`).

## Main definitions

* `PublishedRide`: a ride with meeting points on both sides
* `Bookable`: booking the token does not fail for the sake of the route, and has the price shown
* `BetweenWaypoints`: the closest pair is a pair of waypoints

## Main results

* `resolveBookingPlan_cases`: where the outcome of the plan comes from
* `bookingRoute_token`: what becomes of a token
* `evaluateRide_segment`: the results that are a view of a part
* `offers_bookable_iff`
-/

namespace Deliivo

/-! ## Offers and bookings -/

/-- A ride as `publishRide` writes it: it has a meeting point on both sides. -/
structure PublishedRide (ride : SegmentRide) : Prop where
  pickup : ∃ waypoint ∈ ride.waypoints, waypoint.waypointType = .pickup
  dropoff : ∃ waypoint ∈ ride.waypoints, waypoint.waypointType = .dropoff

/-- A booking of one seat that names a token. -/
def tokenBooking (rideId : ℕ) (token : ViewToken) : BookingRouteInput where
  rideId
  seatsBooked := 1
  segmentId := some token

/-- Whoever books the token of a result, and whatever the database holds besides the ride:
`resolveBookingPlan` does not fail for the sake of the route, and its price is the one shown. -/
def Bookable (sign : ViewTokenPayload → String) (terms : ServiceFeeTerms) (ride : SegmentRide)
    (result : SearchResult) : Prop :=
  ∃ token, result.segmentId = some token ∧
    ∀ (settings : Settings) (blocked femaleOnly : Ride → Bool) (passengerId now : ℕ) (d : Db),
      let rules : BookingRules := {
        blocked
        femaleOnly
        route := fun _ => bookingRoute sign ride terms (tokenBooking ride.id token) }
      let outcome := (resolveBookingPlan settings rules passengerId
        { rideId := ride.id, seatsBooked := 1 } now false).atomic d
      outcome ≠ .error (.text "INVALID_BOOKING_SEGMENT") ∧
        outcome ≠ .error (.text "PICKUP_POINT_REQUIRED") ∧
        outcome ≠ .error (.text "DROPOFF_POINT_REQUIRED") ∧
        ∀ plan d', outcome = .ok (plan, d') →
          plan.route.priceBreakdown.totalPrice = result.riderTotalPerSeat

/-- The closest pair of points begins behind the origin and ends before the destination. -/
def BetweenWaypoints (haversine : LatLng → LatLng → ℚ) (query : SearchQuery) (ride : SegmentRide) :
    Prop :=
  ∃ pair, List.FirstLeast pairCost (pairsAlong haversine query ride) pair ∧
    pair.1.point.index ≠ 0 ∧ pair.2.point.index ≠ ride.waypoints.length + 1

/-! ## The plan -/

/-- What the checks before the route are answered with. -/
def earlierRefusals : List String :=
  ["RIDE_NOT_FOUND", "BOOKING_WINDOW_CLOSED", "CANNOT_BOOK_OWN_RIDE", "USER_BLOCKED",
    "MINIMUM_ONE_SEAT_REQUIRED", "MAXIMUM_SEATS_EXCEEDED", "BOOKING_ALREADY_EXISTS"]

section Plan

variable {settings : Settings} {rules : BookingRules} {passengerId now : ℕ}
  {input : CreateBookingInput} {d : Db} {ride : Ride}

theorem checkRide_cases (rules : BookingRules) (passengerId : ℕ) (input : CreateBookingInput)
    (ride : Ride) (now : ℕ) : checkRide rules passengerId input ride now = .ok () ∨
      ∃ text ∈ earlierRefusals,
        checkRide rules passengerId input ride now = .error (.text text) := by
  unfold checkRide
  split_ifs
  · exact Or.inr ⟨"BOOKING_WINDOW_CLOSED", by simp [earlierRefusals], rfl⟩
  · exact Or.inr ⟨"CANNOT_BOOK_OWN_RIDE", by simp [earlierRefusals], rfl⟩
  · exact Or.inr ⟨"USER_BLOCKED", by simp [earlierRefusals], rfl⟩
  · exact Or.inr ⟨"MINIMUM_ONE_SEAT_REQUIRED", by simp [earlierRefusals], rfl⟩
  · exact Or.inr ⟨"MAXIMUM_SEATS_EXCEEDED", by simp [earlierRefusals], rfl⟩
  · exact Or.inl rfl

/-- A plan that passes the earlier checks is made of the ride. -/
theorem resolveBookingPlan_passed {id : ℕ}
    (hride : (d.rides.filter fun id r => id == input.rideId && r.status == .published).head? =
      some (id, ride))
    (hcheck : checkRide rules passengerId input ride now = .ok ())
    (hfree : (d.bookings.filter (isActiveBookingOf input.rideId passengerId)).head? = none) :
    (resolveBookingPlan settings rules passengerId input now false).atomic d =
      (planOn settings rules input ride now).map fun plan => (plan, d) := by
  simp only [resolveBookingPlan, findFirst, Program.bind_eq, Program.command_bind, Tx.atomic,
    rides, bookings, Bool.false_eq_true, if_false, hride, hcheck, hfree, Program.ofExcept_ok,
    Program.ret_bind, Option.isSome_none]
  cases planOn settings rules input ride now <;> rfl

/-- A plan is refused by an earlier check, or it is made of the ride. -/
theorem resolveBookingPlan_cases (settings : Settings) (rules : BookingRules) (passengerId : ℕ)
    (input : CreateBookingInput) (now : ℕ) (d : Db) :
    (∃ text ∈ earlierRefusals,
        (resolveBookingPlan settings rules passengerId input now false).atomic d =
          .error (.text text)) ∨
      ∃ ride, (resolveBookingPlan settings rules passengerId input now false).atomic d =
        (planOn settings rules input ride now).map fun plan => (plan, d) := by
  cases hride : (d.rides.filter fun id r => id == input.rideId && r.status == .published).head? with
  | none =>
    refine Or.inl ⟨"RIDE_NOT_FOUND", by simp [earlierRefusals], ?_⟩
    simp only [resolveBookingPlan, findFirst, Program.bind_eq, Program.command_bind, Tx.atomic,
      rides, Bool.false_eq_true, if_false, hride]
    rfl
  | some found =>
    obtain ⟨id, ride⟩ := found
    rcases checkRide_cases rules passengerId input ride now with hcheck | ⟨text, htext, hcheck⟩
    · cases hfree : (d.bookings.filter (isActiveBookingOf input.rideId passengerId)).head? with
      | none => exact Or.inr ⟨ride, resolveBookingPlan_passed hride hcheck hfree⟩
      | some booking =>
        refine Or.inl ⟨"BOOKING_ALREADY_EXISTS", by simp [earlierRefusals], ?_⟩
        simp only [resolveBookingPlan, findFirst, Program.bind_eq, Program.command_bind, Tx.atomic,
          rides, bookings, Bool.false_eq_true, if_false, hride, hcheck, hfree, Program.ofExcept_ok,
          Program.ret_bind, Option.isSome_some, if_true]
        rfl
    · refine Or.inl ⟨text, htext, ?_⟩
      simp only [resolveBookingPlan, findFirst, Program.bind_eq, Program.command_bind, Tx.atomic,
        rides, Bool.false_eq_true, if_false, hride, hcheck, Program.ofExcept_error,
        Program.throw_bind]

/-- What is made of the ride: a refusal that has nothing to do with the route, the refusal of the
route, or a plan with the route. -/
theorem planOn_cases (settings : Settings) (rules : BookingRules) (input : CreateBookingInput)
    (ride : Ride) (now : ℕ) :
    (∃ text ∈ ["FEMALE_ONLY_RIDE", "INSUFFICIENT_SEATS"],
        planOn settings rules input ride now = .error (.text text)) ∨
      (∃ e, rules.route ride = .error e ∧ planOn settings rules input ride now = .error e) ∨
      ∃ plan, rules.route ride = .ok plan.route ∧
        planOn settings rules input ride now = .ok plan := by
  unfold planOn
  by_cases hwomen : rules.femaleOnly ride = true
  · rw [if_pos hwomen]
    exact Or.inl ⟨"FEMALE_ONLY_RIDE", by simp, rfl⟩
  · rw [if_neg hwomen]
    cases hroute : rules.route ride with
    | error e => exact Or.inr (Or.inl ⟨e, rfl, rfl⟩)
    | ok route =>
      by_cases hseats : ride.availableSeats < input.seatsBooked
      · exact Or.inl ⟨"INSUFFICIENT_SEATS", by simp, if_pos hseats⟩
      · exact Or.inr (Or.inr ⟨_, rfl, if_neg hseats⟩)

/-- What the checks besides the route are answered with. -/
def otherRefusals : List String := earlierRefusals ++ ["FEMALE_ONLY_RIDE", "INSUFFICIENT_SEATS"]

/-- Where an outcome comes from that a route decides on: another refusal, the refusal of the route,
or the route. -/
inductive PlanOutcome (route : Except Err RoutePlan) : Except Err (BookingPlan × Db) → Prop
  | other (text : String) (h : text ∈ otherRefusals) : PlanOutcome route (.error (.text text))
  | refused (e : Err) (h : route = .error e) : PlanOutcome route (.error e)
  | made (plan : BookingPlan) (d : Db) (h : route = .ok plan.route) :
    PlanOutcome route (.ok (plan, d))

theorem planOutcome (settings : Settings) (blocked femaleOnly : Ride → Bool)
    (route : Except Err RoutePlan) (passengerId : ℕ) (input : CreateBookingInput) (now : ℕ)
    (d : Db) : PlanOutcome route ((resolveBookingPlan settings
      { blocked, femaleOnly, route := fun _ => route } passengerId input now false).atomic d) := by
  rcases resolveBookingPlan_cases settings { blocked, femaleOnly, route := fun _ => route }
    passengerId input now d with ⟨text, htext, heq⟩ | ⟨row, heq⟩
  · rw [heq]
    exact .other text (List.mem_append_left _ htext)
  · rw [heq]
    rcases planOn_cases settings { blocked, femaleOnly, route := fun _ => route } input row now with
      ⟨text, htext, hplan⟩ | ⟨e, hroute, hplan⟩ | ⟨plan, hroute, hplan⟩
    · rw [hplan]
      exact .other text (List.mem_append_right _ htext)
    · rw [hplan]
      exact .refused e hroute
    · rw [hplan]
      exact .made plan d hroute

end Plan

/-! ## The route of a token -/

section Route

variable {sign : ViewTokenPayload → String} {terms : ServiceFeeTerms} {ride : SegmentRide}
  {pickupRef dropRef : SegmentPointRef} {view : SegmentView}

/-- What becomes of the token of a view: its waypoints are asked for, and the price is that of one
seat. -/
theorem bookingRoute_token
    (h : resolveSegmentView ride (buildSegmentPoints ride) pickupRef dropRef = some view) :
    let token := encodeViewToken sign { rideId := ride.id, pickupRef, dropRef }
    let route := bookingRoute sign ride terms (tokenBooking ride.id token)
    let required := assertExplicitMeetingPointsSelected ride view.bookingContext.pickupWaypointId
      view.bookingContext.dropoffWaypointId
    (∀ e, required = .error e → route = .error e) ∧
      (required = .ok () → ∃ plan, route = .ok plan ∧
        plan.priceBreakdown = seatQuote ride terms (some view)) := by
  intro token route required
  have hrefs : bookingRefs sign (tokenBooking ride.id token) = .ok (pickupRef, dropRef) := by
    simp [bookingRefs, tokenBooking, token, encodeViewToken, decodeViewToken]
  have hroute : route = required.bind fun _ => .ok {
      pickupPosition := resolvedPosition (buildSegmentPoints ride)
        view.bookingContext.pickupWaypointId .origin
      dropoffPosition := resolvedPosition (buildSegmentPoints ride)
        view.bookingContext.dropoffWaypointId .destination
      segmentFare := view.basePricePerSeat
      priceBreakdown := seatQuote ride terms (some view) } := by
    simp only [route, bookingRoute, hrefs, h, bind, Except.bind]
    cases hrequired : required with
    | error e => simp only [required] at hrequired; simp only [hrequired]
    | ok u => simp only [required] at hrequired; simp only [hrequired]; rfl
  constructor
  · intro e he
    rw [hroute, he]
    rfl
  · intro hok
    rw [hroute, hok]
    exact ⟨_, rfl, rfl⟩

/-- Every published ride asks for a waypoint at both ends. -/
theorem assertExplicitMeetingPointsSelected_eq (h : PublishedRide ride)
    (pickup dropoff : Option ℕ) :
    assertExplicitMeetingPointsSelected ride pickup dropoff =
      if pickup = none then .error (.text "PICKUP_POINT_REQUIRED")
      else if dropoff = none then .error (.text "DROPOFF_POINT_REQUIRED")
      else .ok () := by
  have hpickup : (ride.waypoints.any fun waypoint => waypoint.waypointType == .pickup) = true := by
    obtain ⟨waypoint, hmem, htype⟩ := h.pickup
    exact List.any_eq_true.mpr ⟨waypoint, hmem, beq_iff_eq.mpr htype⟩
  have hdropoff : (ride.waypoints.any fun waypoint => waypoint.waypointType == .dropoff) = true := by
    obtain ⟨waypoint, hmem, htype⟩ := h.dropoff
    exact List.any_eq_true.mpr ⟨waypoint, hmem, beq_iff_eq.mpr htype⟩
  simp only [assertExplicitMeetingPointsSelected, hpickup, hdropoff, true_and]

end Route

/-! ## The results of the search -/

section Results

variable {haversine : LatLng → LatLng → ℚ} {altRoute : SegmentRide → Bool}
  {sign : ViewTokenPayload → String} {terms : ServiceFeeTerms} {query : SearchQuery}
  {ride : SegmentRide} {result : SearchResult}

theorem buildDPoints_index_le {point : DPoint} (h : point ∈ buildDPoints ride) :
    point.index ≤ ride.waypoints.length + 1 := by
  have hlen : ride.sortedWaypoints.length = ride.waypoints.length := List.length_mergeSort _
  rw [buildDPoints, List.cons_append, List.mem_cons, List.mem_append, List.mem_singleton] at h
  rcases h with rfl | h | rfl
  · exact Nat.zero_le _
  · obtain ⟨i, hi, rfl⟩ := List.mem_mapIdx.mp h
    dsimp only
    omega
  · exact (congrArg (· + 1) hlen).le

/-- **A result that is a view of a part** shows the part between the ends of the closest pair, at
the price of one seat of it and with the token of it. -/
theorem evaluateRide_segment
    (h : evaluateRide haversine altRoute sign terms query ride = some result)
    (hsegment : result.isSegmentView = true) :
    ∃ pair view pickupRef dropRef,
      List.FirstLeast pairCost (pairsAlong haversine query ride) pair ∧
        toSegmentPointRef pair.1.point = some pickupRef ∧
        toSegmentPointRef pair.2.point = some dropRef ∧
        resolveSegmentView ride (buildSegmentPoints ride) pickupRef dropRef = some view ∧
        result.segmentId = some (encodeViewToken sign { rideId := ride.id, pickupRef, dropRef }) ∧
        result.riderTotalPerSeat = (seatQuote ride terms (some view)).totalPrice := by
  unfold evaluateRide at h
  cases hmatch : rideMatch haversine altRoute query ride with
  | none => simp [hmatch] at h
  | some found =>
    simp only [hmatch] at h
    split_ifs at h with hdear
    obtain rfl := Option.some.inj h
    obtain ⟨view, hview⟩ := Option.isSome_iff_exists.mp hsegment
    have hparts : ¬(found.matchType = .cond1 ∨ found.matchType = .altRoute) := by
      intro hwhole
      rw [riderViewOf, if_pos hwhole] at hview
      cases hview
    -- the match of the routes shows the whole ride, so a pair has been found
    have hbest : bestMatch haversine query ride = some found := by
      cases hbest : bestMatch haversine query ride with
      | some found' =>
        rw [rideMatch, hbest] at hmatch
        exact hmatch
      | none =>
        rw [rideMatch, hbest, Option.none_or] at hmatch
        split_ifs at hmatch
        obtain rfl := Option.some.inj hmatch
        exact absurd (Or.inr rfl) hparts
    obtain ⟨pair, hleast, hpair⟩ := (bestMatch_eq_some_iff found).mp hbest
    rw [riderViewOf, if_neg hparts] at hview
    unfold pairMatch at hpair
    cases hpickup : toSegmentPointRef pair.1.point with
    | none => simp [hpickup] at hpair
    | some pickupRef =>
      cases hdrop : toSegmentPointRef pair.2.point with
      | none => simp [hpickup, hdrop] at hpair
      | some dropRef =>
        simp only [hpickup, hdrop, Option.some.injEq] at hpair
        subst hpair
        refine ⟨pair, view, pickupRef, dropRef, hleast, hpickup, hdrop, hview, ?_, ?_⟩
        · simp only [riderViewOf, if_neg hparts, hview, Option.map_some]
        · simp only [riderViewOf, if_neg hparts, hview]

/-- The closest pair of a view leaves out the ends of the ride exactly if the view names a waypoint
at both ends. -/
theorem betweenWaypoints_iff {pair : IndexMatch × IndexMatch} {view : SegmentView}
    {pickupRef dropRef : SegmentPointRef}
    (hleast : List.FirstLeast pairCost (pairsAlong haversine query ride) pair)
    (hpickup : toSegmentPointRef pair.1.point = some pickupRef)
    (hdrop : toSegmentPointRef pair.2.point = some dropRef)
    (hview : resolveSegmentView ride (buildSegmentPoints ride) pickupRef dropRef = some view) :
    BetweenWaypoints haversine query ride ↔
      view.bookingContext.pickupWaypointId ≠ none ∧
        view.bookingContext.dropoffWaypointId ≠ none := by
  have hmem := List.mem_filter.mp hleast.mem
  obtain ⟨hpoint, hpoint'⟩ := mem_matchedPairs hmem.1
  have horder : pair.1.point.index < pair.2.point.index := of_decide_eq_true hmem.2
  have hle := buildDPoints_index_le hpoint'
  obtain ⟨hfirst, hlast⟩ := buildDPoints_ends hpoint
  obtain ⟨hfirst', hlast'⟩ := buildDPoints_ends hpoint'
  rw [hpickup, Option.some.injEq] at hfirst hlast
  rw [hdrop, Option.some.injEq] at hfirst' hlast'
  obtain ⟨hcontext, hcontext'⟩ := resolveSegmentView_context hview
  -- only the ride's own ends are booked without a waypoint
  have hstart : view.bookingContext.pickupWaypointId = none ↔ pair.1.point.index = 0 := by
    rw [hcontext, hfirst, hlast]
    omega
  have hend : view.bookingContext.dropoffWaypointId = none ↔
      pair.2.point.index = ride.waypoints.length + 1 := by
    rw [hcontext', hfirst', hlast']
    omega
  rw [ne_eq, ne_eq, hstart, hend]
  constructor
  · rintro ⟨pair', hleast', hbetween⟩
    rwa [hleast.unique hleast']
  · intro hbetween
    exact ⟨pair, hleast, hbetween⟩

end Results

/-! ## Refusals -/

section Refusals

variable {sign : ViewTokenPayload → String} {terms : ServiceFeeTerms} {ride : SegmentRide}
  {result : SearchResult} {token : ViewToken}

/-- A published ride with a seat left and its departure the day after tomorrow. -/
private def openRide : Ride where
  driverId := 0
  totalSeats := 1
  availableSeats := 1
  status := .published
  departureAt := 2 * dayMs

/-- A database with nothing but the ride. -/
private def dbOf (rideId : ℕ) : Db where
  rides := Table.empty.insert rideId openRide

/-- There is a rider for whom nothing but the route can stand in the way of a booking. -/
private theorem resolveBookingPlan_dbOf (rideId : ℕ) (route : Except Err RoutePlan) :
    (resolveBookingPlan {} { route := fun _ => route } 1 { rideId, seatsBooked := 1 } 0 false).atomic
        (dbOf rideId) =
      route.map fun plan => ({
        ride := openRide
        route := plan
        driverDecisionDeadlineAt := driverDecisionWindowMs }, dbOf rideId) := by
  have hrides : (dbOf rideId).rides.rows = [(rideId, openRide)] := by
    rw [dbOf, Table.insert_rows (Table.get?_empty _)]
    rfl
  rw [@resolveBookingPlan_passed _ _ _ _ _ _ openRide rideId]
  · cases route with
    | error e => rfl
    | ok plan =>
      have hseat : ¬openRide.availableSeats < 1 := by decide
      simp only [planOn, if_neg Bool.false_ne_true, if_neg hseat, decisionDeadline, zero_add]
      rfl
  · have hpublished : (openRide.status == .published) = true := rfl
    rw [Table.filter, hrides]
    simp [hpublished]
  · unfold checkRide
    have hwindow : ¬isBookingWindowClosed openRide.departureAt 0 = true := by decide
    have hseats : ¬(1 : ℤ) < 1 ∧ ¬maxSeatsPerBooking < 1 := by decide
    rw [if_neg hwindow, if_neg (by decide), if_neg Bool.false_ne_true, if_neg hseats.1,
      if_neg hseats.2]
  · rfl

/-- A route that is not refused, and has the price, decides what a booking needs of the outcome. -/
theorem accepted_of_planOutcome {route : Except Err RoutePlan}
    {outcome : Except Err (BookingPlan × Db)} {price : ℤ} (h : PlanOutcome route outcome)
    (hinvalid : route ≠ .error (.text "INVALID_BOOKING_SEGMENT"))
    (hpickup : route ≠ .error (.text "PICKUP_POINT_REQUIRED"))
    (hdropoff : route ≠ .error (.text "DROPOFF_POINT_REQUIRED"))
    (hprice : ∀ plan, route = .ok plan → plan.priceBreakdown.totalPrice = price) :
    outcome ≠ .error (.text "INVALID_BOOKING_SEGMENT") ∧
      outcome ≠ .error (.text "PICKUP_POINT_REQUIRED") ∧
      outcome ≠ .error (.text "DROPOFF_POINT_REQUIRED") ∧
      ∀ plan d', outcome = .ok (plan, d') → plan.route.priceBreakdown.totalPrice = price := by
  cases h with
  | other text htext =>
    have hne : ∀ text', text' ∉ otherRefusals →
        (.error (.text text) : Except Err (BookingPlan × Db)) ≠ .error (.text text') := by
      intro text' hnot heq
      exact hnot (Err.text.inj (Except.error.inj heq) ▸ htext)
    refine ⟨hne _ (by decide), hne _ (by decide), hne _ (by decide), ?_⟩
    intro plan d' heq
    cases heq
  | refused e hroute =>
    refine ⟨?_, ?_, ?_, ?_⟩
    · intro heq
      exact hinvalid (Except.error.inj heq ▸ hroute)
    · intro heq
      exact hpickup (Except.error.inj heq ▸ hroute)
    · intro heq
      exact hdropoff (Except.error.inj heq ▸ hroute)
    · intro plan d' heq
      cases heq
  | made plan d hroute =>
    refine ⟨nofun, nofun, nofun, ?_⟩
    rintro plan' d' ⟨⟩
    exact hprice plan.route hroute

/-- A result is bookable exactly if the route of its token is not refused and has the price. -/
theorem bookable_iff (htoken : result.segmentId = some token) :
    Bookable sign terms ride result ↔
      let route := bookingRoute sign ride terms (tokenBooking ride.id token)
      (route ≠ .error (.text "INVALID_BOOKING_SEGMENT") ∧
        route ≠ .error (.text "PICKUP_POINT_REQUIRED") ∧
        route ≠ .error (.text "DROPOFF_POINT_REQUIRED")) ∧
        ∀ plan, route = .ok plan → plan.priceBreakdown.totalPrice = result.riderTotalPerSeat := by
  dsimp only
  set route := bookingRoute sign ride terms (tokenBooking ride.id token)
  constructor
  · rintro ⟨token', htoken', hbook⟩
    obtain rfl : token = token' := Option.some.inj (htoken.symm.trans htoken')
    obtain ⟨hinvalid, hpickup, hdropoff, hprice⟩ :=
      hbook {} (fun _ => false) (fun _ => false) 1 0 (dbOf ride.id)
    rw [resolveBookingPlan_dbOf] at hinvalid hpickup hdropoff hprice
    refine ⟨⟨?_, ?_, ?_⟩, ?_⟩
    · intro h
      exact hinvalid (congrArg (Except.map _) h)
    · intro h
      exact hpickup (congrArg (Except.map _) h)
    · intro h
      exact hdropoff (congrArg (Except.map _) h)
    · intro plan h
      exact hprice _ _ (congrArg (Except.map _) h)
  · rintro ⟨⟨hinvalid, hpickup, hdropoff⟩, hprice⟩
    refine ⟨token, htoken, fun settings blocked femaleOnly passengerId now d => ?_⟩
    exact accepted_of_planOutcome (planOutcome settings blocked femaleOnly route passengerId
      { rideId := ride.id, seatsBooked := 1 } now d) hinvalid hpickup hdropoff hprice

end Refusals

/-- **A part that the search offers can be booked, at the price shown, exactly when the closest
pair leaves out the origin and the destination of the ride.** -/
theorem offers_bookable_iff (haversine : LatLng → LatLng → ℚ) (altRoute : SegmentRide → Bool)
    (sign : ViewTokenPayload → String) (terms : ℕ → ServiceFeeTerms) (query : SearchQuery)
    (candidateRides : List SegmentRide) (hids : (candidateRides.map SegmentRide.id).Nodup)
    (result : SearchResult)
    (hresult : result ∈ searchRidesAdvanced haversine altRoute sign terms query candidateRides)
    (hsegment : result.isSegmentView = true) (ride : SegmentRide) (hride : ride ∈ candidateRides)
    (hid : ride.id = result.rideId) (hpublished : PublishedRide ride) :
    Bookable sign (terms ride.id) ride result ↔ BetweenWaypoints haversine query ride := by
  obtain ⟨ride', hride', heval⟩ := List.mem_filterMap.mp hresult
  -- the ride searched is the one booked, ids being unique among the candidates
  have hid' : result.rideId = ride'.id := by
    unfold evaluateRide at heval
    cases hmatch : rideMatch haversine altRoute query ride' with
    | none => simp [hmatch] at heval
    | some found =>
      simp only [hmatch] at heval
      split_ifs at heval
      exact (congrArg SearchResult.rideId (Option.some.inj heval)).symm
  obtain rfl : ride = ride' := List.inj_on_of_nodup_map hids hride hride' (hid.trans hid')
  obtain ⟨pair, view, pickupRef, dropRef, hleast, hpickup, hdrop, hview, htoken, hprice⟩ :=
    evaluateRide_segment heval hsegment
  obtain ⟨hrefused, haccepted⟩ := @bookingRoute_token sign (terms ride.id) _ _ _ _ hview
  rw [bookable_iff htoken, betweenWaypoints_iff hleast hpickup hdrop hview]
  rw [assertExplicitMeetingPointsSelected_eq hpublished] at hrefused haccepted
  constructor
  · -- an end without a waypoint is refused when the token is presented
    rintro ⟨⟨-, hnotPickup, hnotDropoff⟩, -⟩
    constructor
    · intro hnone
      exact hnotPickup (hrefused _ (if_pos hnone))
    · intro hnone
      by_cases hstart : view.bookingContext.pickupWaypointId = none
      · exact hnotPickup (hrefused _ (if_pos hstart))
      · exact hnotDropoff (hrefused _ (by rw [if_neg hstart, if_pos hnone]))
  · rintro ⟨hstart, hend⟩
    -- both waypoints known: the plan is made, at the price shown
    obtain ⟨plan, hplan, hbreakdown⟩ := haccepted (by rw [if_neg hstart, if_neg hend])
    rw [hplan]
    refine ⟨⟨nofun, nofun, nofun⟩, ?_⟩
    rintro plan' ⟨⟩
    rw [hbreakdown, hprice]

/-! ## Runs -/

section Runs

/-- A place on the only road there is. -/
private def placeAt (lat : ℚ) (address : String) : Place where
  lat
  lng := 0
  placeId := address
  address

/-- A ride with a meeting point at either end and a stopover half way. -/
private def roadRide : SegmentRide where
  id := 1
  origin := placeAt 0 "A"
  destination := placeAt 100 "D"
  basePricePerSeat := 3000
  waypoints := [
    { toPlace := placeAt 5 "B", id := 11, waypointType := .pickup, orderIndex := 0 },
    { toPlace := placeAt 50 "C", id := 12, waypointType := .stopover, orderIndex := 1 },
    { toPlace := placeAt 95 "E", id := 13, waypointType := .dropoff, orderIndex := 2 }]
  fare_nonneg := by decide

private def roadDistance (a b : LatLng) : ℚ := |a.lat - b.lat|

private def signature : ViewTokenPayload → String := fun _ => "signed"

private def twoPercent : ℕ → ServiceFeeTerms := fun _ =>
  ⟨2, 0, by norm_num, le_rfl⟩

/-- A rider from where the ride begins to the stopover. -/
private def fromOrigin : SearchQuery := { origin := ⟨0, 0⟩, destination := ⟨50, 0⟩, radiusKm := 10 }

/-- A rider from the meeting point to the stopover. -/
private def fromMeetingPoint : SearchQuery :=
  { origin := ⟨5, 0⟩, destination := ⟨50, 0⟩, radiusKm := 10 }

private def offerOf (pickupRef : SegmentPointRef) (matchType : RideMatchType) : SearchResult where
  rideId := 1
  matchType
  basePricePerSeat := 1500
  riderTotalPerSeat := 1530
  serviceFeePerSeat := 30
  isSegmentView := true
  segmentId := some (encodeViewToken signature { rideId := 1, pickupRef, dropRef := .waypoint 12 })
  segment := some { pickupCumulativePrice := 0, dropCumulativePrice := 1500, segmentFare := 1500 }

private theorem roadRide_sorted : roadRide.sortedWaypoints = roadRide.waypoints :=
  List.mergeSort_of_pairwise (by decide)

private theorem roadRide_published : PublishedRide roadRide :=
  ⟨⟨_, List.mem_cons_self, rfl⟩, ⟨_, List.mem_cons_of_mem _ (List.mem_cons_of_mem _
    List.mem_cons_self), rfl⟩⟩

/-- From the origin, and from the meeting point, the part up to the stopover is offered. -/
private theorem offerOf_mem :
    offerOf .origin .cond2 ∈ searchRidesAdvanced roadDistance (fun _ => false) signature twoPercent
        fromOrigin [roadRide] ∧
      offerOf (.waypoint 11) .cond3 ∈ searchRidesAdvanced roadDistance (fun _ => false) signature
        twoPercent fromMeetingPoint [roadRide] := by
  constructor
  · refine List.mem_filterMap.mpr ⟨roadRide, List.mem_singleton_self _, ?_⟩
    simp only [evaluateRide, rideMatch, bestMatch, matchedPairs, buildDPoints,
      riderViewOf, buildSegmentPoints, cumulativePrices, destinationPoint, roadRide_sorted]
    decide +kernel
  · refine List.mem_filterMap.mpr ⟨roadRide, List.mem_singleton_self _, ?_⟩
    simp only [evaluateRide, rideMatch, bestMatch, matchedPairs, buildDPoints,
      riderViewOf, buildSegmentPoints, cumulativePrices, destinationPoint, roadRide_sorted]
    decide +kernel

private theorem fromMeetingPoint_between :
    BetweenWaypoints roadDistance fromMeetingPoint roadRide := by
  refine ⟨(⟨⟨1, some 11, ⟨5, 0⟩, .waypoint⟩, 0⟩, ⟨⟨2, some 12, ⟨50, 0⟩, .waypoint⟩, 0⟩), ?_, ?_⟩
  · refine List.foldl_keepLess_eq_some_iff.mp ?_
    simp only [pairsAlong, matchedPairs, buildDPoints, roadRide_sorted]
    decide +kernel
  · decide

/-- From the meeting point to the stopover, the part can be booked at its price. -/
theorem offer_from_meeting_point : Bookable signature (twoPercent 1) roadRide
    (offerOf (.waypoint 11) .cond3) :=
  (offers_bookable_iff roadDistance (fun _ => false) signature twoPercent fromMeetingPoint
    [roadRide] (List.nodup_singleton _) (offerOf (.waypoint 11) .cond3) offerOf_mem.2 rfl roadRide
    (List.mem_singleton_self _) rfl roadRide_published).mpr fromMeetingPoint_between

/-- From the origin to the stopover the search offers a part that no rider can book. -/
theorem offer_from_origin_refused :
    ¬∀ (query : SearchQuery) (result : SearchResult),
      result ∈ searchRidesAdvanced roadDistance (fun _ => false) signature twoPercent query
          [roadRide] →
        result.isSegmentView = true → PublishedRide roadRide →
          Bookable signature (twoPercent 1) roadRide result := by
  intro hoffers
  have hbook := hoffers fromOrigin (offerOf .origin .cond2) offerOf_mem.1 rfl roadRide_published
  have hroute : bookingRoute signature roadRide (twoPercent 1) (tokenBooking 1
      (encodeViewToken signature { rideId := 1, pickupRef := .origin, dropRef := .waypoint 12 })) =
        .error (.text "PICKUP_POINT_REQUIRED") := by
    simp only [bookingRoute, buildSegmentPoints, cumulativePrices, destinationPoint,
      roadRide_sorted]
    rfl
  exact ((bookable_iff rfl).mp hbook).1.2.1 hroute

end Runs

end Deliivo
