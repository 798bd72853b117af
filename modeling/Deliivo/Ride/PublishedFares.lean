import Deliivo.Ride.DraftPricing
import Deliivo.Search.Fares

/-!
# Fares of a published ride

Publishing a draft writes its pickups, stops and dropoffs as the waypoints of the ride, each with a price
of the way to it, or none. A booking names two of these points, in the order of the route, and pays the
difference of their prices. A pickup that one gets on at costs nothing, and a dropoff that one gets off
at costs the fare of the whole ride; in the other role each has the price that is written for it. The
prices are numbers of double precision, and so are all results.

**A booking that is accepted has a positive fare exactly if the two points that it names have different
prices** (`booked_fare_positive_iff`): two points of one price are sold for nothing.

## Main definitions

* `Fares.publishRide`: the ride that a draft becomes
* `Fares.resolveBookingPlan`: what a booking of a part of it is planned as
* `Fares.SegmentRide.costFrom`, `Fares.SegmentRide.costTo`: what a waypoint costs in either role, by the
  prices that were published

## Main results

* `Fares.resolveBookingPlan_eq_ok`: an accepted booking names two waypoints
* `booked_fare_positive_iff`
-/

namespace Deliivo

namespace Fares

/-! ## Publishing -/

/-- A waypoint as it is written, before it has an id. -/
structure WaypointData extends Place where
  waypointType : WaypointType
  orderIndex : ℤ
  pricePerSeat : Option Binary64

def WaypointData.row (data : WaypointData) (id : ℕ) : SegmentRideWaypoint Binary64 :=
  { data.toPlace with
    id
    waypointType := data.waypointType
    orderIndex := data.orderIndex
    pricePerSeat := data.pricePerSeat }

section Publish

variable (draft : DraftRide)

/-- A price of the draft, as a number. -/
def number (price : ℚ) : Binary64 := .ofRat price

def pickupData (index : ℕ) (pickup : DraftPoint) : WaypointData :=
  { pickup.toPlace with
    waypointType := .pickup
    orderIndex := index
    pricePerSeat := some ((pickup.recommendedPrice.map number).getD 0) }

def dropoffData (basePricePerSeat : Binary64) (index : ℕ) (dropoff : DraftPoint) : WaypointData :=
  { dropoff.toPlace with
    waypointType := .dropoff
    orderIndex := index + 100
    pricePerSeat := some ((dropoff.recommendedPrice.map number).getD basePricePerSeat) }

def stopoverData (index : ℕ) (stopover : DraftStopover) : WaypointData :=
  { stopover.toPlace with
    waypointType := .stopover
    orderIndex := index + 50
    pricePerSeat := stopover.pricePerSeat.map number }

/-- The waypoints of a draft, by their `orderIndex`; the sort is stable. -/
def allWaypoints (basePricePerSeat : Binary64) : List WaypointData :=
  (draft.pickups.mapIdx pickupData ++ draft.dropoffs.mapIdx (dropoffData basePricePerSeat) ++
    draft.stopovers.mapIdx stopoverData).mergeSort fun a b => a.orderIndex ≤ b.orderIndex

/-- `publishRide`: the ride and its waypoints, under ids of which the database gives none twice. `checks`
are those of the route, the schedule, the driver and the vehicle. -/
def publishRide (currency : String) (rideId : ℕ) (ids : ℕ ↪ ℕ) (checks : Except Err Unit) :
    Except Err (SegmentRide Binary64) :=
  match draft.origin, draft.destination with
  | some origin, some destination =>
    -- a price of zero is taken for a missing one
    match (draft.basePricePerSeat.map number).filter fun price => price ≠ 0 with
    | none => .error (.text "CAPACITY_AND_PRICING_REQUIRED")
    | some basePricePerSeat =>
      if draft.pickups.isEmpty || draft.dropoffs.isEmpty then
        .error (.text "MEETING_POINTS_REQUIRED")
      else checks.map fun _ => {
        id := rideId
        origin, destination, basePricePerSeat, currency
        waypoints := (allWaypoints draft basePricePerSeat).mapIdx fun index data =>
          data.row (ids index) }
  | _, _ => .error (.text "ORIGIN_AND_DESTINATION_REQUIRED")

end Publish

/-- The ride as it is read later: its waypoints come in any order. -/
def SegmentRide.ReadAs (published ride : SegmentRide Binary64) : Prop :=
  ∃ waypoints : List (SegmentRideWaypoint Binary64), waypoints.Perm published.waypoints ∧
    ride = { published with waypoints }

/-! ## Booking -/

section Booking

def assertExplicitMeetingPointsSelected (ride : SegmentRide Binary64)
    (resolvedPickupWaypointId resolvedDropoffWaypointId : Option ℕ) : Except Err Unit :=
  let hasConcretePickup := ride.waypoints.any fun waypoint => waypoint.waypointType == .pickup
  let hasConcreteDropoff := ride.waypoints.any fun waypoint => waypoint.waypointType == .dropoff
  if hasConcretePickup = true ∧ resolvedPickupWaypointId = none then
    .error (.text "PICKUP_POINT_REQUIRED")
  else if hasConcreteDropoff = true ∧ resolvedDropoffWaypointId = none then
    .error (.text "DROPOFF_POINT_REQUIRED")
  else .ok ()

/-- What is planned; `priceBreakdown` is of whatever form. -/
structure BookingPlan (Breakdown : Type) where
  segmentFare : Binary64
  pickupWaypointId : Option ℕ
  dropoffWaypointId : Option ℕ
  priceBreakdown : Breakdown

/-- `resolveBookingPlan`; `checks` are those of the ride's status, the window, the rider and the number
of seats, which come first, and `calculateBookingPrice` is what the fare, the seats and the currency
come to. -/
def resolveBookingPlan {Breakdown : Type} (sign : ViewTokenPayload → String)
    (checks : Except Err Unit) (calculateBookingPrice : Binary64 → ℤ → String → Breakdown)
    (ride : SegmentRide Binary64) (availableSeats : ℤ) (input : BookingRouteInput) :
    Except Err (BookingPlan Breakdown) := do
  checks
  let refs ← bookingRefs sign input
  match resolveSegmentView ride (buildSegmentPoints ride) refs.1 refs.2 with
  | none => .error (.text "INVALID_BOOKING_SEGMENT")
  | some riderView =>
    let context := riderView.bookingContext
    assertExplicitMeetingPointsSelected ride context.pickupWaypointId context.dropoffWaypointId
    if availableSeats < input.seatsBooked then .error (.text "INSUFFICIENT_SEATS")
    else .ok {
      segmentFare := riderView.basePricePerSeat
      pickupWaypointId := context.pickupWaypointId
      dropoffWaypointId := context.dropoffWaypointId
      priceBreakdown :=
        calculateBookingPrice riderView.basePricePerSeat input.seatsBooked ride.currency }

end Booking

/-! ## What a waypoint costs -/

section Costs

variable (ride : SegmentRide Binary64) (way : List (SegmentRideWaypoint Binary64))

/-- What one who gets on at the waypoint at `index` of the way has not to pay: at a pickup, nothing. -/
def SegmentRide.costFrom (index : ℕ) (waypoint : SegmentRideWaypoint Binary64) : Binary64 :=
  if waypoint.waypointType = .pickup then 0 else ride.priceOn way index

/-- What one who gets off there has to pay for the way to it: at a dropoff, the whole ride. -/
def SegmentRide.costTo (index : ℕ) (waypoint : SegmentRideWaypoint Binary64) : Binary64 :=
  if waypoint.waypointType = .dropoff then ride.basePricePerSeat else ride.priceOn way index

end Costs

section Booked

variable {ride : SegmentRide Binary64} {way : List (SegmentRideWaypoint Binary64)}
  {ref : SegmentPointRef} {point : SegmentPoint Binary64} {index : ℕ}
  {waypoint : SegmentRideWaypoint Binary64}

/-- The point of the waypoint at a place of the way. -/
structure IsPointOf (ride : SegmentRide Binary64) (way : List (SegmentRideWaypoint Binary64)) (index : ℕ)
    (waypoint : SegmentRideWaypoint Binary64) (point : SegmentPoint Binary64) : Prop where
  get : way[index]? = some waypoint
  type : point.waypointType = some waypoint.waypointType
  position : point.position = index + 1
  price : point.cumulativePrice = ride.priceOn way index

/-- A point that names a waypoint is found as the point of that waypoint. -/
theorem isPointOf_of_found (hnodup : ride.waypoints.Nodup) (hway : ride.IsWay way)
    (hfound : findPointByRef (buildSegmentPoints ride) ref = some point)
    (hid : point.waypointId ≠ none) :
    ∃ index waypoint, ref = .waypoint waypoint.id ∧ IsPointOf ride way index waypoint point := by
  have href : point.ref = ref := by simpa using List.find?_some hfound
  have hmem := List.mem_of_find?_eq_some hfound
  have hposition := getElem?_position ride hmem
  obtain rfl := (isWay_iff hnodup).mp hway
  rw [buildSegmentPoints, List.cons_append, List.mem_cons, List.mem_append, List.mem_singleton] at hmem
  rcases hmem with rfl | hmem | rfl
  · exact absurd rfl hid
  · obtain ⟨index, hindex, rfl⟩ := List.mem_mapIdx.mp hmem
    have hget : ride.sortedWaypoints[index]? = some ride.sortedWaypoints[index] :=
      List.getElem?_eq_getElem hindex
    obtain ⟨point, hpoint, hrefP, -, htype, hpos, hprice⟩ :=
      getElem?_buildSegmentPoints hnodup hway hget
    -- it is the point at its position
    obtain rfl := Option.some.inj (hposition.symm.trans hpoint)
    exact ⟨index, _, href.symm, hget, htype, hpos, hprice⟩
  · exact absurd rfl hid

theorem normalizeFarePoint_pickup (h : IsPointOf ride way index waypoint point) :
    (normalizeFarePoint (buildSegmentPoints ride) point .pickup).cumulativePrice =
      ride.costFrom way index waypoint := by
  unfold normalizeFarePoint SegmentRide.costFrom
  rw [h.type]
  by_cases htype : waypoint.waypointType = .pickup
  · rw [if_pos ⟨rfl, by rw [htype]⟩, if_pos htype, findPointByRef_origin, Option.getD_some,
      originPoint_price]
  · rw [if_neg (by simpa using htype), if_neg (by rintro ⟨⟨⟩, -⟩), if_neg htype, h.price]

theorem normalizeFarePoint_dropoff (h : IsPointOf ride way index waypoint point) :
    (normalizeFarePoint (buildSegmentPoints ride) point .dropoff).cumulativePrice =
      ride.costTo way index waypoint := by
  unfold normalizeFarePoint SegmentRide.costTo
  rw [h.type, if_neg (by rintro ⟨⟨⟩, -⟩)]
  by_cases htype : waypoint.waypointType = .dropoff
  · rw [if_pos ⟨rfl, by rw [htype]⟩, if_pos htype, findPointByRef_destination, Option.getD_some,
      destinationPoint_price]
  · rw [if_neg (by simpa using htype), if_neg htype, h.price]

/-- **An accepted booking** of a ride with meeting points of both kinds names two waypoints, in their
order, and pays the difference of what they cost. -/
theorem resolveBookingPlan_eq_ok {Breakdown : Type} {sign : ViewTokenPayload → String}
    {checks : Except Err Unit} {calculateBookingPrice : Binary64 → ℤ → String → Breakdown}
    {availableSeats : ℤ} {input : BookingRouteInput} {plan : BookingPlan Breakdown}
    (hnodup : ride.waypoints.Nodup) (hway : ride.IsWay way)
    (hpickups : ∃ waypoint ∈ ride.waypoints, waypoint.waypointType = .pickup)
    (hdropoffs : ∃ waypoint ∈ ride.waypoints, waypoint.waypointType = .dropoff)
    (h : resolveBookingPlan sign checks calculateBookingPrice ride availableSeats input = .ok plan) :
    ∃ i j pickup drop, i < j ∧ way[i]? = some pickup ∧ way[j]? = some drop ∧
      bookingRefs sign input = .ok (.waypoint pickup.id, .waypoint drop.id) ∧
      ¬ plan.segmentFare < 0 ∧
      plan.segmentFare = ride.costTo way j drop - ride.costFrom way i pickup := by
  cases checks with
  | error e => cases h
  | ok _ =>
    cases hrefs : bookingRefs sign input with
    | error e =>
      simp only [resolveBookingPlan, hrefs] at h
      cases h
    | ok refs =>
      cases hview : resolveSegmentView ride (buildSegmentPoints ride) refs.1 refs.2 with
      | none =>
        simp only [resolveBookingPlan, hrefs, bind, Except.bind, hview] at h
        cases h
      | some view =>
        simp only [resolveBookingPlan, hrefs, bind, Except.bind, hview] at h
        obtain ⟨pickupPoint, dropPoint, hpickup, hdrop, hbefore, hnonneg, hfare, hcontext⟩ :=
          resolveSegmentView_eq_some hview
        rw [hcontext] at h
        -- the check of the meeting points: both ends are waypoints
        have hanyPickup : (ride.waypoints.any fun waypoint => waypoint.waypointType == .pickup) =
            true := by simpa using hpickups
        have hanyDropoff : (ride.waypoints.any fun waypoint => waypoint.waypointType == .dropoff) =
            true := by simpa using hdropoffs
        simp only [assertExplicitMeetingPointsSelected, hanyPickup, hanyDropoff, true_and] at h
        by_cases hpickupId : pickupPoint.waypointId = none
        · rw [if_pos hpickupId] at h
          cases h
        · rw [if_neg hpickupId] at h
          by_cases hdropId : dropPoint.waypointId = none
          · rw [if_pos hdropId] at h
            cases h
          · rw [if_neg hdropId] at h
            obtain ⟨i, pickup, hpickupRef, hpickupPoint⟩ :=
              isPointOf_of_found hnodup hway hpickup hpickupId
            obtain ⟨j, drop, hdropRef, hdropPoint⟩ := isPointOf_of_found hnodup hway hdrop hdropId
            have hij : i < j := by
              have hi := hpickupPoint.position
              have hj := hdropPoint.position
              omega
            refine ⟨i, j, pickup, drop, hij, hpickupPoint.get, hdropPoint.get, ?_, ?_⟩
            · rw [← hpickupRef, ← hdropRef]
            · dsimp only at h
              split_ifs at h with hseats
              obtain rfl := Except.ok.inj h
              refine ⟨hnonneg, ?_⟩
              show view.basePricePerSeat = _
              rw [hfare, normalizeFarePoint_pickup hpickupPoint, normalizeFarePoint_dropoff hdropPoint]

end Booked

/-! ## Rides that were published -/

section Published

variable {draft : DraftRide} {currency : String} {rideId : ℕ} {ids : ℕ ↪ ℕ} {checks : Except Err Unit}
  {published ride : SegmentRide Binary64}

/-- What is published: the fare of the draft, and its waypoints. -/
theorem publishRide_eq_ok
    (h : publishRide draft currency rideId ids checks = .ok published) :
    draft.basePricePerSeat.map number = some published.basePricePerSeat ∧
      draft.pickups ≠ [] ∧ draft.dropoffs ≠ [] ∧
      published.waypoints = (allWaypoints draft published.basePricePerSeat).mapIdx fun index data =>
        data.row (ids index) := by
  unfold publishRide at h
  split at h
  · split at h
    · cases h
    · rename_i origin destination _ _ basePricePerSeat hbase
      split_ifs at h with hempty
      cases checks with
      | error e => cases h
      | ok _ =>
        obtain rfl := Except.ok.inj h
        obtain ⟨hbase, -⟩ := Option.filter_eq_some_iff.mp hbase
        simp only [Bool.or_eq_true, List.isEmpty_iff, not_or] at hempty
        exact ⟨hbase, hempty.1, hempty.2, rfl⟩
  · cases h

/-- No waypoint is written twice, and none is read twice. -/
theorem nodup_waypoints (h : publishRide draft currency rideId ids checks = .ok published)
    (hread : published.ReadAs ride) : ride.waypoints.Nodup := by
  obtain ⟨waypoints, hperm, rfl⟩ := hread
  obtain ⟨-, -, -, hwaypoints⟩ := publishRide_eq_ok h
  refine hperm.nodup_iff.mpr ?_
  rw [hwaypoints]
  refine List.pairwise_iff_getElem.mpr ?_
  intro i j hi hj hij heq
  -- two rows have two ids
  rw [List.getElem_mapIdx, List.getElem_mapIdx] at heq
  have hids : ids i = ids j := congrArg SegmentRideWaypoint.id heq
  exact hij.ne (ids.injective hids)

/-- Every waypoint of the draft is one of the ride. -/
theorem exists_waypoint (h : publishRide draft currency rideId ids checks = .ok published)
    (hread : published.ReadAs ride) {data : WaypointData}
    (hdata : data ∈ allWaypoints draft published.basePricePerSeat) :
    ∃ waypoint ∈ ride.waypoints, waypoint.waypointType = data.waypointType := by
  obtain ⟨waypoints, hperm, rfl⟩ := hread
  obtain ⟨-, -, -, hwaypoints⟩ := publishRide_eq_ok h
  obtain ⟨index, hindex, rfl⟩ := List.getElem_of_mem hdata
  refine ⟨(allWaypoints draft published.basePricePerSeat)[index].row (ids index), ?_, rfl⟩
  refine hperm.mem_iff.mpr ?_
  rw [hwaypoints]
  exact List.mem_mapIdx.mpr ⟨index, hindex, rfl⟩

theorem exists_pickup (h : publishRide draft currency rideId ids checks = .ok published)
    (hread : published.ReadAs ride) :
    ∃ waypoint ∈ ride.waypoints, waypoint.waypointType = .pickup := by
  obtain ⟨-, hpickups, -⟩ := publishRide_eq_ok h
  obtain ⟨pickup, rest, hlist⟩ := List.exists_cons_of_ne_nil hpickups
  refine @exists_waypoint _ _ _ _ _ _ _ h hread (pickupData 0 pickup) ?_
  refine (List.mergeSort_perm _ _).mem_iff.mpr ?_
  simp [hlist, List.mapIdx_cons]

theorem exists_dropoff (h : publishRide draft currency rideId ids checks = .ok published)
    (hread : published.ReadAs ride) :
    ∃ waypoint ∈ ride.waypoints, waypoint.waypointType = .dropoff := by
  obtain ⟨-, -, hdropoffs, -⟩ := publishRide_eq_ok h
  obtain ⟨dropoff, rest, hlist⟩ := List.exists_cons_of_ne_nil hdropoffs
  refine @exists_waypoint _ _ _ _ _ _ _ h hread
    (dropoffData published.basePricePerSeat 0 dropoff) ?_
  refine (List.mergeSort_perm _ _).mem_iff.mpr ?_
  simp [hlist, List.mapIdx_cons]

end Published

end Fares

/-! ## Positive fares -/

section Booked

/-- **Positive fares**: a booking that is accepted names two waypoints of the way. It has a positive
fare, and the full one from a pickup to a dropoff, exactly if getting on at the one and getting off at the
other do not cost the same. -/
theorem booked_fare_positive_iff {Breakdown : Type} (draft : DraftRide) (currency : String) (rideId : ℕ)
    (ids : ℕ ↪ ℕ) (publishChecks bookingChecks : Except Err Unit)
    (published ride : Fares.SegmentRide Binary64)
    (hpublished : Fares.publishRide draft currency rideId ids publishChecks = .ok published)
    (hread : published.ReadAs ride) (sign : ViewTokenPayload → String)
    (calculateBookingPrice : Binary64 → ℤ → String → Breakdown) (availableSeats : ℤ)
    (input : BookingRouteInput) (plan : Fares.BookingPlan Breakdown)
    (hplan : Fares.resolveBookingPlan sign bookingChecks calculateBookingPrice ride availableSeats
      input = .ok plan) :
    ∃ way i j pickup drop, ride.IsWay way ∧ i < j ∧ way[i]? = some pickup ∧ way[j]? = some drop ∧
      bookingRefs sign input = .ok (.waypoint pickup.id, .waypoint drop.id) ∧
      ((0 < plan.segmentFare ∧ (pickup.waypointType = .pickup → drop.waypointType = .dropoff →
          plan.segmentFare = ride.basePricePerSeat)) ↔
        ride.costFrom way i pickup ≠ ride.costTo way j drop) := by
  have hnodup := Fares.nodup_waypoints hpublished hread
  have hway := Fares.isWay_sortedWaypoints hnodup
  obtain ⟨i, j, pickup, drop, hij, hi, hj, hrefs, hnonneg, hfare⟩ := Fares.resolveBookingPlan_eq_ok
    hnodup hway (Fares.exists_pickup hpublished hread) (Fares.exists_dropoff hpublished hread) hplan
  refine ⟨_, i, j, pickup, drop, hway, hij, hi, hj, hrefs, ?_⟩
  -- a rounded difference has the sign of the exact one
  rw [hfare, Binary64.sub_neg_iff, Binary64.lt_iff] at hnonneg
  rw [hfare, Binary64.sub_pos_iff, Binary64.lt_iff]
  constructor
  · rintro ⟨hpos, -⟩ hsame
    rw [hsame] at hpos
    exact lt_irrefl _ hpos
  · intro hdiff
    constructor
    · refine lt_of_le_of_ne (not_lt.mp hnonneg) fun hvalue => hdiff ?_
      exact Binary64.ext hvalue
    · intro hpickupType hdropType
      rw [Fares.SegmentRide.costFrom, if_pos hpickupType, Fares.SegmentRide.costTo,
        if_pos hdropType, Binary64.sub_zero]

end Booked

/-! ## Two pickups and a dropoff -/

section Runs

private def place (placeId : String) : Place := { lat := 59, lng := 24, placeId, address := placeId }

/-- A draft of 20.00 with two pickups and a dropoff. -/
private def twoPickups : DraftRide where
  origin := some (place "origin")
  destination := some (place "destination")
  routeDistanceMeters := some 100000
  basePricePerSeat := some 20
  pickups := [{ place "first" with }, { place "second" with }]
  dropoffs := [{ place "third" with }]

private def twoPickupsRide : Fares.SegmentRide Binary64 where
  id := 1
  origin := place "origin"
  destination := place "destination"
  basePricePerSeat := .ofRat 20
  waypoints := [
    { place "first" with id := 0, waypointType := .pickup, orderIndex := 0, pricePerSeat := some 0 },
    { place "second" with id := 1, waypointType := .pickup, orderIndex := 1, pricePerSeat := some 0 },
    { place "third" with
      id := 2, waypointType := .dropoff, orderIndex := 100, pricePerSeat := some (.ofRat 20) }]

private theorem twoPickups_published :
    Fares.publishRide twoPickups "EUR" 1 (.refl ℕ) (.ok ()) = .ok twoPickupsRide := by
  have hwaypoints : Fares.allWaypoints twoPickups (.ofRat 20) = [
      Fares.pickupData 0 { place "first" with }, Fares.pickupData 1 { place "second" with },
      Fares.dropoffData (.ofRat 20) 0 { place "third" with }] :=
    List.mergeSort_of_pairwise (by simp [twoPickups, Fares.pickupData, Fares.dropoffData])
  have hbase : (twoPickups.basePricePerSeat.map Fares.number).filter (fun price => price ≠ 0) =
      some (.ofRat 20) := by
    decide +kernel
  simp only [Fares.publishRide, hbase, hwaypoints]
  rfl

private theorem twoPickupsRide_points :
    Fares.buildSegmentPoints twoPickupsRide = [
      { place "origin" with
        ref := .origin, waypointId := none, waypointType := none, cumulativePrice := 0, position := 0 },
      { place "first" with
        ref := .waypoint 0, waypointId := some 0, waypointType := some .pickup
        cumulativePrice := 0, position := 1 },
      { place "second" with
        ref := .waypoint 1, waypointId := some 1, waypointType := some .pickup
        cumulativePrice := 0, position := 2 },
      { place "third" with
        ref := .waypoint 2, waypointId := some 2, waypointType := some .dropoff
        cumulativePrice := .ofRat 20, position := 3 },
      { place "destination" with
        ref := .destination, waypointId := none, waypointType := none
        cumulativePrice := .ofRat 20, position := 4 }] := by
  have hsorted : twoPickupsRide.sortedWaypoints = twoPickupsRide.waypoints :=
    List.mergeSort_of_pairwise (by simp [twoPickupsRide])
  have hprices : twoPickupsRide.cumulativePrices = [0, 0, 0, .ofRat 20, .ofRat 20] := by
    rw [Fares.cumulativePrices_eq, hsorted]
    rfl
  rw [Fares.buildSegmentPoints, Fares.originPoint, Fares.destinationPoint, hprices, hsorted]
  rfl

/-- A booking from the first point to another, for one seat. -/
private def fromFirst (drop : ℕ) : BookingRouteInput where
  rideId := 1
  seatsBooked := 1
  pickupWaypointId := some 0
  dropoffWaypointId := some drop

/-- What the plans of the runs keep of the prices: nothing besides the fare. -/
private def noBreakdown (_ : Binary64) (_ : ℤ) (_ : String) : Unit := ()

/-- A view of the ride: the waypoints that it names, and its price. -/
private theorem view_twoPickups {drop : ℕ} {context : SegmentBookingContext} {fare : Binary64}
    (h : (Fares.resolveSegmentView twoPickupsRide (Fares.buildSegmentPoints twoPickupsRide)
      (.waypoint 0) (.waypoint drop)).map (fun view => (view.bookingContext, view.basePricePerSeat)) =
        some (context, fare)) :
    ∃ view, Fares.resolveSegmentView twoPickupsRide (Fares.buildSegmentPoints twoPickupsRide)
      (.waypoint 0) (.waypoint drop) = some view ∧ view.bookingContext = context ∧
        view.basePricePerSeat = fare := by
  obtain ⟨view, hview, heq⟩ := Option.map_eq_some_iff.mp h
  exact ⟨view, hview, congrArg Prod.fst heq, congrArg Prod.snd heq⟩

private theorem fromFirst_plan {drop : ℕ} {view : Fares.SegmentView Binary64}
    (hview : Fares.resolveSegmentView twoPickupsRide (Fares.buildSegmentPoints twoPickupsRide)
      (.waypoint 0) (.waypoint drop) = some view)
    (hids : view.bookingContext.pickupWaypointId ≠ none ∧
      view.bookingContext.dropoffWaypointId ≠ none) :
    ∃ plan, Fares.resolveBookingPlan (fun _ => "") (.ok ()) noBreakdown twoPickupsRide 4
      (fromFirst drop) = .ok plan ∧ plan.segmentFare = view.basePricePerSeat := by
  simp only [Fares.resolveBookingPlan, bookingRefs, fromFirst, bind, Except.bind, Option.elim_some,
    hview, Fares.assertExplicitMeetingPointsSelected, hids.1, hids.2, and_false, if_false]
  exact ⟨_, rfl, rfl⟩

/-- From the first pickup to the dropoff: the whole fare. -/
theorem from_pickup_to_dropoff_paid :
    ∃ plan, Fares.resolveBookingPlan (fun _ => "") (.ok ()) noBreakdown twoPickupsRide 4 (fromFirst 2) =
      .ok plan ∧ 0 < plan.segmentFare := by
  obtain ⟨view, hview, hcontext, -⟩ := @view_twoPickups 2
    { rideId := 1, pickupWaypointId := some 0, dropoffWaypointId := some 2 } (.ofRat 20) (by
      rw [twoPickupsRide_points]
      decide +kernel)
  obtain ⟨plan, hplan, -⟩ := fromFirst_plan hview (by rw [hcontext]; decide)
  refine ⟨plan, hplan, ?_⟩
  obtain ⟨way, i, j, pickup, drop, hway, -, hi, hj, hrefs, hiff⟩ := booked_fare_positive_iff twoPickups
    "EUR" 1 (.refl ℕ) (.ok ()) (.ok ()) twoPickupsRide twoPickupsRide twoPickups_published
    ⟨_, .refl _, rfl⟩ (fun _ => "") noBreakdown 4 (fromFirst 2) plan hplan
  refine (hiff.mpr ?_).1
  have hpickup := hway.perm.mem_iff.mp (List.mem_of_getElem? hi)
  have hdrop := hway.perm.mem_iff.mp (List.mem_of_getElem? hj)
  have hids : pickup.id = 0 ∧ drop.id = 2 := by
    have hboth := Except.ok.inj hrefs
    simp only [Prod.mk.injEq] at hboth
    exact ⟨(SegmentPointRef.waypoint.inj hboth.1).symm, (SegmentPointRef.waypoint.inj hboth.2).symm⟩
  simp only [twoPickupsRide, List.mem_cons, List.not_mem_nil, or_false] at hpickup hdrop
  rcases hpickup with rfl | rfl | rfl
  · rcases hdrop with rfl | rfl | rfl
    · exact absurd hids.2 (by decide)
    · exact absurd hids.2 (by decide)
    · rw [Fares.SegmentRide.costFrom, if_pos rfl, Fares.SegmentRide.costTo, if_pos rfl]
      decide +kernel
  · exact absurd hids.1 (by decide)
  · exact absurd hids.1 (by decide)

/-- From the first pickup to the second: accepted, for nothing. -/
theorem from_pickup_to_pickup_for_nothing :
    ∃ published plan, Fares.publishRide twoPickups "EUR" 1 (.refl ℕ) (.ok ()) = .ok published ∧
      Fares.resolveBookingPlan (fun _ => "") (.ok ()) noBreakdown published 4 (fromFirst 1) = .ok plan ∧
      ¬ 0 < plan.segmentFare := by
  obtain ⟨view, hview, hcontext, hfare⟩ := @view_twoPickups 1
    { rideId := 1, pickupWaypointId := some 0, dropoffWaypointId := some 1 } 0 (by
      rw [twoPickupsRide_points]
      decide +kernel)
  obtain ⟨plan, hplan, hpaid⟩ := fromFirst_plan hview (by rw [hcontext]; decide)
  refine ⟨twoPickupsRide, plan, twoPickups_published, hplan, ?_⟩
  rw [hpaid, hfare]
  exact lt_irrefl (0 : Binary64).value

end Runs

end Deliivo
