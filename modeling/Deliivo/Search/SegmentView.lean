import Deliivo.Booking.Creation

/-!
# Parts of a route

A rider travels from one point of a ride to a later one. The points are the ride's origin, its
waypoints in their order and its destination, each with the price of the way there; a view of the
part between two points has its price and the waypoints that a booking of it would name. The search
hands such a view out as a signed token.

## Main definitions

* `buildSegmentPoints`: the points of a ride with their prices
* `resolveSegmentView`: the part between two points
* `encodeViewToken`, `decodeViewToken`: views as tokens, with a signature `sign` of their content
* `calculateBookingPrice`: what a rider pays
* `bookingRoute`: what `resolveBookingPlan` makes of a token or of two waypoints

## Main results

* `waypointId_eq_none_iff`: the points that are no waypoint
* `resolveSegmentView_context`: the waypoints that a view names
-/

namespace Deliivo

/-! ## Rides -/

structure LatLng where
  lat : ℚ
  lng : ℚ
  deriving DecidableEq, Repr

structure Place extends LatLng where
  placeId : String
  address : String
  deriving DecidableEq, Repr

/-- `WaypointType`. -/
inductive WaypointType
  | pickup
  | dropoff
  | stopover
  deriving DecidableEq, Repr

structure SegmentRideWaypoint extends Place where
  id : ℕ
  waypointType : WaypointType
  orderIndex : ℤ
  pricePerSeat : Option ℤ := none
  deriving DecidableEq, Repr

/-- What search and booking read of a ride and its waypoints; the fare is not negative. -/
structure SegmentRide where
  id : ℕ
  origin : Place
  destination : Place
  basePricePerSeat : ℤ
  currency : String := "EUR"
  waypoints : List SegmentRideWaypoint
  fare_nonneg : 0 ≤ basePricePerSeat

/-- The waypoints by `orderIndex`; the sort is stable. -/
def SegmentRide.sortedWaypoints (ride : SegmentRide) : List SegmentRideWaypoint :=
  ride.waypoints.mergeSort fun a b => a.orderIndex ≤ b.orderIndex

/-! ## Points and their prices -/

/-- The first price in a list, with the number of points before it that have none. -/
def nextPrice : List (Option ℤ) → Option (ℕ × ℤ)
  | [] => none
  | some price :: _ => some (0, price)
  | none :: prices => (nextPrice prices).map fun next => (next.1 + 1, next.2)

/-- The prices behind a point of price `previous`. The point before a missing price has one by the
time it is looked at, so the way to the next price is divided by the points on it. -/
def fillFrom (previous : ℤ) : List (Option ℤ) → List ℤ
  | [] => []
  | some price :: prices => price :: fillFrom price prices
  | none :: prices =>
    let filled := match nextPrice prices with
      | none => previous
      | some (gap, next) => (previous * (gap + 2) + (next - previous)).roundDiv (gap + 2)
    filled :: fillFrom filled prices

/-- `fillMissingCumulativePrices`, of the waypoints between an origin of price zero and a
destination of the full fare. -/
def cumulativePrices (ride : SegmentRide) : List ℤ :=
  fillFrom 0 ((ride.sortedWaypoints.map SegmentRideWaypoint.pricePerSeat) ++
    [some ride.basePricePerSeat])

inductive SegmentPointRef
  | origin
  | destination
  | waypoint (id : ℕ)
  deriving DecidableEq, Repr

structure SegmentPoint extends Place where
  ref : SegmentPointRef
  waypointId : Option ℕ
  waypointType : Option WaypointType
  cumulativePrice : ℤ
  position : ℕ

/-- The point of the waypoint with index `index`. -/
def SegmentRideWaypoint.point (prices : List ℤ) (waypoint : SegmentRideWaypoint) (index : ℕ) :
    SegmentPoint :=
  { waypoint.toPlace with
    ref := .waypoint waypoint.id
    waypointId := some waypoint.id
    waypointType := some waypoint.waypointType
    cumulativePrice := prices.getD index 0
    position := index + 1 }

def originPoint (ride : SegmentRide) : SegmentPoint :=
  { ride.origin with
    ref := .origin
    waypointId := none
    waypointType := none
    cumulativePrice := 0
    position := 0 }

def destinationPoint (ride : SegmentRide) : SegmentPoint :=
  { ride.destination with
    ref := .destination
    waypointId := none
    waypointType := none
    cumulativePrice := (cumulativePrices ride).getD ride.sortedWaypoints.length 0
    position := ride.sortedWaypoints.length + 1 }

def buildSegmentPoints (ride : SegmentRide) : List SegmentPoint :=
  originPoint ride ::
    (ride.sortedWaypoints.mapIdx fun index waypoint =>
      waypoint.point (cumulativePrices ride) index) ++ [destinationPoint ride]

/-! ## Views -/

structure SegmentBookingContext where
  rideId : ℕ
  pickupWaypointId : Option ℕ
  dropoffWaypointId : Option ℕ
  deriving DecidableEq, Repr

structure SegmentDiagnostics where
  pickupCumulativePrice : ℤ
  dropCumulativePrice : ℤ
  segmentFare : ℤ
  deriving DecidableEq, Repr

/-- A part of a route; its fare is not negative. -/
structure SegmentView where
  origin : Place
  destination : Place
  basePricePerSeat : ℤ
  bookingContext : SegmentBookingContext
  segment : SegmentDiagnostics
  fare_nonneg : 0 ≤ basePricePerSeat

def findPointByRef (points : List SegmentPoint) (ref : SegmentPointRef) : Option SegmentPoint :=
  points.find? fun point => point.ref == ref

inductive FareRole
  | pickup
  | dropoff
  deriving DecidableEq

/-- `normalizeFarePoint`: a meeting point at an end of the route has the price of that end. -/
def normalizeFarePoint (points : List SegmentPoint) (point : SegmentPoint) (role : FareRole) :
    SegmentPoint :=
  if role = .pickup ∧ point.waypointType = some .pickup then
    (points.find? fun candidate => candidate.ref == .origin).getD point
  else if role = .dropoff ∧ point.waypointType = some .dropoff then
    (points.find? fun candidate => candidate.ref == .destination).getD point
  else point

def resolveSegmentView (ride : SegmentRide) (points : List SegmentPoint)
    (pickupRef dropRef : SegmentPointRef) : Option SegmentView :=
  match findPointByRef points pickupRef, findPointByRef points dropRef with
  | some pickup, some drop =>
    if drop.position ≤ pickup.position then none
    else
      let farePickup := normalizeFarePoint points pickup .pickup
      let fareDrop := normalizeFarePoint points drop .dropoff
      let segmentFare := fareDrop.cumulativePrice - farePickup.cumulativePrice
      -- a fare of zero passes
      if h : segmentFare < 0 then none
      else some {
        origin := pickup.toPlace
        destination := drop.toPlace
        basePricePerSeat := segmentFare
        bookingContext := {
          rideId := ride.id
          pickupWaypointId := pickup.waypointId
          dropoffWaypointId := drop.waypointId }
        segment := {
          pickupCumulativePrice := farePickup.cumulativePrice
          dropCumulativePrice := fareDrop.cumulativePrice
          segmentFare }
        fare_nonneg := not_lt.mp h }
  | _, _ => none

/-! ## Tokens -/

structure ViewTokenPayload where
  rideId : ℕ
  pickupRef : SegmentPointRef
  dropRef : SegmentPointRef
  deriving DecidableEq, Repr

/-- A token: its content, which every valid reference can be in, and the signature of it. -/
structure ViewToken where
  body : ViewTokenPayload
  signature : String
  deriving DecidableEq, Repr

section Tokens

variable (sign : ViewTokenPayload → String)

def encodeViewToken (payload : ViewTokenPayload) : ViewToken where
  body := payload
  signature := sign payload

def decodeViewToken (token : ViewToken) : Except Err ViewTokenPayload :=
  if token.signature = sign token.body then .ok token.body
  else .error (.text "INVALID_VIEW_TOKEN")

@[simp] theorem decodeViewToken_encodeViewToken (payload : ViewTokenPayload) :
    decodeViewToken sign (encodeViewToken sign payload) = .ok payload := if_pos rfl

end Tokens

/-! ## Prices -/

/-- `ServiceFeeTerms`: a percentage and an amount on top of the fare, neither of them negative. -/
structure ServiceFeeTerms where
  serviceFeePercent : ℚ
  serviceFeeFlat : ℤ
  percent_nonneg : 0 ≤ serviceFeePercent
  flat_nonneg : 0 ≤ serviceFeeFlat

/-- `CalculateBookingPriceInput`. -/
structure CalculateBookingPriceInput where
  basePricePerSeat : ℤ
  seatsBooked : ℤ
  currency : String
  terms : ServiceFeeTerms
  fare_nonneg : 0 ≤ basePricePerSeat
  seats_nonneg : 0 ≤ seatsBooked

def calculateBookingPrice (input : CalculateBookingPriceInput) : PriceBreakdown :=
  let subtotal := input.basePricePerSeat * input.seatsBooked
  let percentFee := ⌊subtotal * input.terms.serviceFeePercent / 100 + 1 / 2⌋
  { totalPrice := subtotal + (percentFee + input.terms.serviceFeeFlat)
    serviceFee := percentFee + input.terms.serviceFeeFlat
    currency := input.currency
    serviceFee_nonneg := by
      have hsubtotal : (0 : ℚ) ≤ ((input.basePricePerSeat * input.seatsBooked : ℤ) : ℚ) :=
        Int.cast_nonneg (mul_nonneg input.fare_nonneg input.seats_nonneg)
      have hpercent := input.terms.percent_nonneg
      exact add_nonneg (Int.floor_nonneg.mpr (by positivity)) input.terms.flat_nonneg }

/-! ## The route of a booking -/

/-- What a booking says of the route: the token of a view, or waypoints. -/
structure BookingRouteInput where
  rideId : ℕ
  seatsBooked : ℤ
  segmentId : Option ViewToken := none
  pickupWaypointId : Option ℕ := none
  dropoffWaypointId : Option ℕ := none

section Route

variable (sign : ViewTokenPayload → String)

/-- The points that a booking names. -/
def bookingRefs (input : BookingRouteInput) : Except Err (SegmentPointRef × SegmentPointRef) :=
  match input.segmentId with
  | some token =>
    match decodeViewToken sign token with
    | .ok payload =>
      if payload.rideId ≠ input.rideId then .error (.text "INVALID_BOOKING_SEGMENT")
      else .ok (payload.pickupRef, payload.dropRef)
    | .error _ => .error (.text "INVALID_BOOKING_SEGMENT")
  | none => .ok (input.pickupWaypointId.elim .origin .waypoint,
      input.dropoffWaypointId.elim .destination .waypoint)

def assertExplicitMeetingPointsSelected (ride : SegmentRide)
    (resolvedPickupWaypointId resolvedDropoffWaypointId : Option ℕ) : Except Err Unit :=
  let hasConcretePickup := ride.waypoints.any fun waypoint => waypoint.waypointType == .pickup
  let hasConcreteDropoff := ride.waypoints.any fun waypoint => waypoint.waypointType == .dropoff
  if hasConcretePickup = true ∧ resolvedPickupWaypointId = none then
    .error (.text "PICKUP_POINT_REQUIRED")
  else if hasConcreteDropoff = true ∧ resolvedDropoffWaypointId = none then
    .error (.text "DROPOFF_POINT_REQUIRED")
  else .ok ()

/-- The position of the point that a view has resolved an end to. -/
def resolvedPosition (points : List SegmentPoint) (waypointId : Option ℕ)
    (fallback : SegmentPointRef) : ℤ :=
  ((points.find? fun p => p.waypointId == waypointId && waypointId.isSome).or
    (findPointByRef points (waypointId.elim fallback .waypoint))).elim 0 fun p => p.position

/-- What `resolveBookingPlan` does between the checks of the rider and those of the seats. The
number of seats has been checked before. -/
def bookingRoute (ride : SegmentRide) (terms : ServiceFeeTerms) (input : BookingRouteInput) :
    Except Err RoutePlan := do
  let refs ← bookingRefs sign input
  let points := buildSegmentPoints ride
  match resolveSegmentView ride points refs.1 refs.2 with
  | none => throw (.text "INVALID_BOOKING_SEGMENT")
  | some riderView =>
    let context := riderView.bookingContext
    assertExplicitMeetingPointsSelected ride context.pickupWaypointId context.dropoffWaypointId
    if hseats : 0 ≤ input.seatsBooked then
      return {
        pickupPosition := resolvedPosition points context.pickupWaypointId .origin
        dropoffPosition := resolvedPosition points context.dropoffWaypointId .destination
        segmentFare := riderView.basePricePerSeat
        priceBreakdown := calculateBookingPrice {
          basePricePerSeat := riderView.basePricePerSeat
          seatsBooked := input.seatsBooked
          currency := ride.currency
          terms
          fare_nonneg := riderView.fare_nonneg
          seats_nonneg := hseats } }
    else throw (.text "MINIMUM_ONE_SEAT_REQUIRED")

end Route

/-! ## What views name -/

section Context

variable {ride : SegmentRide} {pickupRef dropRef : SegmentPointRef}

/-- The points of a ride that are no waypoint are its ends. -/
theorem waypointId_eq_none_iff {point : SegmentPoint} (h : point ∈ buildSegmentPoints ride) :
    point.waypointId = none ↔ point.ref = .origin ∨ point.ref = .destination := by
  rw [buildSegmentPoints, List.cons_append, List.mem_cons, List.mem_append,
    List.mem_singleton] at h
  rcases h with rfl | h | rfl
  · exact iff_of_true rfl (Or.inl rfl)
  · obtain ⟨i, hi, rfl⟩ := List.mem_mapIdx.mp h
    exact iff_of_false (Option.some_ne_none _) (by simp [SegmentRideWaypoint.point])
  · exact iff_of_true rfl (Or.inr rfl)

/-- A view names no waypoint at an end exactly if that end is an end of the ride. -/
theorem resolveSegmentView_context {view : SegmentView}
    (h : resolveSegmentView ride (buildSegmentPoints ride) pickupRef dropRef = some view) :
    (view.bookingContext.pickupWaypointId = none ↔
        pickupRef = .origin ∨ pickupRef = .destination) ∧
      (view.bookingContext.dropoffWaypointId = none ↔
        dropRef = .origin ∨ dropRef = .destination) := by
  unfold resolveSegmentView at h
  cases hpickup : findPointByRef (buildSegmentPoints ride) pickupRef with
  | none => simp [hpickup] at h
  | some pickup =>
    cases hdrop : findPointByRef (buildSegmentPoints ride) dropRef with
    | none => simp [hpickup, hdrop] at h
    | some drop =>
      have hfound : ∀ ref point, findPointByRef (buildSegmentPoints ride) ref = some point →
          (point.waypointId = none ↔ ref = .origin ∨ ref = .destination) := by
        intro ref point hpoint
        have href : point.ref = ref := by simpa using List.find?_some hpoint
        rw [waypointId_eq_none_iff (List.mem_of_find?_eq_some hpoint), href]
      simp only [hpickup, hdrop] at h
      split_ifs at h with hpos hfare
      obtain rfl := Option.some.inj h
      exact ⟨hfound _ _ hpickup, hfound _ _ hdrop⟩

end Context

end Deliivo
