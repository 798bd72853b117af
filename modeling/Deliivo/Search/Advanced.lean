import Deliivo.Search.SegmentView
import Deliivo.Store.FirstLeast

/-!
# The advanced search

Every ride that the database finds is matched against the rider's origin and destination: of its
points that are in reach, the pair that is closest in all, the first point before the second, is
what the rider is shown. A pair that is not the whole ride is a view of a part of it, with a price
and a token of its own. Which rides the database finds, and the match of the routes where no pair is
in reach, are parameters.

## Main definitions

* `buildDPoints`: the points that are matched
* `bestMatch`: the loop over the pairs in reach
* `evaluateRide`, `searchRidesAdvanced`: the results

## Main results

* `bestMatch_eq_some_iff`: the loop finds the first of the closest pairs
-/

namespace Deliivo

/-! ## Points -/

inductive PointType
  | origin
  | waypoint
  | dest
  deriving DecidableEq, Repr

structure DPoint where
  index : ℕ
  waypointId : Option ℕ := none
  place : LatLng
  pointType : PointType
  deriving DecidableEq, Repr

def buildDPoints (ride : SegmentRide) : List DPoint :=
  { index := 0, place := ride.origin.toLatLng, pointType := .origin } ::
    (ride.sortedWaypoints.mapIdx fun i waypoint =>
      { index := i + 1
        waypointId := some waypoint.id
        place := waypoint.toLatLng
        pointType := .waypoint }) ++
    [{ index := ride.sortedWaypoints.length + 1
       place := ride.destination.toLatLng
       pointType := .dest }]

def toSegmentPointRef (point : DPoint) : Option SegmentPointRef :=
  match point.pointType with
  | .origin => some .origin
  | .dest => some .destination
  | .waypoint => point.waypointId.map .waypoint

inductive RideMatchType
  | cond1
  | cond2
  | cond3
  | cond4
  | altRoute
  deriving DecidableEq, Repr

def classifyMatch (pickup drop : DPoint) (lastIdx : ℕ) : RideMatchType :=
  if pickup.index = 0 ∧ drop.index = lastIdx then .cond1
  else if pickup.pointType = .waypoint ∧ drop.index = lastIdx then .cond4
  else if pickup.pointType = .waypoint ∧ drop.pointType = .waypoint then .cond3
  else .cond2

/-! ## The closest pair -/

/-- A point in reach and how far it is; the point stands for its index. -/
structure IndexMatch where
  point : DPoint
  distance : ℚ
  deriving DecidableEq

structure AdvancedMatchResult where
  matchType : RideMatchType
  pickupRef : SegmentPointRef
  dropRef : SegmentPointRef
  deriving DecidableEq

/-- The variables of the loop over the pairs; no cost so far is infinity. -/
structure SearchState where
  bestMatch : Option AdvancedMatchResult := none
  bestCost : Option ℚ := none

/-- The body of the loop. -/
def considerPair (lastIdx : ℕ) (state : SearchState) (pair : IndexMatch × IndexMatch) :
    SearchState :=
  let (pickup, drop) := pair
  if pickup.point.index < drop.point.index then
    let cost := pickup.distance + drop.distance
    if state.bestCost.all fun bestCost => cost < bestCost then
      match toSegmentPointRef pickup.point, toSegmentPointRef drop.point with
      | some pickupRef, some dropRef =>
        { bestCost := some cost
          bestMatch := some {
            matchType := classifyMatch pickup.point drop.point lastIdx
            pickupRef
            dropRef } }
      -- the cost counts even where the pair has no reference
      | _, _ => { state with bestCost := some cost }
    else state
  else state

structure SearchQuery where
  origin : LatLng
  destination : LatLng
  radiusKm : ℚ
  maxPrice : Option ℤ := none

section Search

variable (haversine : LatLng → LatLng → ℚ)

/-- The points in reach of a place. -/
def pointsInReach (points : List DPoint) (place : LatLng) (radiusKm : ℚ) : List IndexMatch :=
  (points.map fun point => { point, distance := haversine place point.place }).filter fun m =>
    m.distance ≤ radiusKm

/-- The pairs of the nested loops. -/
def matchedPairs (query : SearchQuery) (ride : SegmentRide) : List (IndexMatch × IndexMatch) :=
  let dPoints := buildDPoints ride
  let originMatches := pointsInReach haversine dPoints query.origin query.radiusKm
  let destMatches := pointsInReach haversine dPoints query.destination query.radiusKm
  originMatches.flatMap fun pickup => destMatches.map fun drop => (pickup, drop)

def bestMatch (query : SearchQuery) (ride : SegmentRide) : Option AdvancedMatchResult :=
  ((matchedPairs haversine query ride).foldl
    (considerPair ((buildDPoints ride).length - 1)) {}).bestMatch

/-! ## Results -/

structure SearchResult where
  rideId : ℕ
  matchType : RideMatchType
  basePricePerSeat : ℤ
  riderTotalPerSeat : ℤ
  serviceFeePerSeat : ℤ
  isSegmentView : Bool
  segmentId : Option ViewToken
  segment : Option SegmentDiagnostics
  deriving DecidableEq

variable (altRoute : SegmentRide → Bool) (sign : ViewTokenPayload → String)

/-- The match of a ride: the closest pair, or the whole ride where the routes match. -/
def rideMatch (query : SearchQuery) (ride : SegmentRide) : Option AdvancedMatchResult :=
  (bestMatch haversine query ride).or <|
    if altRoute ride then
      some { matchType := .altRoute, pickupRef := .origin, dropRef := .destination }
    else none

/-- The part of a ride that a match shows the rider. -/
def riderViewOf (ride : SegmentRide) (found : AdvancedMatchResult) : Option SegmentView :=
  if found.matchType = .cond1 ∨ found.matchType = .altRoute then none
  else resolveSegmentView ride (buildSegmentPoints ride) found.pickupRef found.dropRef

/-- What a seat costs the rider. -/
def seatQuote (ride : SegmentRide) (terms : ServiceFeeTerms) : Option SegmentView → PriceBreakdown
  | some view => calculateBookingPrice {
      basePricePerSeat := view.basePricePerSeat
      seatsBooked := 1
      currency := ride.currency
      terms
      fare_nonneg := view.fare_nonneg
      seats_nonneg := by decide }
  | none => calculateBookingPrice {
      basePricePerSeat := ride.basePricePerSeat
      seatsBooked := 1
      currency := ride.currency
      terms
      fare_nonneg := ride.fare_nonneg
      seats_nonneg := by decide }

/-- Whether a price is above the one that the rider has set, zero standing for none. -/
def SearchQuery.tooDear (query : SearchQuery) (price : ℤ) : Bool :=
  query.maxPrice.any fun limit => limit ≠ 0 && limit < price

/-- One turn of the loop over the rides. -/
def evaluateRide (terms : ServiceFeeTerms) (query : SearchQuery) (ride : SegmentRide) :
    Option SearchResult :=
  match rideMatch haversine altRoute query ride with
  | none => none
  | some found =>
    let riderView := riderViewOf ride found
    let quote := seatQuote ride terms riderView
    if query.tooDear quote.totalPrice then none
    else some {
      rideId := ride.id
      matchType := found.matchType
      basePricePerSeat := riderView.elim ride.basePricePerSeat SegmentView.basePricePerSeat
      riderTotalPerSeat := quote.totalPrice
      serviceFeePerSeat := quote.serviceFee
      isSegmentView := riderView.isSome
      segmentId := riderView.map fun _ => encodeViewToken sign {
        rideId := ride.id, pickupRef := found.pickupRef, dropRef := found.dropRef }
      segment := riderView.map SegmentView.segment }

/-- All results of `searchRidesAdvanced`, before they are sorted, grouped and cut into pages. -/
def searchRidesAdvanced (terms : ℕ → ServiceFeeTerms) (query : SearchQuery)
    (candidateRides : List SegmentRide) : List SearchResult :=
  candidateRides.filterMap fun ride =>
    evaluateRide haversine altRoute sign (terms ride.id) query ride

end Search

/-! ## What the loop finds -/

section Loop

/-- Every point of a ride has a reference. -/
theorem toSegmentPointRef_isSome {ride : SegmentRide} {point : DPoint}
    (h : point ∈ buildDPoints ride) : ∃ ref, toSegmentPointRef point = some ref := by
  rw [buildDPoints, List.cons_append, List.mem_cons, List.mem_append, List.mem_singleton] at h
  rcases h with rfl | h | rfl
  · exact ⟨_, rfl⟩
  · obtain ⟨i, hi, rfl⟩ := List.mem_mapIdx.mp h
    exact ⟨_, rfl⟩
  · exact ⟨_, rfl⟩

/-- The points at the ends of a ride. -/
theorem buildDPoints_ends {ride : SegmentRide} {point : DPoint} (h : point ∈ buildDPoints ride) :
    (toSegmentPointRef point = some .origin ↔ point.index = 0) ∧
      (toSegmentPointRef point = some .destination ↔
        point.index = ride.waypoints.length + 1) := by
  have hlen : ride.sortedWaypoints.length = ride.waypoints.length := List.length_mergeSort _
  rw [buildDPoints, List.cons_append, List.mem_cons, List.mem_append, List.mem_singleton] at h
  rcases h with rfl | h | rfl
  · simp [toSegmentPointRef]
  · obtain ⟨i, hi, rfl⟩ := List.mem_mapIdx.mp h
    have hne : i ≠ ride.waypoints.length := by omega
    simp [toSegmentPointRef, hne]
  · simp [toSegmentPointRef, hlen]

/-- What the search compares pairs by. -/
def pairCost (pair : IndexMatch × IndexMatch) : ℚ := pair.1.distance + pair.2.distance

/-- The match that a pair makes. -/
def pairMatch (lastIdx : ℕ) (pair : IndexMatch × IndexMatch) : Option AdvancedMatchResult :=
  match toSegmentPointRef pair.1.point, toSegmentPointRef pair.2.point with
  | some pickupRef, some dropRef => some {
      matchType := classifyMatch pair.1.point pair.2.point lastIdx
      pickupRef
      dropRef }
  | _, _ => none

variable (haversine : LatLng → LatLng → ℚ)

/-- The pairs in reach of the rider that go along the ride. -/
def pairsAlong (query : SearchQuery) (ride : SegmentRide) : List (IndexMatch × IndexMatch) :=
  (matchedPairs haversine query ride).filter fun pair => pair.1.point.index < pair.2.point.index

variable {haversine} {query : SearchQuery} {ride : SegmentRide}

theorem mem_matchedPairs {pair : IndexMatch × IndexMatch}
    (h : pair ∈ matchedPairs haversine query ride) :
    pair.1.point ∈ buildDPoints ride ∧ pair.2.point ∈ buildDPoints ride := by
  obtain ⟨pickup, hpickup, hpair⟩ := List.mem_flatMap.mp h
  obtain ⟨drop, hdrop, rfl⟩ := List.mem_map.mp hpair
  have hpoint : ∀ place m, m ∈ pointsInReach haversine (buildDPoints ride) place query.radiusKm →
      m.point ∈ buildDPoints ride := by
    intro place m hm
    obtain ⟨point, hmem, rfl⟩ := List.mem_map.mp (List.mem_filter.mp hm).1
    exact hmem
  exact ⟨hpoint _ _ hpickup, hpoint _ _ hdrop⟩

/-- The variables of the loop once it has kept a pair. -/
def stateOf (lastIdx : ℕ) (kept : Option (IndexMatch × IndexMatch)) : SearchState where
  bestMatch := kept.bind (pairMatch lastIdx)
  bestCost := kept.map pairCost

/-- The loop keeps the least pair among those that go along the ride. -/
theorem considerPair_stateOf (lastIdx : ℕ) (kept : Option (IndexMatch × IndexMatch))
    {pair : IndexMatch × IndexMatch}
    (hrefs : (∃ ref, toSegmentPointRef pair.1.point = some ref) ∧
      ∃ ref, toSegmentPointRef pair.2.point = some ref) :
    considerPair lastIdx (stateOf lastIdx kept) pair = stateOf lastIdx
      (if pair.1.point.index < pair.2.point.index then List.keepLess pairCost kept pair
        else kept) := by
  obtain ⟨pickup, drop⟩ := pair
  obtain ⟨⟨pickupRef, hpickup⟩, dropRef, hdrop⟩ := hrefs
  dsimp only at hpickup hdrop
  by_cases horder : pickup.point.index < drop.point.index
  · have hall : ((stateOf lastIdx kept).bestCost.all
        fun bestCost => decide (pickup.distance + drop.distance < bestCost)) =
        kept.all fun b => decide (pairCost (pickup, drop) < pairCost b) := by
      cases kept <;> rfl
    simp only [considerPair, if_pos horder, hall, hpickup, hdrop, List.keepLess]
    split_ifs with hless
    · simp [stateOf, pairMatch, hpickup, hdrop, pairCost]
    · rfl
  · simp only [considerPair, if_neg horder]

theorem foldl_considerPair (lastIdx : ℕ) (pairs : List (IndexMatch × IndexMatch))
    (kept : Option (IndexMatch × IndexMatch))
    (hrefs : ∀ pair ∈ pairs, (∃ ref, toSegmentPointRef pair.1.point = some ref) ∧
      ∃ ref, toSegmentPointRef pair.2.point = some ref) :
    pairs.foldl (considerPair lastIdx) (stateOf lastIdx kept) = stateOf lastIdx
      ((pairs.filter fun pair => pair.1.point.index < pair.2.point.index).foldl
        (List.keepLess pairCost) kept) := by
  induction pairs generalizing kept with
  | nil => rfl
  | cons pair pairs ih =>
    rw [List.foldl_cons, considerPair_stateOf lastIdx kept (hrefs pair List.mem_cons_self),
      ih _ fun p hp => hrefs p (List.mem_cons_of_mem _ hp)]
    by_cases horder : pair.1.point.index < pair.2.point.index
    · rw [if_pos horder, List.filter_cons_of_pos (by simpa using horder), List.foldl_cons]
    · rw [if_neg horder, List.filter_cons_of_neg (by simpa using horder)]

/-- **The loop finds the first of the closest pairs** that go along the ride. -/
theorem bestMatch_eq_some_iff (found : AdvancedMatchResult) :
    bestMatch haversine query ride = some found ↔
      ∃ pair, List.FirstLeast pairCost (pairsAlong haversine query ride) pair ∧
        pairMatch ((buildDPoints ride).length - 1) pair = some found := by
  have hrefs : ∀ pair ∈ matchedPairs haversine query ride,
      (∃ ref, toSegmentPointRef pair.1.point = some ref) ∧
        ∃ ref, toSegmentPointRef pair.2.point = some ref := by
    intro pair hpair
    obtain ⟨hpickup, hdrop⟩ := mem_matchedPairs hpair
    exact ⟨toSegmentPointRef_isSome hpickup, toSegmentPointRef_isSome hdrop⟩
  have hloop := foldl_considerPair ((buildDPoints ride).length - 1)
    (matchedPairs haversine query ride) none hrefs
  have hstart : stateOf ((buildDPoints ride).length - 1) none = {} := rfl
  rw [hstart] at hloop
  rw [bestMatch, hloop, stateOf, Option.bind_eq_some_iff]
  refine exists_congr fun pair => and_congr_left fun _ => ?_
  exact List.foldl_keepLess_eq_some_iff

end Loop

end Deliivo
