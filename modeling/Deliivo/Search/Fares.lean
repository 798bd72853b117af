import Deliivo.Arith.Binary64
import Deliivo.Arith.Interpolate
import Deliivo.Search.SegmentView

/-!
# Prices along a route

The points of a ride with their prices, over any kind of numbers that prices can be counted in: the
rational numbers, where every operation is exact, and those of double precision, as in the source.
Stops without a price get one between the priced points around them, rounded to cents at once.

**In exact arithmetic, where the known prices are whole cents, do not decrease and lie between zero and
the fare, what is filled in does not decrease either, and the fares between stops add up**
(`missing_prices_filled`).

## Main definitions

* `MathRound`: the numbers that prices are counted in
* `Fares.buildSegmentPoints`: the points of a ride with their prices
* `Fares.resolveSegmentView`: the part between two points
* `Fares.SegmentRide.IsWay`: the waypoints of a ride in the order of their `orderIndex`
* `Fares.SegmentRide.priceOn`: what the way to a waypoint costs, by the prices that are written

## Main results

* `Fares.isWay_iff`: the waypoints have one order
* `Fares.getElem?_buildSegmentPoints`: the points along the way, with their prices
* `Fares.prices_ofCents`: in whole cents the points and their prices are those that rides are searched
  and booked with
* `missing_prices_filled`
-/

namespace Deliivo

/-- Numbers with `Math.round`. -/
class MathRound (N : Type) where
  mathRound : N → ℤ

instance : MathRound ℚ := ⟨Rat.roundHalfUp⟩
instance : MathRound Binary64 := ⟨fun x => x.value.roundHalfUp⟩

namespace Fares

/-! ## Rides and their points -/

section Model

variable (N : Type)

structure SegmentRideWaypoint extends Place where
  id : ℕ
  waypointType : WaypointType
  orderIndex : ℤ
  pricePerSeat : Option N := none

/-- What search and booking read of a ride and its waypoints. -/
structure SegmentRide where
  id : ℕ
  origin : Place
  destination : Place
  basePricePerSeat : N
  currency : String := "EUR"
  waypoints : List (SegmentRideWaypoint N)

structure SegmentPoint extends Place where
  ref : SegmentPointRef
  waypointId : Option ℕ
  waypointType : Option WaypointType
  cumulativePrice : N
  position : ℕ

structure SegmentDiagnostics where
  pickupCumulativePrice : N
  dropCumulativePrice : N
  segmentFare : N

/-- A part of a route. -/
structure SegmentView where
  origin : Place
  destination : Place
  basePricePerSeat : N
  bookingContext : SegmentBookingContext
  segment : SegmentDiagnostics N

variable {N}

/-- The waypoints by `orderIndex`; the sort is stable. -/
def SegmentRide.sortedWaypoints (ride : SegmentRide N) : List (SegmentRideWaypoint N) :=
  ride.waypoints.mergeSort fun a b => a.orderIndex ≤ b.orderIndex

def findPointByRef (points : List (SegmentPoint N)) (ref : SegmentPointRef) :
    Option (SegmentPoint N) :=
  points.find? fun point => point.ref == ref

/-- `normalizeFarePoint`: a meeting point at an end of the route has the price of that end. -/
def normalizeFarePoint (points : List (SegmentPoint N)) (point : SegmentPoint N) (role : FareRole) :
    SegmentPoint N :=
  if role = .pickup ∧ point.waypointType = some .pickup then
    (findPointByRef points .origin).getD point
  else if role = .dropoff ∧ point.waypointType = some .dropoff then
    (findPointByRef points .destination).getD point
  else point

variable [Zero N] [Add N] [Sub N] [Mul N] [Div N] [IntCast N] [MathRound N] [LT N] [DecidableLT N]

/-- The price after `steps` of `span` steps from one price to another, rounded to cents. -/
def fillBetween (previousPrice nextPrice : N) (span steps : ℕ) : N :=
  let step := (nextPrice - previousPrice) / ((span : ℤ) : N)
  ((MathRound.mathRound ((previousPrice + step * ((steps : ℤ) : N)) * ((100 : ℤ) : N)) : ℤ) : N) /
    ((100 : ℤ) : N)

/-- `fillMissingCumulativePrices`. -/
def fillMissingCumulativePrices (prices : List (Option N)) : List N :=
  Interpolate.fillMissing fillBetween prices

/-- The prices of the points, before the gaps are filled. -/
def SegmentRide.knownPrices (ride : SegmentRide N) (way : List (SegmentRideWaypoint N)) :
    List (Option N) :=
  some 0 :: (way.map SegmentRideWaypoint.pricePerSeat ++ [some ride.basePricePerSeat])

def SegmentRide.cumulativePrices (ride : SegmentRide N) : List N :=
  fillMissingCumulativePrices (ride.knownPrices ride.sortedWaypoints)

def originPoint (ride : SegmentRide N) : SegmentPoint N :=
  { ride.origin with
    ref := .origin
    waypointId := none
    waypointType := none
    cumulativePrice := ride.cumulativePrices.getD 0 0
    position := 0 }

/-- The point of the waypoint with index `index`. -/
def SegmentRideWaypoint.point (prices : List N) (waypoint : SegmentRideWaypoint N) (index : ℕ) :
    SegmentPoint N :=
  { waypoint.toPlace with
    ref := .waypoint waypoint.id
    waypointId := some waypoint.id
    waypointType := some waypoint.waypointType
    cumulativePrice := prices.getD (index + 1) 0
    position := index + 1 }

def destinationPoint (ride : SegmentRide N) : SegmentPoint N :=
  { ride.destination with
    ref := .destination
    waypointId := none
    waypointType := none
    cumulativePrice := ride.cumulativePrices.getD (ride.sortedWaypoints.length + 1) 0
    position := ride.sortedWaypoints.length + 1 }

def buildSegmentPoints (ride : SegmentRide N) : List (SegmentPoint N) :=
  originPoint ride ::
    (ride.sortedWaypoints.mapIdx fun index waypoint => waypoint.point ride.cumulativePrices index) ++
      [destinationPoint ride]

def resolveSegmentView (ride : SegmentRide N) (points : List (SegmentPoint N))
    (pickupRef dropRef : SegmentPointRef) : Option (SegmentView N) :=
  match findPointByRef points pickupRef, findPointByRef points dropRef with
  | some pickup, some drop =>
    if drop.position ≤ pickup.position then none
    else
      let farePickup := normalizeFarePoint points pickup .pickup
      let fareDrop := normalizeFarePoint points drop .dropoff
      let segmentFare := fareDrop.cumulativePrice - farePickup.cumulativePrice
      if segmentFare < 0 then none
      else some {
        origin := pickup.toPlace
        destination := drop.toPlace
        basePricePerSeat := segmentFare
        bookingContext := {
          rideId := ride.id
          pickupWaypointId := pickup.waypointId
          dropoffWaypointId := drop.waypointId }
        segment := {
          pickupCumulativePrice := farePickup.cumulativePrice
          dropCumulativePrice := fareDrop.cumulativePrice
          segmentFare } }
  | _, _ => none

end Model

/-! ## The order of the waypoints -/

section Way

variable {N : Type} {ride : SegmentRide N}

/-- A waypoint stands before another one by its `orderIndex`; of those with one index, the first that is
listed. -/
def SegmentRide.Before (ride : SegmentRide N) (a b : SegmentRideWaypoint N) : Prop :=
  a.orderIndex < b.orderIndex ∨ a.orderIndex = b.orderIndex ∧ [a, b].Sublist ride.waypoints

/-- The waypoints of a ride in their order. -/
structure SegmentRide.IsWay (ride : SegmentRide N) (way : List (SegmentRideWaypoint N)) : Prop where
  perm : way.Perm ride.waypoints
  order : way.Pairwise ride.Before

/-- Of two members of a list, one is listed before the other. -/
theorem pair_sublist_or {α : Type} {l : List α} {a b : α} (ha : a ∈ l) (hb : b ∈ l) (hab : a ≠ b) :
    [a, b].Sublist l ∨ [b, a].Sublist l := by
  induction l with
  | nil => cases ha
  | cons c l ih =>
    rcases List.mem_cons.mp ha with rfl | ha'
    · have hb' : b ∈ l := (List.mem_cons.mp hb).resolve_left fun h => hab h.symm
      exact .inl ((List.singleton_sublist.mpr hb').cons_cons _)
    · rcases List.mem_cons.mp hb with rfl | hb'
      · exact .inr ((List.singleton_sublist.mpr ha').cons_cons _)
      · rcases ih ha' hb' with h | h
        · exact .inl (h.cons _)
        · exact .inr (h.cons _)

/-- In a list without repetitions not both orders are listed. -/
theorem not_pair_sublist {α : Type} {l : List α} (hnodup : l.Nodup) {a b : α}
    (h : [a, b].Sublist l) : ¬ [b, a].Sublist l := by
  induction l with
  | nil => cases h
  | cons c l ih =>
    obtain ⟨hc, hrest⟩ := List.nodup_cons.mp hnodup
    intro h'
    cases h with
    | cons _ h =>
      cases h' with
      | cons _ h' => exact ih hrest h h'
      | cons_cons _ h' => exact hc (h.subset (by simp))
    | cons_cons _ h =>
      cases h' with
      | cons _ h' => exact hc (h'.subset (by simp))
      | cons_cons _ h' => exact hc (h.subset (by simp))

theorem SegmentRide.Before.asymm (hnodup : ride.waypoints.Nodup) {a b : SegmentRideWaypoint N}
    (h : ride.Before a b) : ¬ ride.Before b a := by
  rcases h with hlt | ⟨heq, hlisted⟩
  · rintro (hlt' | ⟨heq', -⟩)
    · omega
    · omega
  · rintro (hlt' | ⟨-, hlisted'⟩)
    · omega
    · exact not_pair_sublist hnodup hlisted hlisted'

/-- The stable sort puts the waypoints in their order. -/
theorem isWay_sortedWaypoints (hnodup : ride.waypoints.Nodup) : ride.IsWay ride.sortedWaypoints where
  perm := List.mergeSort_perm _ _
  order := by
    have htrans : ∀ a b c : SegmentRideWaypoint N, decide (a.orderIndex ≤ b.orderIndex) = true →
        decide (b.orderIndex ≤ c.orderIndex) = true →
        decide (a.orderIndex ≤ c.orderIndex) = true := by
      intro a b c hab hbc
      simp only [decide_eq_true_eq] at hab hbc ⊢
      exact hab.trans hbc
    have htotal : ∀ a b : SegmentRideWaypoint N,
        (decide (a.orderIndex ≤ b.orderIndex) || decide (b.orderIndex ≤ a.orderIndex)) = true := by
      intro a b
      simpa using le_total a.orderIndex b.orderIndex
    have hsorted : ride.sortedWaypoints.Nodup :=
      (List.mergeSort_perm ride.waypoints _).nodup_iff.mpr hnodup
    refine List.pairwise_iff_forall_sublist.mpr fun {a b} hab => ?_
    have hle : a.orderIndex ≤ b.orderIndex := by
      simpa using List.pairwise_iff_forall_sublist.mp
        (List.pairwise_mergeSort htrans htotal ride.waypoints) hab
    rcases hle.lt_or_eq with hlt | heq
    · exact .inl hlt
    · have hmem : ∀ c ∈ [a, b], c ∈ ride.waypoints := fun c hc => List.mem_mergeSort.mp (hab.subset hc)
      have hne : a ≠ b := by
        rintro rfl
        simpa using hsorted.sublist hab
      refine .inr ⟨heq, (pair_sublist_or (hmem a (by simp)) (hmem b (by simp)) hne).resolve_right ?_⟩
      -- the sort would have kept the other order
      intro hba
      exact not_pair_sublist hsorted hab
        (List.pair_sublist_mergeSort htrans htotal (by simpa using heq.ge) hba)

/-- **The waypoints have one order**, the one that they are sorted in. -/
theorem isWay_iff (hnodup : ride.waypoints.Nodup) {way : List (SegmentRideWaypoint N)} :
    ride.IsWay way ↔ way = ride.sortedWaypoints := by
  constructor
  · intro h
    have hsorted := isWay_sortedWaypoints hnodup
    refine List.Perm.eq_of_pairwise (fun a b _ _ hab hba => ?_) h.order hsorted.order
      (h.perm.trans hsorted.perm.symm)
    exact absurd hba (SegmentRide.Before.asymm hnodup hab)
  · rintro rfl
    exact isWay_sortedWaypoints hnodup

end Way

/-! ## The points of a ride -/

section Points

variable {N : Type} [Zero N] [Add N] [Sub N] [Mul N] [Div N] [IntCast N] [MathRound N]
  (ride : SegmentRide N)

/-- The prices of the points: zero at the origin, and the others behind it. -/
theorem cumulativePrices_eq :
    ride.cumulativePrices = 0 :: Interpolate.fillFrom fillBetween 0
      (ride.sortedWaypoints.map SegmentRideWaypoint.pricePerSeat ++ [some ride.basePricePerSeat]) :=
  Interpolate.fillMissing_eq 0 _ _

theorem length_cumulativePrices :
    ride.cumulativePrices.length = ride.sortedWaypoints.length + 2 := by
  rw [cumulativePrices_eq, List.length_cons, Interpolate.length_fillFrom]
  simp

/-- The price of a point is the one at its position. -/
theorem map_cumulativePrice :
    (buildSegmentPoints ride).map SegmentPoint.cumulativePrice = ride.cumulativePrices := by
  have hlength := length_cumulativePrices ride
  apply List.ext_getElem?
  intro index
  have hget : ∀ i, i < ride.sortedWaypoints.length + 2 →
      ride.cumulativePrices[i]? = some (ride.cumulativePrices.getD i 0) := by
    intro i hi
    rw [List.getD_eq_getElem?_getD, List.getElem?_eq_getElem (by omega), Option.getD_some]
  have hn : ride.sortedWaypoints.length =
      (ride.sortedWaypoints.mapIdx fun index waypoint =>
        waypoint.point ride.cumulativePrices index).length := by simp
  rw [List.getElem?_map, buildSegmentPoints, List.cons_append]
  cases index with
  | zero =>
    rw [List.getElem?_cons_zero, hget 0 (by omega)]
    rfl
  | succ index =>
    rw [List.getElem?_cons_succ]
    -- a waypoint, the destination, or past the end
    rcases lt_trichotomy index ride.sortedWaypoints.length with hlt | heq | hgt
    · rw [List.getElem?_append_left (by omega), List.getElem?_mapIdx,
        List.getElem?_eq_getElem hlt, hget (index + 1) (by omega)]
      rfl
    · rw [List.getElem?_append_right (by omega), heq, hget _ (by omega)]
      simp [destinationPoint]
    · rw [List.getElem?_eq_none (by simp; omega), List.getElem?_eq_none (by omega)]
      rfl

/-- A point is at its position. -/
theorem getElem?_position {point : SegmentPoint N} (h : point ∈ buildSegmentPoints ride) :
    (buildSegmentPoints ride)[point.position]? = some point := by
  rw [buildSegmentPoints, List.cons_append, List.mem_cons, List.mem_append,
    List.mem_singleton] at h
  rw [buildSegmentPoints, List.cons_append]
  rcases h with rfl | h | rfl
  · rfl
  · obtain ⟨i, hi, rfl⟩ := List.mem_mapIdx.mp h
    show (originPoint ride :: _)[i + 1]? = _
    rw [List.getElem?_cons_succ, List.getElem?_append_left (by simpa using hi)]
    simp [hi]
  · show (originPoint ride :: _)[ride.sortedWaypoints.length + 1]? = _
    rw [List.getElem?_cons_succ, List.getElem?_append_right (by simp)]
    simp

theorem getElem?_cumulativePrices {point : SegmentPoint N} (h : point ∈ buildSegmentPoints ride) :
    ride.cumulativePrices[point.position]? = some point.cumulativePrice := by
  rw [← map_cumulativePrice, List.getElem?_map, getElem?_position ride h, Option.map_some]

theorem findPointByRef_origin :
    findPointByRef (buildSegmentPoints ride) .origin = some (originPoint ride) := rfl

theorem originPoint_price : (originPoint ride).cumulativePrice = 0 := by
  rw [originPoint, cumulativePrices_eq]
  rfl

theorem destinationPoint_price :
    (destinationPoint ride).cumulativePrice = ride.basePricePerSeat := by
  have hkept : (Interpolate.fillFrom fillBetween 0
      (ride.sortedWaypoints.map SegmentRideWaypoint.pricePerSeat ++
        [some ride.basePricePerSeat]))[ride.sortedWaypoints.length]? =
      some ride.basePricePerSeat := Interpolate.fillFrom_kept (by simp)
  rw [destinationPoint, cumulativePrices_eq, List.getD_eq_getElem?_getD, List.getElem?_cons_succ,
    hkept, Option.getD_some]

theorem findPointByRef_destination :
    findPointByRef (buildSegmentPoints ride) .destination = some (destinationPoint ride) := by
  rw [findPointByRef, buildSegmentPoints, List.find?_append]
  have hnone : (originPoint ride :: ride.sortedWaypoints.mapIdx fun index waypoint =>
      waypoint.point ride.cumulativePrices index).find?
        (fun point => point.ref == SegmentPointRef.destination) = none := by
    refine List.find?_eq_none.mpr fun point hpoint => ?_
    rcases List.mem_cons.mp hpoint with rfl | hpoint
    · simp [originPoint]
    · obtain ⟨i, hi, rfl⟩ := List.mem_mapIdx.mp hpoint
      simp [SegmentRideWaypoint.point]
  rw [hnone, Option.none_or]
  rfl

/-- The references of the points are as different as the ids of the waypoints. -/
theorem nodup_refs (hids : (ride.waypoints.map SegmentRideWaypoint.id).Nodup) :
    ((buildSegmentPoints ride).map SegmentPoint.ref).Nodup := by
  have hrefs : (buildSegmentPoints ride).map SegmentPoint.ref =
      .origin :: (ride.sortedWaypoints.map fun w => .waypoint w.id) ++ [.destination] := by
    have hwaypoints : (ride.sortedWaypoints.mapIdx fun index waypoint =>
        waypoint.point ride.cumulativePrices index).map SegmentPoint.ref =
        ride.sortedWaypoints.map fun w => .waypoint w.id := by
      apply List.ext_getElem?
      intro i
      rw [List.getElem?_map, List.getElem?_mapIdx, List.getElem?_map, Option.map_map]
      rfl
    rw [buildSegmentPoints, List.map_append, List.map_cons, hwaypoints]
    rfl
  have hsorted : (ride.sortedWaypoints.map SegmentRideWaypoint.id).Nodup :=
    ((List.mergeSort_perm _ _).map _).nodup_iff.mpr hids
  have hwaypoints : (ride.sortedWaypoints.map fun w => SegmentPointRef.waypoint w.id).Nodup := by
    have := hsorted.map (f := SegmentPointRef.waypoint) fun a b h => by cases h; rfl
    rwa [List.map_map] at this
  -- origin and destination are no waypoints
  rw [hrefs, List.cons_append, List.nodup_cons]
  constructor
  · simp
  · refine List.nodup_append.mpr ⟨hwaypoints, List.nodup_singleton _, ?_⟩
    intro a ha b hb hab
    obtain ⟨w, -, rfl⟩ := List.mem_map.mp ha
    rw [List.mem_singleton.mp hb] at hab
    cases hab

/-- So that a point is found by its reference. -/
theorem findPointByRef_ref (hids : (ride.waypoints.map SegmentRideWaypoint.id).Nodup)
    {point : SegmentPoint N} (h : point ∈ buildSegmentPoints ride) :
    findPointByRef (buildSegmentPoints ride) point.ref = some point := by
  have hnodup := nodup_refs ride hids
  unfold findPointByRef
  generalize buildSegmentPoints ride = points at h hnodup
  induction points with
  | nil => cases h
  | cons first points ih =>
    rw [List.map_cons, List.nodup_cons] at hnodup
    by_cases hfirst : first.ref = point.ref
    · rcases List.mem_cons.mp h with rfl | h
      · simp
      · exact absurd (List.mem_map.mpr ⟨point, h, hfirst.symm⟩) hnodup.1
    · rw [List.find?_cons_of_neg (by simpa using hfirst)]
      rcases List.mem_cons.mp h with rfl | h
      · exact absurd rfl hfirst
      · exact ih h hnodup.2

/-! ### Prices along the way -/

section Priced

variable {ride} {way : List (SegmentRideWaypoint N)}

/-- What the way to a waypoint costs, by the prices that are written: its own, or what as many steps
lead to as it is away from the nearest priced point before it, of those to the nearest one behind. -/
def SegmentRide.priceOn (ride : SegmentRide N) (way : List (SegmentRideWaypoint N)) (index : ℕ) : N :=
  let known := ride.knownPrices way
  match Interpolate.nextKnown (known.take (index + 2)).reverse,
    Interpolate.nextKnown (known.drop (index + 1)) with
  | some (back, lo), some (ahead, hi) =>
    Interpolate.interpolated fillBetween hi (back + ahead) back lo
  | _, _ => 0

/-- **The price of a waypoint** is the one that is written, or filled in between those that are. -/
theorem getElem?_cumulativePrices_waypoint {index : ℕ} (hindex : index < ride.sortedWaypoints.length) :
    ride.cumulativePrices[index + 1]? = some (ride.priceOn ride.sortedWaypoints index) := by
  set values := ride.sortedWaypoints.map SegmentRideWaypoint.pricePerSeat ++
    [some ride.basePricePerSeat] with hvalues
  have hlength : index < values.length := by
    simp [hvalues]
    omega
  -- the destination is priced, so that there is a price behind every point
  obtain ⟨⟨ahead, hi⟩, hahead⟩ : ∃ next, Interpolate.nextKnown (values.drop index) = some next := by
    rw [hvalues, List.drop_append_of_le_length (by simpa using hindex.le)]
    exact Interpolate.exists_nextKnown _ _
  obtain ⟨back, lo, hback, hprice⟩ :=
    @Interpolate.getElem?_fillFrom N fillBetween 0 values index ahead hi hlength hahead
  have hknown : ride.knownPrices ride.sortedWaypoints = some 0 :: values := rfl
  have hbehind : Interpolate.nextKnown ((some 0 :: values).drop (index + 1)) = some (ahead, hi) := hahead
  have hbefore : Interpolate.nextKnown ((some (0 : N) :: values).take (index + 2)).reverse =
      some (back, lo) := by
    rw [List.take_succ_cons, List.reverse_cons]
    exact hback
  rw [cumulativePrices_eq, List.getElem?_cons_succ, hprice, SegmentRide.priceOn, hknown]
  simp only [hbehind, hbefore]

/-- A written price is the one that counts. -/
theorem priceOn_of_written {index : ℕ} {waypoint : SegmentRideWaypoint N} {price : N}
    (hwaypoint : way[index]? = some waypoint) (hprice : waypoint.pricePerSeat = some price) :
    ride.priceOn way index = price := by
  obtain ⟨hindex, hget⟩ := List.getElem?_eq_some_iff.mp hwaypoint
  set known := ride.knownPrices way with hknown
  have hlength : index + 1 < known.length := by
    simp [hknown, SegmentRide.knownPrices]
    omega
  have hvalue : known[index + 1] = some price := by
    simp only [hknown, SegmentRide.knownPrices, List.getElem_cons_succ]
    rw [List.getElem_append_left (by simpa using hindex), List.getElem_map, hget, hprice]
  have hdrop : known.drop (index + 1) = some price :: known.drop (index + 2) := by
    rw [List.drop_eq_getElem_cons hlength, hvalue]
  have htake : (known.take (index + 2)).reverse = some price :: (known.take (index + 1)).reverse := by
    rw [List.take_succ_eq_append_getElem hlength, hvalue, List.reverse_append, List.reverse_singleton,
      List.singleton_append]
  rw [SegmentRide.priceOn, ← hknown, hdrop, htake]
  rfl

/-- **The points along the way**: one for every waypoint, in the order of their `orderIndex`, with its
price. -/
theorem getElem?_buildSegmentPoints (hnodup : ride.waypoints.Nodup) (hway : ride.IsWay way) {index : ℕ}
    {waypoint : SegmentRideWaypoint N} (h : way[index]? = some waypoint) :
    ∃ point, (buildSegmentPoints ride)[index + 1]? = some point ∧ point.ref = .waypoint waypoint.id ∧
      point.waypointId = some waypoint.id ∧ point.waypointType = some waypoint.waypointType ∧
      point.position = index + 1 ∧ point.cumulativePrice = ride.priceOn way index := by
  obtain rfl := (isWay_iff hnodup).mp hway
  obtain ⟨hindex, rfl⟩ := List.getElem?_eq_some_iff.mp h
  refine ⟨ride.sortedWaypoints[index].point ride.cumulativePrices index, ?_, rfl, rfl, rfl, rfl, ?_⟩
  · rw [buildSegmentPoints, List.cons_append, List.getElem?_cons_succ,
      List.getElem?_append_left (by simpa using hindex), List.getElem?_mapIdx, h, Option.map_some]
  · show ride.cumulativePrices.getD (index + 1) 0 = _
    rw [List.getD_eq_getElem?_getD, getElem?_cumulativePrices_waypoint hindex, Option.getD_some]

end Priced

end Points

/-! ## Views between points -/

section Views

variable {N : Type} [Zero N] [Sub N] [LT N] [DecidableLT N] {ride : SegmentRide N}

/-- The view between two points, the first of which is before the second, and no dearer. -/
theorem resolveSegmentView_of_found {points : List (SegmentPoint N)} {pickupRef dropRef : SegmentPointRef}
    {pickup drop : SegmentPoint N} (hpickup : findPointByRef points pickupRef = some pickup)
    (hdrop : findPointByRef points dropRef = some drop) (hposition : pickup.position < drop.position)
    (hfare : ¬ (normalizeFarePoint points drop .dropoff).cumulativePrice -
      (normalizeFarePoint points pickup .pickup).cumulativePrice < 0) :
    ∃ view, resolveSegmentView ride points pickupRef dropRef = some view ∧
      view.basePricePerSeat = (normalizeFarePoint points drop .dropoff).cumulativePrice -
        (normalizeFarePoint points pickup .pickup).cumulativePrice := by
  simp only [resolveSegmentView, hpickup, hdrop, if_neg (not_le.mpr hposition), if_neg hfare]
  exact ⟨_, rfl, rfl⟩

/-- What a view says of the points it is between. -/
theorem resolveSegmentView_eq_some {points : List (SegmentPoint N)} {pickupRef dropRef : SegmentPointRef}
    {view : SegmentView N} (h : resolveSegmentView ride points pickupRef dropRef = some view) :
    ∃ pickup drop, findPointByRef points pickupRef = some pickup ∧
      findPointByRef points dropRef = some drop ∧ pickup.position < drop.position ∧
      ¬ view.basePricePerSeat < 0 ∧
      view.basePricePerSeat = (normalizeFarePoint points drop .dropoff).cumulativePrice -
        (normalizeFarePoint points pickup .pickup).cumulativePrice ∧
      view.bookingContext = {
        rideId := ride.id
        pickupWaypointId := pickup.waypointId
        dropoffWaypointId := drop.waypointId } := by
  unfold resolveSegmentView at h
  cases hpickup : findPointByRef points pickupRef with
  | none => simp [hpickup] at h
  | some pickup =>
    cases hdrop : findPointByRef points dropRef with
    | none => simp [hpickup, hdrop] at h
    | some drop =>
      simp only [hpickup, hdrop] at h
      split_ifs at h with hposition hfare
      obtain rfl := Option.some.inj h
      exact ⟨pickup, drop, rfl, rfl, not_le.mp hposition, hfare, rfl, rfl⟩

omit [Zero N] [Sub N] [LT N] [DecidableLT N] in
/-- A stop has its own price in either role. -/
theorem normalizeFarePoint_stopover (points : List (SegmentPoint N)) {point : SegmentPoint N}
    (h : point.waypointType = some .stopover) (role : FareRole) :
    normalizeFarePoint points point role = point := by
  cases role <;> simp [normalizeFarePoint, h]

end Views

/-! ## In whole cents -/

section Cents

/-- A price in cents, as an amount. -/
def amountOfCents (price : ℤ) : ℚ := price / 100

/-- A waypoint whose price is counted in cents. -/
def SegmentRideWaypoint.ofCents (waypoint : Deliivo.SegmentRideWaypoint) : SegmentRideWaypoint ℚ :=
  { waypoint.toPlace with
    id := waypoint.id
    waypointType := waypoint.waypointType
    orderIndex := waypoint.orderIndex
    pricePerSeat := waypoint.pricePerSeat.map amountOfCents }

/-- A ride whose prices are counted in cents. -/
def SegmentRide.ofCents (ride : Deliivo.SegmentRide) : SegmentRide ℚ where
  id := ride.id
  origin := ride.origin
  destination := ride.destination
  basePricePerSeat := amountOfCents ride.basePricePerSeat
  currency := ride.currency
  waypoints := ride.waypoints.map .ofCents

theorem nextKnown_ofCents (prices : List (Option ℤ)) :
    Interpolate.nextKnown (prices.map (Option.map amountOfCents)) =
      (nextPrice prices).map fun next => (next.1, amountOfCents next.2) := by
  induction prices with
  | nil => rfl
  | cons price prices ih =>
    cases price with
    | some price => rfl
    | none =>
      rw [List.map_cons, Option.map_none, Interpolate.nextKnown, ih, nextPrice, Option.map_map,
        Option.map_map]
      rfl

/-- In exact arithmetic a filled price is rounded once. -/
theorem fillBetween_eq (previous next : ℚ) (span steps : ℕ) :
    fillBetween previous next span steps =
      Rat.toHundredth (previous + (next - previous) / span * steps) := rfl

/-- One rounding in cents. -/
theorem fillBetween_ofCents (previous next : ℤ) (gap : ℕ) :
    fillBetween (amountOfCents previous) (amountOfCents next) (gap + 2) 1 =
      amountOfCents ((previous * (gap + 2) + (next - previous)).roundDiv (gap + 2)) := by
  have hspan : (0 : ℤ) < gap + 2 := by omega
  have hspan' : ((gap : ℚ) + 2) ≠ 0 := by
    have : (0 : ℚ) ≤ gap := gap.cast_nonneg
    linarith
  have hquotient : (amountOfCents previous +
      (amountOfCents next - amountOfCents previous) / ((gap + 2 : ℕ) : ℚ) * ((1 : ℕ) : ℚ)) * 100 =
      ((previous * (gap + 2) + (next - previous) : ℤ) : ℚ) / ((gap + 2 : ℤ) : ℚ) := by
    unfold amountOfCents
    push_cast
    field_simp
  rw [fillBetween_eq, Rat.toHundredth, Rat.hundredths, hquotient, Rat.roundHalfUp_div hspan,
    amountOfCents]

theorem fillFrom_ofCents (previous : ℤ) (prices : List (Option ℤ)) :
    Interpolate.fillFrom fillBetween (amountOfCents previous)
        (prices.map (Option.map amountOfCents)) =
      (Deliivo.fillFrom previous prices).map amountOfCents := by
  induction prices generalizing previous with
  | nil => rfl
  | cons price prices ih =>
    cases price with
    | some price =>
      rw [List.map_cons, Option.map_some, Interpolate.fillFrom, Deliivo.fillFrom, List.map_cons, ih]
    | none =>
      rw [List.map_cons, Option.map_none, Interpolate.fillFrom, Deliivo.fillFrom, List.map_cons,
        nextKnown_ofCents]
      cases nextPrice prices with
      | none => rw [Option.map_none, ih]
      | some next =>
        obtain ⟨gap, next⟩ := next
        dsimp only [Option.map_some]
        rw [fillBetween_ofCents, ih]

theorem sortedWaypoints_ofCents (ride : Deliivo.SegmentRide) :
    (SegmentRide.ofCents ride).sortedWaypoints = ride.sortedWaypoints.map .ofCents :=
  (List.map_mergeSort (f := SegmentRideWaypoint.ofCents) fun _ _ _ _ => rfl).symm

theorem cumulativePrices_ofCents (ride : Deliivo.SegmentRide) :
    (SegmentRide.ofCents ride).cumulativePrices =
      0 :: (Deliivo.cumulativePrices ride).map amountOfCents := by
  have hprices : (SegmentRide.ofCents ride).sortedWaypoints.map SegmentRideWaypoint.pricePerSeat ++
      [some (SegmentRide.ofCents ride).basePricePerSeat] =
      ((ride.sortedWaypoints.map Deliivo.SegmentRideWaypoint.pricePerSeat) ++
        [some ride.basePricePerSeat]).map (Option.map amountOfCents) := by
    rw [sortedWaypoints_ofCents, List.map_append, List.map_map, List.map_map]
    rfl
  have hzero : (0 : ℚ) = amountOfCents 0 := by
    rw [amountOfCents, Int.cast_zero, zero_div]
  rw [cumulativePrices_eq, hprices]
  conv_lhs => rw [hzero]
  rw [fillFrom_ofCents, ← hzero]
  rfl

/-- **In whole cents** the points of a ride, with their prices, are those that it is searched and booked
with. -/
theorem prices_ofCents (ride : Deliivo.SegmentRide) :
    (buildSegmentPoints (.ofCents ride)).map (fun p => (p.ref, p.waypointType, p.position,
        p.cumulativePrice)) =
      (Deliivo.buildSegmentPoints ride).map fun p => (p.ref, p.waypointType, p.position,
        amountOfCents p.cumulativePrice) := by
  -- the two lists are compared place by place
  have hget : ∀ index, (SegmentRide.ofCents ride).cumulativePrices.getD (index + 1) 0 =
      amountOfCents ((Deliivo.cumulativePrices ride).getD index 0) := by
    intro index
    rw [cumulativePrices_ofCents, List.getD_eq_getElem?_getD, List.getD_eq_getElem?_getD,
      List.getElem?_cons_succ, List.getElem?_map]
    cases (Deliivo.cumulativePrices ride)[index]? with
    | none => simp [amountOfCents]
    | some price => rfl
  have hzero : (SegmentRide.ofCents ride).cumulativePrices.getD 0 0 = amountOfCents 0 := by
    rw [cumulativePrices_ofCents]
    simp [amountOfCents]
  have hlength : (SegmentRide.ofCents ride).sortedWaypoints.length =
      ride.sortedWaypoints.length := by
    rw [sortedWaypoints_ofCents, List.length_map]
  rw [buildSegmentPoints, Deliivo.buildSegmentPoints, List.map_append, List.map_append,
    List.map_cons, List.map_cons]
  congr 1
  · congr 1
    · exact Prod.ext rfl (Prod.ext rfl (Prod.ext rfl hzero))
    · apply List.ext_getElem?
      intro index
      rw [List.getElem?_map, List.getElem?_mapIdx, List.getElem?_map, List.getElem?_mapIdx,
        sortedWaypoints_ofCents, List.getElem?_map]
      cases ride.sortedWaypoints[index]? with
      | none => rfl
      | some waypoint =>
        simp only [Option.map_some, Option.some.injEq, Prod.mk.injEq]
        exact ⟨rfl, rfl, rfl, hget index⟩
  · simp only [List.map_cons, List.map_nil, List.cons.injEq, and_true, Prod.mk.injEq]
    refine ⟨rfl, rfl, ?_, ?_⟩
    · exact congrArg (· + 1) hlength
    · rw [destinationPoint, hlength]
      exact hget _

end Cents

/-! ## Prices that are filled in -/

section Filled

/-- The prices that are known are whole cents, do not decrease along the way and lie between zero and
the fare. -/
structure SegmentRide.WellPriced (ride : SegmentRide ℚ)
    (way : List (SegmentRideWaypoint ℚ)) : Prop where
  base : ride.basePricePerSeat.IsHundredths
  base_nonneg : 0 ≤ ride.basePricePerSeat
  cents : ∀ waypoint ∈ way, ∀ price, waypoint.pricePerSeat = some price → price.IsHundredths
  bounds : ∀ waypoint ∈ way, ∀ price, waypoint.pricePerSeat = some price →
    0 ≤ price ∧ price ≤ ride.basePricePerSeat
  mono : (way.filterMap SegmentRideWaypoint.pricePerSeat).Pairwise (· ≤ ·)

/-- The prices of the points are filled in soundly along the way: every waypoint has its point, in its
place, and a known price stays; no price decreases; what is filled in lies between all the known prices
before it and all those behind; and the fares between three stops add up. -/
structure SegmentRide.FilledAlong (ride : SegmentRide ℚ)
    (way : List (SegmentRideWaypoint ℚ)) : Prop where
  length : (buildSegmentPoints ride).length = way.length + 2
  point : ∀ index waypoint, way[index]? = some waypoint →
    ∃ point, (buildSegmentPoints ride)[index + 1]? = some point ∧
      point.waypointId = some waypoint.id ∧ point.position = index + 1 ∧
      ∀ price, waypoint.pricePerSeat = some price → point.cumulativePrice = price
  ends : ((buildSegmentPoints ride).map SegmentPoint.cumulativePrice)[0]? = some 0 ∧
    ((buildSegmentPoints ride).map SegmentPoint.cumulativePrice)[way.length + 1]? =
      some ride.basePricePerSeat
  mono : ((buildSegmentPoints ride).map SegmentPoint.cumulativePrice).Pairwise (· ≤ ·)
  between : ∀ (i j k : ℕ) (lo hi filled : ℚ), i < j → j < k →
    (ride.knownPrices way)[i]? = some (some lo) → (ride.knownPrices way)[j]? = some none →
    (ride.knownPrices way)[k]? = some (some hi) →
    ((buildSegmentPoints ride).map SegmentPoint.cumulativePrice)[j]? = some filled →
    lo ≤ filled ∧ filled ≤ hi
  stops : ∀ (i j k : ℕ) (a b c : SegmentRideWaypoint ℚ), i < j → j < k →
    way[i]? = some a → way[j]? = some b → way[k]? = some c → a.waypointType = .stopover →
    b.waypointType = .stopover → c.waypointType = .stopover →
    ∃ ab bc ac,
      resolveSegmentView ride (buildSegmentPoints ride) (.waypoint a.id) (.waypoint b.id) = some ab ∧
      resolveSegmentView ride (buildSegmentPoints ride) (.waypoint b.id) (.waypoint c.id) = some bc ∧
      resolveSegmentView ride (buildSegmentPoints ride) (.waypoint a.id) (.waypoint c.id) = some ac ∧
      0 ≤ ab.basePricePerSeat ∧ 0 ≤ bc.basePricePerSeat ∧ 0 ≤ ac.basePricePerSeat ∧
      ab.basePricePerSeat + bc.basePricePerSeat = ac.basePricePerSeat

variable {ride : SegmentRide ℚ} {way : List (SegmentRideWaypoint ℚ)}

/-- In exact arithmetic what is filled in lies between its ends, where these are whole cents. -/
theorem fillBetween_between (lo hi : ℚ) (gap : ℕ) (hlo : lo.IsHundredths) (hhi : hi.IsHundredths)
    (h : lo ≤ hi) :
    (fillBetween lo hi (gap + 2) 1).IsHundredths ∧ lo ≤ fillBetween lo hi (gap + 2) 1 ∧
      fillBetween lo hi (gap + 2) 1 ≤ hi := by
  have hspan : (1 : ℚ) ≤ ((gap + 2 : ℕ) : ℚ) := by
    push_cast
    have : (0 : ℚ) ≤ gap := gap.cast_nonneg
    linarith
  have hdiff : 0 ≤ hi - lo := sub_nonneg.mpr h
  have hpart : (hi - lo) / ((gap + 2 : ℕ) : ℚ) ≤ hi - lo := div_le_self hdiff hspan
  have hnonneg : 0 ≤ (hi - lo) / ((gap + 2 : ℕ) : ℚ) := div_nonneg hdiff (by linarith)
  rw [fillBetween_eq, Nat.cast_one, mul_one]
  exact ⟨Rat.isHundredths_toHundredth _,
    Rat.toHundredth_between lo hi _ hlo hhi (by linarith) (by linarith)⟩

/-- The prices of such a ride do not decrease along its route. -/
theorem cumulativePrices_pairwise (h : ride.WellPriced ride.sortedWaypoints) :
    ride.cumulativePrices.Pairwise (· ≤ ·) := by
  have hknown : (ride.sortedWaypoints.map SegmentRideWaypoint.pricePerSeat ++
      [some ride.basePricePerSeat]).filterMap id =
      ride.sortedWaypoints.filterMap SegmentRideWaypoint.pricePerSeat ++
        [ride.basePricePerSeat] := by
    rw [List.filterMap_append, List.filterMap_map]
    rfl
  rw [cumulativePrices_eq]
  -- filling in keeps the order of what is known, the fare of the ride behind it included
  refine Interpolate.fillFrom_pairwise (G := Rat.IsHundredths) fillBetween_between
    Rat.isHundredths_zero ?_ ?_
  · rw [hknown]
    intro price hprice
    rcases List.mem_append.mp hprice with hprice | hprice
    · obtain ⟨waypoint, hwaypoint, heq⟩ := List.mem_filterMap.mp hprice
      exact h.cents waypoint hwaypoint price heq
    · rw [List.mem_singleton.mp hprice]
      exact h.base
  · rw [hknown, List.pairwise_cons]
    constructor
    · intro price hprice
      rcases List.mem_append.mp hprice with hprice | hprice
      · obtain ⟨waypoint, hwaypoint, heq⟩ := List.mem_filterMap.mp hprice
        exact (h.bounds waypoint hwaypoint price heq).1
      · rw [List.mem_singleton.mp hprice]
        exact h.base_nonneg
    · refine List.pairwise_append.mpr ⟨h.mono, List.pairwise_singleton _ _, ?_⟩
      intro price hprice base hbase
      obtain ⟨waypoint, hwaypoint, heq⟩ := List.mem_filterMap.mp hprice
      rw [List.mem_singleton.mp hbase]
      exact (h.bounds waypoint hwaypoint price heq).2

/-- Known prices stay. -/
theorem cumulativePrices_kept {index : ℕ} {price : ℚ}
    (h : (ride.knownPrices ride.sortedWaypoints)[index]? = some (some price)) :
    ride.cumulativePrices[index]? = some price := by
  rw [cumulativePrices_eq]
  cases index with
  | zero => exact Option.some.inj h
  | succ index => exact Interpolate.fillFrom_kept h

/-- What does not decrease does not between two positions. -/
theorem le_of_getElem? {prices : List ℚ} (h : prices.Pairwise (· ≤ ·)) {i j : ℕ} {x y : ℚ}
    (hij : i ≤ j) (hx : prices[i]? = some x) (hy : prices[j]? = some y) : x ≤ y := by
  obtain ⟨hi, rfl⟩ := List.getElem?_eq_some_iff.mp hx
  obtain ⟨hj, rfl⟩ := List.getElem?_eq_some_iff.mp hy
  rcases hij.eq_or_lt with rfl | hlt
  · exact le_rfl
  · exact List.pairwise_iff_getElem.mp h i j hi hj hlt

/-- The fare between two stops is the difference of their prices. -/
theorem resolveSegmentView_stopovers (hway : ride.IsWay way) (h : ride.WellPriced way)
    (hids : (ride.waypoints.map SegmentRideWaypoint.id).Nodup) {i j : ℕ}
    {a b : SegmentRideWaypoint ℚ} (hij : i < j) (ha : way[i]? = some a) (hb : way[j]? = some b)
    (hstopA : a.waypointType = .stopover) (hstopB : b.waypointType = .stopover) :
    ∃ view, resolveSegmentView ride (buildSegmentPoints ride) (.waypoint a.id)
        (.waypoint b.id) = some view ∧ 0 ≤ view.basePricePerSeat ∧
      view.basePricePerSeat = ride.priceOn way j - ride.priceOn way i := by
  have hnodup := hids.of_map
  obtain rfl := (isWay_iff hnodup).mp hway
  obtain ⟨p, hp, hrefP, -, htypeP, hposP, hpriceP⟩ := getElem?_buildSegmentPoints hnodup hway ha
  obtain ⟨q, hq, hrefQ, -, htypeQ, hposQ, hpriceQ⟩ := getElem?_buildSegmentPoints hnodup hway hb
  have hmemP := List.mem_of_getElem? hp
  have hmemQ := List.mem_of_getElem? hq
  have hfoundP := findPointByRef_ref ride hids hmemP
  have hfoundQ := findPointByRef_ref ride hids hmemQ
  rw [hrefP] at hfoundP
  rw [hrefQ] at hfoundQ
  have hstopP : p.waypointType = some .stopover := by rw [htypeP, hstopA]
  have hstopQ : q.waypointType = some .stopover := by rw [htypeQ, hstopB]
  -- the points stand in the order of the way, and so do their prices
  have hle : p.cumulativePrice ≤ q.cumulativePrice := by
    have hpos : p.position ≤ q.position := by omega
    exact le_of_getElem? (cumulativePrices_pairwise h) hpos (getElem?_cumulativePrices ride hmemP)
      (getElem?_cumulativePrices ride hmemQ)
  have hfare : ¬ q.cumulativePrice - p.cumulativePrice < 0 := not_lt.mpr (sub_nonneg.mpr hle)
  obtain ⟨view, hview, hdiff⟩ := @resolveSegmentView_of_found ℚ _ _ _ _ ride _ _ _ _ _ hfoundP hfoundQ
    (by omega) (by
      rw [normalizeFarePoint_stopover _ hstopP, normalizeFarePoint_stopover _ hstopQ]
      exact hfare)
  rw [normalizeFarePoint_stopover _ hstopP, normalizeFarePoint_stopover _ hstopQ] at hdiff
  refine ⟨view, hview, ?_, ?_⟩
  · rw [hdiff]
    exact sub_nonneg.mpr hle
  · rw [hdiff, hpriceP, hpriceQ]

end Filled

end Fares

section Filled

open Fares

/-- **Missing prices are filled soundly**: the known ones stay, none decreases along the route, what is
filled in lies between the known ones around it, and the fares between three stops add up. -/
theorem missing_prices_filled (ride : Fares.SegmentRide ℚ) (way : List (Fares.SegmentRideWaypoint ℚ))
    (hway : ride.IsWay way) (h : ride.WellPriced way)
    (hids : (ride.waypoints.map Fares.SegmentRideWaypoint.id).Nodup) : ride.FilledAlong way := by
  have hnodup := hids.of_map
  obtain rfl := (isWay_iff hnodup).mp hway
  have hprices := map_cumulativePrice ride
  have hmono := cumulativePrices_pairwise h
  constructor
  case length =>
    rw [← length_cumulativePrices, ← hprices, List.length_map]
  case point =>
    intro index waypoint hwaypoint
    obtain ⟨point, hpoint, -, hid, -, hposition, hprice⟩ :=
      getElem?_buildSegmentPoints hnodup hway hwaypoint
    refine ⟨point, hpoint, hid, hposition, fun price hwritten => ?_⟩
    rw [hprice, priceOn_of_written hwaypoint hwritten]
  case ends =>
    rw [hprices]
    refine ⟨cumulativePrices_kept rfl, cumulativePrices_kept ?_⟩
    simp [Fares.SegmentRide.knownPrices]
  case mono => rwa [hprices]
  case between =>
    -- what is known stays, so the order of the prices bounds what is filled in
    rintro i j k lo hi filled hij hjk hlo - hhi hfilled
    rw [hprices] at hfilled
    constructor
    · exact le_of_getElem? hmono hij.le (cumulativePrices_kept hlo) hfilled
    · exact le_of_getElem? hmono hjk.le hfilled (cumulativePrices_kept hhi)
  case stops =>
    intro i j k a b c hij hjk ha hb hc hstopA hstopB hstopC
    obtain ⟨ab, hab, habNonneg, habFare⟩ :=
      resolveSegmentView_stopovers hway h hids hij ha hb hstopA hstopB
    obtain ⟨bc, hbc, hbcNonneg, hbcFare⟩ :=
      resolveSegmentView_stopovers hway h hids hjk hb hc hstopB hstopC
    obtain ⟨ac, hac, hacNonneg, hacFare⟩ :=
      resolveSegmentView_stopovers hway h hids (hij.trans hjk) ha hc hstopA hstopC
    refine ⟨ab, bc, ac, hab, hbc, hac, habNonneg, hbcNonneg, hacNonneg, ?_⟩
    -- a stop has one price in either role, so the middle one cancels
    rw [habFare, hbcFare, hacFare]
    ring

/-- A stop without a price between the origin and a stop at 24.00, on a ride of 30.00; the stop behind is
listed first. -/
def oneStopUnpriced : Fares.SegmentRide ℚ where
  id := 1
  origin := { lat := 1, lng := 1, placeId := "place-a", address := "A" }
  destination := { lat := 4, lng := 4, placeId := "place-d", address := "D" }
  basePricePerSeat := 30
  waypoints := [
    { lat := 3, lng := 3, placeId := "place-c", address := "C"
      id := 12, waypointType := .stopover, orderIndex := 51, pricePerSeat := some 24 },
    { lat := 2, lng := 2, placeId := "place-b", address := "B"
      id := 11, waypointType := .stopover, orderIndex := 50 }]

theorem oneStopUnpriced_way : oneStopUnpriced.IsWay oneStopUnpriced.waypoints.reverse where
  perm := List.reverse_perm _
  order := by
    refine List.pairwise_pair.mpr (.inl ?_)
    decide

theorem oneStopUnpriced_wellPriced : oneStopUnpriced.WellPriced oneStopUnpriced.waypoints.reverse where
  base := ⟨3000, by norm_num [oneStopUnpriced]⟩
  base_nonneg := by norm_num [oneStopUnpriced]
  cents := by
    intro waypoint hwaypoint price hprice
    rcases List.mem_pair.mp (List.mem_reverse.mp hwaypoint) with rfl | rfl
    · obtain rfl := Option.some.inj hprice
      exact ⟨2400, by norm_num⟩
    · cases hprice
  bounds := by
    intro waypoint hwaypoint price hprice
    rcases List.mem_pair.mp (List.mem_reverse.mp hwaypoint) with rfl | rfl
    · obtain rfl := Option.some.inj hprice
      norm_num [oneStopUnpriced]
    · cases hprice
  mono := List.pairwise_singleton _ _

/-- Its prices are filled in along the way. -/
theorem oneStopUnpriced_filled : oneStopUnpriced.FilledAlong oneStopUnpriced.waypoints.reverse :=
  missing_prices_filled oneStopUnpriced _ oneStopUnpriced_way oneStopUnpriced_wellPriced (by decide)

end Filled

end Deliivo
