import Deliivo.Ride.Overdue
import Deliivo.Booking.Creation

/-!
# When a ride departs

A ride row has a date and a text `HH:MM`. The search and the driver's list read them in the time
zone of the rides, booking and the scheduler read them in UTC, each with a function of its own. What
`Intl` knows of the time zone is a parameter, the offset in seconds at every instant.

**The components agree on the departure exactly when the time zone is UTC where it is looked up**
(`one_departure_iff`).

## Main definitions

* `combineInSearch`, `combineDepartureDateTimeInRideTimezone`, `combineDepartureDateTimeUtc`: date
  and time as an instant
* `isFutureRideDeparture`, `bookingWindowClosed`, `listMarking`, `promotes`, `closes`: what is
  decided from it
* `OneDeparture`: the components agree, and so do their decisions
* `InUtc`: the condition on the time zone

## Main results

* `timeNumbers_eq`: a valid text is read as its hours and minutes
* `one_departure_iff`
-/

namespace Deliivo

/-! ## Dates and times -/

/-- The offset of local time from UTC, in seconds, at every instant. -/
abbrev Zone := ℤ → ℤ

/-- What `formatToParts` says of an instant. A date, year, month and day together, is the number of
its day. -/
structure TimeParts where
  date : ℤ
  hour : ℤ
  minute : ℤ
  second : ℤ

/-- `Date.UTC`. -/
def dateUTC (date hours minutes seconds : ℤ) : ℤ :=
  date * dayMs + hours * (60 * 60 * 1000) + minutes * (60 * 1000) + seconds * 1000

def getRideTimeParts (zone : Zone) (instant : ℤ) : TimeParts :=
  let wall := instant + zone instant * 1000
  { date := wall / dayMs
    hour := wall % dayMs / (60 * 60 * 1000)
    minute := wall % (60 * 60 * 1000) / (60 * 1000)
    second := wall % (60 * 1000) / 1000 }

def getRideTimeOffsetMs (zone : Zone) (instant : ℤ) : ℤ :=
  let zoned := getRideTimeParts zone instant
  dateUTC zoned.date zoned.hour zoned.minute zoned.second - instant

/-- `Number` of what stands between colons: of digits, none at all for zero; anything else that
could stand there is not a number. -/
def digitsNumber (text : List Char) : Option ℕ :=
  if text.all Char.isDigit then
    some (text.foldl (fun n c => n * 10 + (c.toNat - 48)) 0)
  else none

/-- The texts between the colons of a time. -/
def splitTime (departureTime : String) : List (List Char) := departureTime.toList.splitOn ':'

/-- The numbers that the first two parts of a time are, if they are there and are numbers. -/
def timeNumbers (departureTime : String) : Option ℕ × Option ℕ :=
  let parts := splitTime departureTime
  (parts[0]?.bind digitsNumber, parts[1]?.bind digitsNumber)

/-- The check that three of the four copies make. -/
def checkedTime (departureTime : String) : Except Err (ℕ × ℕ) :=
  match timeNumbers departureTime with
  | (some hours, some minutes) =>
    if 23 < hours ∨ 59 < minutes then .error (.text "INVALID_RIDE_DEPARTURE_TIME")
    else .ok (hours, minutes)
  | _ => .error (.text "INVALID_RIDE_DEPARTURE_TIME")

/-- `combineDepartureDateTimeUtc`, of booking, of ride operations and of the scheduler. -/
def combineDepartureDateTimeUtc (departureDate : ℕ) (departureTime : String) : Except Err ℤ := do
  let (hours, minutes) ← checkedTime departureTime
  return dateUTC (departureDate / dayMs) hours minutes 0

/-- `combineDepartureDateTimeInRideTimezone`, as the driver's list imports it: the date is the local
one as well. -/
def combineDepartureDateTimeInRideTimezone (zone : Zone) (departureDate : ℤ)
    (departureTime : String) : Except Err ℤ := do
  let (hours, minutes) ← checkedTime departureTime
  let rideDate := getRideTimeParts zone departureDate
  let utcGuess := dateUTC rideDate.date hours minutes 0
  return utcGuess - getRideTimeOffsetMs zone utcGuess

/-- The function of the same name in the search: the date is the one in UTC, and a part that is
missing is zero. A part that is no number makes a date that cannot be formatted. -/
def combineInSearch (zone : Zone) (departureDate : ℤ) (departureTime : String) : Except Err ℤ :=
  let parts := splitTime departureTime
  match parts[0]?.elim (some 0) digitsNumber, parts[1]?.elim (some 0) digitsNumber with
  | some hours, some minutes =>
    let utcGuess := dateUTC (departureDate / dayMs) hours minutes 0
    .ok (utcGuess - getRideTimeOffsetMs zone utcGuess)
  | _, _ => .error (.text "Invalid time value")

/-! ## Decisions -/

/-- Whether the search shows a ride. -/
def isFutureRideDeparture (zone : Zone) (departureDate : ℕ) (departureTime : String) (now : ℕ) :
    Except Err Bool := do
  let departureAt ← combineInSearch zone departureDate departureTime
  return decide ((now : ℤ) < departureAt)

/-- Whether `resolveBookingPlan` finds the booking window closed. -/
def bookingWindowClosed (departureDate : ℕ) (departureTime : String) (now : ℕ) :
    Except Err Bool := do
  let departureAt ← combineDepartureDateTimeUtc departureDate departureTime
  return isBookingWindowClosed departureAt.toNat now

/-- The columns of a ride that the driver's list and the scheduler decide from, and whether they
have read an active booking of it. -/
structure ListedRide where
  status : RideStatus
  actualStartTime : Option ℕ := none
  departureDate : ℕ
  departureTime : String
  hasActiveBookings : Bool := false

/-- The status that `reconcileDriverRideListStatuses` writes, if any. -/
def listMarking (zone : Zone) (overdueCancelAfterMinutes : ℕ) (ride : ListedRide) (now : ℕ) :
    Option RideStatus :=
  if (ride.status = .published ∨ ride.status = .scheduled ∨ ride.status = .readyToStart) ∧
      ride.actualStartTime = none ∧ ride.departureDate ≤ now then
    match combineDepartureDateTimeInRideTimezone zone ride.departureDate ride.departureTime with
    | .error _ => none
    | .ok departureAt =>
      if (now : ℤ) < departureAt then none
      -- long overdue and nobody on board: it is marked expired instead
      else if departureAt + overdueCancelAfterMinutes * (60 * 1000) ≤ now ∧
          ride.hasActiveBookings = false then
        some .expired
      else if ride.status = .published ∨ ride.status = .scheduled then some .readyToStart
      else none
  else none

/-- Whether `runRideOverdueCheck` marks a ride ready to start. -/
def promotes (ride : ListedRide) (now : ℕ) : Prop :=
  (ride.status = .published ∨ ride.status = .scheduled) ∧ ride.actualStartTime = none ∧
    ride.departureDate ≤ now ∧
    ∃ departureAt, combineDepartureDateTimeUtc ride.departureDate ride.departureTime =
      .ok departureAt ∧ departureAt ≤ now

/-- Whether `runRideOverdueCheck` closes a ride. -/
def closes (overdueCancelAfterMinutes : ℕ) (ride : ListedRide) (now : ℕ) : Prop :=
  (ride.status = .published ∨ ride.status = .scheduled ∨ ride.status = .readyToStart) ∧
    ride.actualStartTime = none ∧ ride.departureDate ≤ now ∧
    ∃ departureAt, combineDepartureDateTimeUtc ride.departureDate ride.departureTime =
      .ok departureAt ∧ departureAt + overdueCancelAfterMinutes * (60 * 1000) ≤ now

/-! ## Agreement -/

/-- All components place the departure at the instant at which booking and the scheduler place it;
the driver's list marks no ride before the scheduler would, and no ride that the search takes for
departed can be booked. -/
structure OneDeparture (zone : Zone) (overdueCancelAfterMinutes departureDate : ℕ)
    (departureTime : String) : Prop where
  search : combineInSearch zone departureDate departureTime =
    combineDepartureDateTimeUtc departureDate departureTime
  list : combineDepartureDateTimeInRideTimezone zone departureDate departureTime =
    combineDepartureDateTimeUtc departureDate departureTime
  notReadyEarly : ∀ ride : ListedRide, ∀ now, ride.departureDate = departureDate →
    ride.departureTime = departureTime →
    listMarking zone overdueCancelAfterMinutes ride now = some .readyToStart → promotes ride now
  notExpiredEarly : ∀ ride : ListedRide, ∀ now, ride.departureDate = departureDate →
    ride.departureTime = departureTime →
    listMarking zone overdueCancelAfterMinutes ride now = some .expired →
      closes overdueCancelAfterMinutes ride now
  notBookedLate : ∀ now, isFutureRideDeparture zone departureDate departureTime now = .ok false →
    bookingWindowClosed departureDate departureTime now = .ok true

/-- The time zone is UTC where it is looked up: at the date and time read in UTC, and at the same
reading on the date that the zone makes of midnight, which is the same date unless the zone is
behind UTC. -/
def InUtc (zone : Zone) (departureDate hours minutes : ℕ) : Prop :=
  let reading := dateUTC (departureDate / dayMs) hours minutes 0
  let days := zone departureDate * 1000 / dayMs
  zone reading = 0 ∧ zone (reading + days * dayMs) * 1000 = days * dayMs

/-- A valid time: two digits, a colon and two digits. -/
def ReadsAs (departureTime : String) (hours minutes : ℕ) : Prop :=
  hours < 24 ∧ minutes < 60 ∧ ∃ a b c d : Char,
    departureTime.toList = [a, b, ':', c, d] ∧ digitsNumber [a, b] = some hours ∧
      digitsNumber [c, d] = some minutes

section Agreement

variable {zone : Zone} {departureDate hours minutes : ℕ} {departureTime : String}

theorem ne_colon_of_isDigit {c : Char} (h : c.isDigit = true) : c ≠ ':' := by
  rintro rfl
  exact absurd h (by decide)

theorem splitTime_eq (h : ReadsAs departureTime hours minutes) :
    ∃ a b, splitTime departureTime = [a, b] ∧ digitsNumber a = some hours ∧
      digitsNumber b = some minutes := by
  obtain ⟨-, -, a, b, c, d, htext, hh, hm⟩ := h
  refine ⟨[a, b], [c, d], ?_, hh, hm⟩
  have hdigits : ∀ x y n, digitsNumber [x, y] = some n → x ≠ ':' ∧ y ≠ ':' := by
    intro x y n hxy
    unfold digitsNumber at hxy
    split_ifs at hxy with hall
    simp only [List.all_cons, List.all_nil, Bool.and_true, Bool.and_eq_true] at hall
    exact ⟨ne_colon_of_isDigit hall.1, ne_colon_of_isDigit hall.2⟩
  obtain ⟨ha, hb⟩ := hdigits a b hours hh
  obtain ⟨hc, hd⟩ := hdigits c d minutes hm
  rw [splitTime, htext]
  simp [List.splitOn, List.splitOnP, List.splitOnPPrepend, ha, hb, hc, hd]

/-- A valid text is read as its hours and minutes. -/
theorem timeNumbers_eq (h : ReadsAs departureTime hours minutes) :
    timeNumbers departureTime = (some hours, some minutes) := by
  obtain ⟨a, b, hsplit, ha, hb⟩ := splitTime_eq h
  simp only [timeNumbers, hsplit, List.getElem?_cons_zero, List.getElem?_cons_succ,
    Option.bind_some, ha, hb]

theorem checkedTime_eq (h : ReadsAs departureTime hours minutes) :
    checkedTime departureTime = .ok (hours, minutes) := by
  have hrange : ¬(23 < hours ∨ 59 < minutes) := by
    have := h.1
    have := h.2.1
    omega
  simp only [checkedTime, timeNumbers_eq h, if_neg hrange]

theorem combineDepartureDateTimeUtc_eq (h : ReadsAs departureTime hours minutes)
    (departureDate : ℕ) : combineDepartureDateTimeUtc departureDate departureTime =
      .ok (dateUTC (departureDate / dayMs) hours minutes 0) := by
  rw [combineDepartureDateTimeUtc, checkedTime_eq h]
  rfl

/-! ### Offsets -/

/-- At a whole second the offset is the one of the time zone. -/
theorem getRideTimeOffsetMs_eq (zone : Zone) {instant : ℤ} (h : 1000 ∣ instant) :
    getRideTimeOffsetMs zone instant = zone instant * 1000 := by
  obtain ⟨k, rfl⟩ := h
  simp only [getRideTimeOffsetMs, getRideTimeParts, dateUTC, dayMs]
  push_cast
  omega

theorem dvd_dateUTC (date hours minutes seconds : ℤ) :
    1000 ∣ dateUTC date hours minutes seconds := by
  simp only [dateUTC, dayMs]
  push_cast
  omega

theorem combineInSearch_eq (h : ReadsAs departureTime hours minutes) (zone : Zone)
    (departureDate : ℤ) : combineInSearch zone departureDate departureTime =
      .ok (dateUTC (departureDate / dayMs) hours minutes 0 -
        zone (dateUTC (departureDate / dayMs) hours minutes 0) * 1000) := by
  obtain ⟨a, b, hsplit, ha, hb⟩ := splitTime_eq h
  simp only [combineInSearch, hsplit, List.getElem?_cons_zero, List.getElem?_cons_succ,
    Option.elim_some, ha, hb, getRideTimeOffsetMs_eq zone (dvd_dateUTC _ _ _ _)]

/-- The local reading of a UTC midnight is whole days away from the reading in UTC. -/
theorem dateUTC_local (zone : Zone) (hdate : dayMs ∣ departureDate) (hours minutes : ℕ) :
    dateUTC (getRideTimeParts zone departureDate).date hours minutes 0 =
      dateUTC (departureDate / dayMs) hours minutes 0 +
        zone departureDate * 1000 / dayMs * dayMs := by
  obtain ⟨day, rfl⟩ := hdate
  have hpos : (dayMs : ℤ) ≠ 0 := by simp [dayMs]
  simp only [getRideTimeParts, dateUTC]
  push_cast
  rw [Int.add_comm (dayMs * day : ℤ), Int.add_mul_ediv_left _ _ hpos,
    Int.mul_ediv_cancel_left _ hpos]
  ring

theorem combineDepartureDateTimeInRideTimezone_eq (h : ReadsAs departureTime hours minutes)
    (zone : Zone) (hdate : dayMs ∣ departureDate) :
    combineDepartureDateTimeInRideTimezone zone departureDate departureTime =
      .ok (dateUTC (departureDate / dayMs) hours minutes 0 +
        zone departureDate * 1000 / dayMs * dayMs -
        zone (dateUTC (departureDate / dayMs) hours minutes 0 +
          zone departureDate * 1000 / dayMs * dayMs) * 1000) := by
  rw [combineDepartureDateTimeInRideTimezone, checkedTime_eq h]
  show Except.ok _ = _
  rw [getRideTimeOffsetMs_eq zone (dvd_dateUTC _ _ _ _), dateUTC_local zone hdate]

/-! ### Decisions -/

/-- What the driver's list marks, it has found past the departure that it reads. -/
theorem listMarking_some {ride : ListedRide} {cancelAfter now : ℕ} {status : RideStatus}
    {departureAt : ℤ}
    (hdeparture : combineDepartureDateTimeInRideTimezone zone ride.departureDate
      ride.departureTime = .ok departureAt)
    (h : listMarking zone cancelAfter ride now = some status) :
    (ride.status = .published ∨ ride.status = .scheduled ∨ ride.status = .readyToStart) ∧
      ride.actualStartTime = none ∧ ride.departureDate ≤ now ∧ departureAt ≤ now ∧
      (status = .readyToStart ∧ (ride.status = .published ∨ ride.status = .scheduled) ∨
        status = .expired ∧ departureAt + cancelAfter * (60 * 1000) ≤ now) := by
  simp only [listMarking, hdeparture] at h
  split_ifs at h with hcandidate hearly hclose hready
  · obtain ⟨hstatus, hstart, hdate⟩ := hcandidate
    refine ⟨hstatus, hstart, hdate, not_lt.mp hearly, Or.inr ⟨?_, hclose.1⟩⟩
    exact (Option.some.inj h).symm
  · obtain ⟨hstatus, hstart, hdate⟩ := hcandidate
    refine ⟨hstatus, hstart, hdate, not_lt.mp hearly, Or.inl ⟨?_, hready⟩⟩
    exact (Option.some.inj h).symm

/-- Where the local reading is the one in UTC, the list marks what the scheduler marks. -/
theorem marks_of_list_eq (cancelAfter : ℕ) {ride : ListedRide} {now : ℕ} {status : RideStatus}
    {departureAt : ℤ}
    (hlist : combineDepartureDateTimeInRideTimezone zone ride.departureDate ride.departureTime =
      .ok departureAt)
    (hutc : combineDepartureDateTimeUtc ride.departureDate ride.departureTime = .ok departureAt)
    (h : listMarking zone cancelAfter ride now = some status) :
    (status = .readyToStart → promotes ride now) ∧
      (status = .expired → closes cancelAfter ride now) := by
  obtain ⟨hstatus, hstart, hdate, hpast, ⟨rfl, hready⟩ | ⟨rfl, hclose⟩⟩ := listMarking_some hlist h
  · refine ⟨fun _ => ⟨hready, hstart, hdate, departureAt, hutc, hpast⟩, ?_⟩
    intro hexpired
    cases hexpired
  · refine ⟨?_, fun _ => ⟨hstatus, hstart, hdate, departureAt, hutc, hclose⟩⟩
    intro hready
    cases hready

/-- A zone that is never a day or more from UTC reads the date of a midnight as the same one
exactly if it is not behind, so the condition is on two offsets. -/
theorem inUtc_iff_of_lt_day (hzone : ∀ t, |zone t * 1000| < dayMs) :
    InUtc zone departureDate hours minutes ↔
      zone (dateUTC (departureDate / dayMs) hours minutes 0) = 0 ∧ 0 ≤ zone departureDate := by
  have hdate := abs_lt.mp (hzone departureDate)
  simp only [InUtc]
  refine and_congr_right fun hzero => ?_
  rcases le_or_gt 0 (zone departureDate) with hahead | hbehind
  · have hdays : zone departureDate * 1000 / (dayMs : ℤ) = 0 :=
      Int.ediv_eq_zero_of_lt (by omega) hdate.2
    rw [hdays, zero_mul, add_zero, hzero]
    exact iff_of_true (zero_mul _) hahead
  · -- a day back is more than the offset there can make up for
    have hdays : zone departureDate * 1000 / (dayMs : ℤ) = -1 := by
      have hpos : (0 : ℤ) < dayMs := by simp [dayMs]
      rw [Int.ediv_eq_iff_of_pos hpos]
      constructor <;> omega
    rw [hdays]
    refine iff_of_false (fun heq => ?_) (not_le.mpr hbehind)
    have hback := hzone (dateUTC (departureDate / dayMs) hours minutes 0 + -1 * dayMs)
    rw [heq, neg_one_mul, abs_neg, Nat.abs_cast] at hback
    exact lt_irrefl _ hback

/-- **The components agree on the departure exactly when the time zone is UTC where it is looked
up.** -/
theorem one_departure_iff (zone : Zone) (overdueCancelAfterMinutes departureDate : ℕ)
    (departureTime : String) (hours minutes : ℕ) (hdate : dayMs ∣ departureDate)
    (htime : ReadsAs departureTime hours minutes) :
    OneDeparture zone overdueCancelAfterMinutes departureDate departureTime ↔
      InUtc zone departureDate hours minutes := by
  have hsearch := combineInSearch_eq htime zone departureDate
  have hlist := combineDepartureDateTimeInRideTimezone_eq htime zone hdate
  have hutc := combineDepartureDateTimeUtc_eq htime departureDate
  simp only [InUtc]
  set reading := dateUTC (departureDate / dayMs) hours minutes 0 with hreading
  set days := zone departureDate * 1000 / (dayMs : ℤ)
  constructor
  · -- two of the readings fix the offset: the search's at the instant, the list's at the date
    intro h
    have hs := h.search
    have hl := h.list
    rw [hsearch, hutc, Except.ok.injEq] at hs
    rw [hlist, hutc, Except.ok.injEq] at hl
    constructor <;> omega
  · rintro ⟨hzero, hdays⟩
    rw [hzero, zero_mul, sub_zero] at hsearch
    rw [hdays, add_sub_cancel_right] at hlist
    constructor
    · -- in UTC every copy computes the same instant, and what they say of it follows
      rw [hsearch, hutc]
    · rw [hlist, hutc]
    · rintro ride now rfl rfl h
      exact (marks_of_list_eq overdueCancelAfterMinutes hlist hutc h).1 rfl
    · rintro ride now rfl rfl h
      exact (marks_of_list_eq overdueCancelAfterMinutes hlist hutc h).2 rfl
    · intro now h
      rw [isFutureRideDeparture, hsearch] at h
      have hpast : ¬(now : ℤ) < reading := by simpa [pure, Except.pure, bind, Except.bind] using h
      rw [bookingWindowClosed, hutc]
      have hclosed : isBookingWindowClosed reading.toNat now = true := by
        rw [isBookingWindowClosed, Bool.or_eq_true, decide_eq_true_eq]
        exact Or.inl (by omega)
      exact congrArg Except.ok hclosed

end Agreement

/-! ## Runs -/

section Runs

/-- Tallinn in the year 2026: two hours ahead of UTC, three from the end of March to the end of
October. -/
private def tallinn2026 : Zone := fun instant =>
  if 1774746000000 ≤ instant ∧ instant < 1792890000000 then 3 * 60 * 60 else 2 * 60 * 60

/-- The seventh of August 2026. -/
private def seventhOfAugust : ℕ := 20672 * dayMs

theorem departure_in_utc : OneDeparture (fun _ => 0) 120 seventhOfAugust "13:00" :=
  (one_departure_iff (fun _ => 0) 120 seventhOfAugust "13:00" 13 0 (Dvd.intro_left _ rfl)
    ⟨by decide, by decide, '1', '3', '0', '0', by decide, by decide, by decide⟩).mpr
    ⟨rfl, by decide⟩

/-- A ride on the seventh of August at one o'clock: for the search it has departed at ten UTC, and
at 11:32 it can still be booked. -/
theorem departed_and_bookable :
    ¬OneDeparture tallinn2026 120 seventhOfAugust "13:00" ∧
      isFutureRideDeparture tallinn2026 seventhOfAugust "13:00" 1786102320000 = .ok false ∧
      bookingWindowClosed seventhOfAugust "13:00" 1786102320000 = .ok false := by
  have hsearch : isFutureRideDeparture tallinn2026 seventhOfAugust "13:00" 1786102320000 =
    .ok false := by decide
  have hbooking : bookingWindowClosed seventhOfAugust "13:00" 1786102320000 = .ok false := by
    decide
  refine ⟨fun h => ?_, hsearch, hbooking⟩
  have hclosed := h.notBookedLate _ hsearch
  rw [hbooking] at hclosed
  cases hclosed

end Runs

end Deliivo
