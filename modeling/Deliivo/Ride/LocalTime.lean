import Deliivo.Ride.Departure

/-!
# Local time and back

A date and a local time `HH:MM` become an instant by reading them as if they were in UTC and taking off
the offset that the time zone has at that reading. Next to a transition that is the offset of the other
side.

**In a zone with daylight saving, ahead of UTC, the instant shows the date and the time it was made of
exactly if their reading in UTC does not come after a transition by less than the standard offset**
(`local_time_iff`, for zones behind UTC as well). The copy of the search makes the same instant of a UTC
midnight wherever the zone is ahead by less than a day.

## Main definitions

* `OccursOn`: a local time that a day has
* `LocalTime`: what is asked of the functions
* `IsTransition`, `DaylightSaving`: a zone that changes by one hour, between two offsets
* `ByTransition`: a reading that is too near to a transition

## Main results

* `shows_iff`: when an instant shows a reading
* `localTime_iff_sameOffset`: what is asked, by the offsets that the zone has
* `DaylightSaving.sameOffset_iff`: where a zone with daylight saving has them
* `local_time_iff`
-/

namespace Deliivo

/-- The local time occurs on the local day. -/
def OccursOn (zone : Zone) (date : ℤ) (hours minutes : ℕ) : Prop :=
  ∃ instant, (getRideTimeParts zone instant).date = date ∧
    (getRideTimeParts zone instant).hour = hours ∧ (getRideTimeParts zone instant).minute = minutes

/-- The instant made of a date and of a local time of that day shows both, and the search makes the same
one of a UTC midnight in a zone that is ahead of UTC by less than a day. -/
structure LocalTime (zone : Zone) (departureDate : ℤ) (departureTime : String)
    (hours minutes : ℕ) : Prop where
  roundTrip : OccursOn zone (getRideTimeParts zone departureDate).date hours minutes →
    ∃ departureAt, combineDepartureDateTimeInRideTimezone zone departureDate departureTime =
      .ok departureAt ∧
      getRideTimeParts zone departureAt = {
        date := (getRideTimeParts zone departureDate).date
        hour := hours
        minute := minutes
        second := 0 }
  search : (dayMs : ℤ) ∣ departureDate → 0 ≤ zone departureDate →
    zone departureDate * 1000 < dayMs →
    combineInSearch zone departureDate departureTime =
      combineDepartureDateTimeInRideTimezone zone departureDate departureTime

/-! ## Zones -/

/-- The offset changes at an instant. -/
def IsTransition (zone : Zone) (transition : ℤ) : Prop := zone (transition - 1) ≠ zone transition

/-- A zone with daylight saving: at any instant it has its standard offset or an hour more. Offsets and
transitions are of whole minutes, and transitions further apart than any offset and an hour. -/
structure DaylightSaving (standard : ℤ) (zone : Zone) : Prop where
  offsets : ∀ instant, zone instant = standard ∨ zone instant = standard + 3600
  wholeMinutes : 60 ∣ standard ∧ ∀ transition, IsTransition zone transition → 60 * 1000 ∣ transition
  spaced : ∀ first second, IsTransition zone first → IsTransition zone second → first < second →
    first + (|standard| + 3600) * 1000 < second

/-- **A reading in UTC that is too near to a transition**: behind it by less than the standard offset, in
a zone ahead of UTC; in a zone behind UTC, before it by no more than the offset with daylight saving. -/
def ByTransition (standard : ℤ) (zone : Zone) (reading : ℤ) : Prop :=
  ∃ transition, IsTransition zone transition ∧
    transition + min 0 (standard + 3600) * 1000 ≤ reading ∧
    reading < transition + max 0 standard * 1000

/-- Some instant that shows the reading has the offset that the zone has at the reading itself, taken as
an instant. -/
def SameOffset (zone : Zone) (reading : ℤ) : Prop :=
  ∃ instant, instant + zone instant * 1000 = reading ∧ zone instant = zone reading

section LocalTime

variable {zone : Zone} {departureDate : ℤ} {departureTime : String} {hours minutes : ℕ}

/-! ## Readings -/

/-- **An instant of whole seconds shows a reading** exactly if it is that far from it. -/
theorem shows_iff {date instant : ℤ} (hhours : hours < 24) (hminutes : minutes < 60)
    (hinstant : 1000 ∣ instant) :
    getRideTimeParts zone instant = ⟨date, hours, minutes, 0⟩ ↔
      instant + zone instant * 1000 = dateUTC date hours minutes 0 := by
  obtain ⟨seconds, rfl⟩ := hinstant
  simp only [getRideTimeParts, dateUTC, dayMs, TimeParts.mk.injEq]
  push_cast
  omega

/-- The reading of a time that occurs, and the instant, are less than a minute apart. -/
theorem occursOn_iff {date : ℤ} (hhours : hours < 24) (hminutes : minutes < 60) :
    OccursOn zone date hours minutes ↔ ∃ instant,
      dateUTC date hours minutes 0 ≤ instant + zone instant * 1000 ∧
        instant + zone instant * 1000 < dateUTC date hours minutes 0 + 60 * 1000 := by
  refine exists_congr fun instant => ?_
  simp only [getRideTimeParts, dateUTC, dayMs]
  push_cast
  omega

theorem combineDepartureDateTimeInRideTimezone_ok (h : ReadsAs departureTime hours minutes)
    (zone : Zone) (departureDate : ℤ) :
    combineDepartureDateTimeInRideTimezone zone departureDate departureTime =
      .ok (dateUTC (getRideTimeParts zone departureDate).date hours minutes 0 -
        zone (dateUTC (getRideTimeParts zone departureDate).date hours minutes 0) * 1000) := by
  rw [combineDepartureDateTimeInRideTimezone, checkedTime_eq h]
  show Except.ok _ = _
  rw [getRideTimeOffsetMs_eq zone (dvd_dateUTC _ _ _ _)]

/-- A zone that is ahead by less than a day has the date of UTC at a UTC midnight. -/
theorem date_of_midnight (hmidnight : (dayMs : ℤ) ∣ departureDate) (hahead : 0 ≤ zone departureDate)
    (hday : zone departureDate * 1000 < dayMs) :
    (getRideTimeParts zone departureDate).date = departureDate / dayMs := by
  simp only [getRideTimeParts, dayMs] at hmidnight hday ⊢
  push_cast at hmidnight hday ⊢
  omega

/-! ## There and back -/

/-- Date and local time are those of the instant they become, where they occur at all, exactly if the
offsets are the same; the search agrees on UTC midnights in any case. -/
theorem localTime_iff_sameOffset (h : ReadsAs departureTime hours minutes) :
    LocalTime zone departureDate departureTime hours minutes ↔
      (OccursOn zone (getRideTimeParts zone departureDate).date hours minutes →
        SameOffset zone (dateUTC (getRideTimeParts zone departureDate).date hours minutes 0)) := by
  set reading := dateUTC (getRideTimeParts zone departureDate).date hours minutes 0 with hreading
  have hcombined := combineDepartureDateTimeInRideTimezone_ok h zone departureDate
  rw [← hreading] at hcombined
  -- the instant that is made is a whole second
  have hwhole : (1000 : ℤ) ∣ reading - zone reading * 1000 :=
    dvd_sub (dvd_dateUTC _ _ _ _) (Dvd.intro_left _ rfl)
  constructor
  · intro hlocal hoccurs
    obtain ⟨departureAt, hat, hshows⟩ := hlocal.roundTrip hoccurs
    rw [hcombined] at hat
    obtain rfl := Except.ok.inj hat
    have hback := (shows_iff h.1 h.2.1 hwhole).mp hshows
    rw [← hreading] at hback
    exact ⟨_, hback, by omega⟩
  · intro hsame
    constructor
    · intro hoccurs
      obtain ⟨instant, hinstant, hoffset⟩ := hsame hoccurs
      refine ⟨_, hcombined, (shows_iff h.1 h.2.1 hwhole).mpr ?_⟩
      -- the instant at which the offset is the same is the one that is made
      have hmade : reading - zone reading * 1000 = instant := by
        rw [← hoffset]
        omega
      rw [hmade, hinstant]
    · intro hmidnight hahead hday
      rw [combineInSearch_eq h, hcombined, hreading, date_of_midnight hmidnight hahead hday]

end LocalTime

/-! ## Around a transition -/

section Transitions

variable {zone : Zone} {standard transition i j : ℤ}

/-- Between two instants of different offsets is a transition. -/
theorem exists_transition (hij : i ≤ j) (hne : zone i ≠ zone j) :
    ∃ transition, IsTransition zone transition ∧ i < transition ∧ transition ≤ j := by
  obtain ⟨steps, rfl⟩ := Int.le.dest hij
  induction steps with
  | zero => exact absurd (by rw [Int.natCast_zero, Int.add_zero]) hne
  | succ steps ih =>
    have hback : i + ((steps + 1 : ℕ) : ℤ) - 1 = i + steps := by
      push_cast
      omega
    by_cases hlast : zone (i + steps) = zone (i + ((steps + 1 : ℕ) : ℤ))
    · obtain ⟨transition, htransition, hafter, hbefore⟩ := ih (by omega) (by rwa [hlast])
      exact ⟨transition, htransition, hafter, by omega⟩
    · refine ⟨_, ?_, by omega, le_rfl⟩
      rw [IsTransition, hback]
      exact hlast

namespace DaylightSaving

variable (hzone : DaylightSaving standard zone)

include hzone

/-- After a transition the offset stays for a while. -/
theorem eq_after (ht : IsTransition zone transition) (hle : transition ≤ i)
    (hnear : i ≤ transition + (|standard| + 3600) * 1000) : zone i = zone transition := by
  by_contra hne
  obtain ⟨next, hnext, hafter, hbefore⟩ := exists_transition hle (Ne.symm hne)
  have hspaced := hzone.spaced _ _ ht hnext hafter
  omega

/-- Before it the offset has been the same for a while. -/
theorem eq_before (ht : IsTransition zone transition) (hlt : i < transition)
    (hnear : transition ≤ i + (|standard| + 3600) * 1000) : zone i = zone (transition - 1) := by
  by_contra hne
  obtain ⟨last, hlast, hafter, hbefore⟩ := exists_transition (by omega) hne
  have hspaced := hzone.spaced _ _ hlast ht (by omega)
  omega

/-- The two offsets around a transition. -/
theorem offsets_around (ht : IsTransition zone transition) :
    zone (transition - 1) = standard ∧ zone transition = standard + 3600 ∨
      zone (transition - 1) = standard + 3600 ∧ zone transition = standard := by
  have hne : zone (transition - 1) ≠ zone transition := ht
  rcases hzone.offsets (transition - 1) with hbefore | hbefore
  · rcases hzone.offsets transition with hafter | hafter
    · exact absurd (hbefore.trans hafter.symm) hne
    · exact .inl ⟨hbefore, hafter⟩
  · rcases hzone.offsets transition with hafter | hafter
    · exact .inr ⟨hbefore, hafter⟩
    · exact absurd (hbefore.trans hafter.symm) hne

variable {date reading : ℤ} {hours minutes : ℕ}

/-- A reading by a transition is shown, and not at the instant that is made of it: the one lies behind the
transition and the other one before it. -/
theorem exists_other_side (h : ByTransition standard zone reading) :
    ∃ instant, instant + zone instant * 1000 = reading ∧
      zone (reading - zone reading * 1000) ≠ zone reading := by
  obtain ⟨transition, ht, hlow, hhigh⟩ := h
  have habs : |standard| = standard ∨ |standard| = -standard := abs_choice standard
  have hnonneg := abs_nonneg standard
  have hne : zone (transition - 1) ≠ zone transition := ht
  have hsides := hzone.offsets_around ht
  rcases le_or_gt transition reading with hbehind | hahead
  · -- in a zone ahead of UTC; the offsets are not negative
    have hreading : zone reading = zone transition := hzone.eq_after ht hbehind (by omega)
    have hshown : zone (reading - zone (transition - 1) * 1000) = zone (transition - 1) :=
      hzone.eq_before ht (by omega) (by omega)
    have hmade : zone (reading - zone transition * 1000) = zone (transition - 1) :=
      hzone.eq_before ht (by omega) (by omega)
    refine ⟨reading - zone (transition - 1) * 1000, by omega, ?_⟩
    rw [hreading, hmade]
    exact hne
  · -- in a zone behind UTC
    have hreading : zone reading = zone (transition - 1) := hzone.eq_before ht hahead (by omega)
    have hshown : zone (reading - zone transition * 1000) = zone transition :=
      hzone.eq_after ht (by omega) (by omega)
    have hmade : zone (reading - zone (transition - 1) * 1000) = zone transition :=
      hzone.eq_after ht (by omega) (by omega)
    refine ⟨reading - zone transition * 1000, by omega, ?_⟩
    rw [hreading, hmade]
    exact hne.symm

/-- A reading that is shown, though not at the instant that is made of it, is by a transition. -/
theorem byTransition_of_ne (hreading : 60 * 1000 ∣ reading)
    (hoccurs : ∃ instant, reading ≤ instant + zone instant * 1000 ∧
      instant + zone instant * 1000 < reading + 60 * 1000)
    (hne : zone (reading - zone reading * 1000) ≠ zone reading) : ByTransition standard zone reading := by
  obtain ⟨instant, hlow, hhigh⟩ := hoccurs
  obtain ⟨⟨offset, hoffset⟩, hminutes⟩ := hzone.wholeMinutes
  obtain ⟨minute, hminute⟩ := hreading
  have habs : |standard| = standard ∨ |standard| = -standard := abs_choice standard
  have hnonneg := abs_nonneg standard
  have hoffsetReading := hzone.offsets reading
  have hoffsetInstant := hzone.offsets instant
  rcases le_or_gt (reading - zone reading * 1000) reading with hback | hforth
  · obtain ⟨transition, ht, hafter, hbefore⟩ := exists_transition hback hne
    obtain ⟨change, hchange⟩ := hminutes _ ht
    have hsides := hzone.offsets_around ht
    have hread : zone reading = zone transition := hzone.eq_after ht hbefore (by omega)
    refine ⟨transition, ht, by omega, ?_⟩
    -- the instant that shows the reading lies before the transition, too
    rcases lt_or_ge instant transition with hearly | hlate
    · have hinstant : zone instant = zone (transition - 1) := hzone.eq_before ht hearly (by omega)
      omega
    · have hinstant : zone instant = zone transition := hzone.eq_after ht hlate (by omega)
      omega
  · obtain ⟨transition, ht, hafter, hbefore⟩ := exists_transition hforth.le (Ne.symm hne)
    obtain ⟨change, hchange⟩ := hminutes _ ht
    have hsides := hzone.offsets_around ht
    have hread : zone reading = zone (transition - 1) := hzone.eq_before ht hafter (by omega)
    refine ⟨transition, ht, ?_, by omega⟩
    rcases lt_or_ge instant transition with hearly | hlate
    · have hinstant : zone instant = zone (transition - 1) := hzone.eq_before ht hearly (by omega)
      omega
    · have hinstant : zone instant = zone transition := hzone.eq_after ht hlate (by omega)
      omega

/-- **Where the offsets are the same**: of the local times that occur, those whose reading in UTC is not
by a transition; and those by a transition do occur. -/
theorem sameOffset_iff (hhours : hours < 24) (hmins : minutes < 60) :
    (OccursOn zone date hours minutes → SameOffset zone (dateUTC date hours minutes 0)) ↔
      ¬ ByTransition standard zone (dateUTC date hours minutes 0) := by
  rw [occursOn_iff hhours hmins]
  -- a reading is a whole minute, as far as zones are looked at
  have hreading : 60 * 1000 ∣ dateUTC date hours minutes 0 := by
    simp only [dateUTC, dayMs]
    push_cast
    omega
  set reading := dateUTC date hours minutes 0
  constructor
  · intro hsame hby
    -- by a transition the time occurs, on the other side of it
    obtain ⟨instant, hshows, hne⟩ := hzone.exists_other_side hby
    obtain ⟨shown, hshown, hoffset⟩ := hsame ⟨instant, by omega, by omega⟩
    have hmade : shown = reading - zone reading * 1000 := by
      rw [← hoffset]
      omega
    rw [← hmade] at hne
    exact hne hoffset
  · intro hby hoccurs
    -- a time that occurs with another offset only is by a transition
    by_contra hnot
    refine hby (hzone.byTransition_of_ne hreading hoccurs fun heq => hnot ⟨_, ?_, heq⟩)
    rw [heq]
    omega

end DaylightSaving

end Transitions

/-! ## There and back -/

/-- **There and back**: in a zone with daylight saving, date and local time are those of the instant they
become, where they occur at all, exactly if their reading in UTC is not by a transition; the search agrees
on UTC midnights in any case. -/
theorem local_time_iff (standard : ℤ) (zone : Zone) (hzone : DaylightSaving standard zone)
    (departureDate : ℤ) (departureTime : String) (hours minutes : ℕ)
    (h : ReadsAs departureTime hours minutes) :
    LocalTime zone departureDate departureTime hours minutes ↔
      ¬ ByTransition standard zone
        (dateUTC (getRideTimeParts zone departureDate).date hours minutes 0) :=
  (localTime_iff_sameOffset h).trans (hzone.sameOffset_iff h.1 h.2.1)

/-! ## The last Sunday of March 2026 -/

section Runs

/-- Tallinn is two hours ahead of UTC, and three from the last Sunday of March to that of October, at one
o'clock in UTC. -/
private def tallinn : Zone := fun instant =>
  if instant < 1774746000000 then 2 * 60 * 60
  else if instant < 1792890000000 then 3 * 60 * 60 else 2 * 60 * 60

private theorem isTransition_tallinn {transition : ℤ} (h : IsTransition tallinn transition) :
    transition = 1774746000000 ∨ transition = 1792890000000 := by
  unfold IsTransition tallinn at h
  split_ifs at h
  all_goals omega

private theorem daylightSaving_tallinn : DaylightSaving (2 * 60 * 60) tallinn where
  offsets instant := by
    unfold tallinn
    split_ifs
    · exact .inl rfl
    · exact .inr rfl
    · exact .inl rfl
  wholeMinutes := by
    refine ⟨by decide, fun transition h => ?_⟩
    rcases isTransition_tallinn h with rfl | rfl
    · decide
    · decide
  spaced first second hfirst hsecond hlt := by
    rcases isTransition_tallinn hfirst with rfl | rfl
    · rcases isTransition_tallinn hsecond with rfl | rfl
      · exact absurd hlt (lt_irrefl _)
      · decide
    · rcases isTransition_tallinn hsecond with rfl | rfl
      · exact absurd hlt (by decide)
      · exact absurd hlt (lt_irrefl _)

private theorem half_past_five : ReadsAs "05:30" 5 30 :=
  ⟨by decide, by decide, '0', '5', '3', '0', by decide, by decide, by decide⟩

private theorem half_past_one : ReadsAs "01:30" 1 30 :=
  ⟨by decide, by decide, '0', '1', '3', '0', by decide, by decide, by decide⟩

/-- Half past five on the last Sunday of March, more than two hours after the transition, comes back
on that day. -/
theorem half_past_five_comes_back : LocalTime tallinn 1774742400000 "05:30" 5 30 := by
  refine (local_time_iff (2 * 60 * 60) tallinn daylightSaving_tallinn 1774742400000 "05:30" 5 30
    half_past_five).mpr ?_
  rintro ⟨transition, ht, hlow, hhigh⟩
  rcases isTransition_tallinn ht with rfl | rfl
  · exact absurd hhigh (by decide)
  · exact absurd hlow (by decide)

/-- Half past one, before the transition, becomes an instant that shows half past midnight. -/
theorem half_past_one_an_hour_early :
    DaylightSaving (2 * 60 * 60) tallinn ∧ ¬ LocalTime tallinn 1774742400000 "01:30" 1 30 := by
  refine ⟨daylightSaving_tallinn, fun h => ?_⟩
  obtain ⟨departureAt, hat, hshows⟩ := h.roundTrip
    ⟨1774740600000, by decide, by decide, by decide⟩
  rw [combineDepartureDateTimeInRideTimezone_ok half_past_one] at hat
  obtain rfl := Except.ok.inj hat
  have hhour : (0 : ℤ) = 1 := congrArg TimeParts.hour hshows
  exact absurd hhour (by decide)

end Runs

end Deliivo
