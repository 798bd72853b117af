import Mathlib.Data.Nat.Find
import Mathlib.Tactic

/-!
# The civil calendar

The date of a day that is counted from the beginning of 1970, as clocks that count milliseconds print
it. The year of a day is the last one that has begun by then; its months are walked through by their
lengths.

## Main definitions

* `Calendar.dayFromYear`, `Calendar.yearFromDay`: the first day of a year, and the year of a day
* `Calendar.dateFromDay`, `Calendar.dayOfDate`: the date of a day, and the day of a date

## Main results

* `dayOfDate_dateFromDay`: a date names one day
* `monthStart_le`, `lt_monthStart_add`: the days of a month follow its first day, within 31 days
-/

namespace Calendar

def msPerDay : ℕ := 24 * 60 * 60 * 1000

/-- The day on which a year begins. -/
def dayFromYear (year : ℕ) : ℕ :=
  365 * (year - 1970) + (year - 1969) / 4 - (year - 1901) / 100 + (year - 1601) / 400

/-- The last year that has begun by a day. -/
def yearFromDay (day : ℕ) : ℕ :=
  Nat.findGreatest (fun year => dayFromYear year ≤ day) (1970 + day / 365)

def isLeap (year : ℕ) : Bool := year % 4 == 0 && (year % 100 != 0 || year % 400 == 0)

def monthLengths (year : ℕ) : List ℕ :=
  [31, if isLeap year then 29 else 28, 31, 30, 31, 30, 31, 31, 30, 31, 30, 31]

/-- Which of some stretches of days one falls into, and how far. -/
def locate : List ℕ → ℕ → ℕ × ℕ
  | [], day => (0, day)
  | length :: lengths, day =>
    if day < length then (0, day)
    else ((locate lengths (day - length)).1 + 1, (locate lengths (day - length)).2)

structure Date where
  year : ℕ
  month : ℕ
  day : ℕ
  deriving DecidableEq

def dateFromDay (day : ℕ) : Date :=
  let year := yearFromDay day
  let place := locate (monthLengths year) (day - dayFromYear year)
  { year := year
    month := place.1 + 1
    day := place.2 + 1 }

/-- The day on which a month begins. -/
def monthStart (year month : ℕ) : ℕ :=
  dayFromYear year + ((monthLengths year).take (month - 1)).sum

def dayOfDate (date : Date) : ℕ := monthStart date.year date.month + (date.day - 1)

/-! ## Years -/

theorem dayFromYear_yearFromDay_le (day : ℕ) : dayFromYear (yearFromDay day) ≤ day :=
  Nat.findGreatest_spec (P := fun year => dayFromYear year ≤ day) (Nat.le_add_right 1970 _)
    (Nat.zero_le day)

theorem le_yearFromDay (day : ℕ) : 1970 ≤ yearFromDay day :=
  Nat.le_findGreatest (Nat.le_add_right 1970 _) (Nat.zero_le day)

theorem lt_dayFromYear_succ (day : ℕ) : day < dayFromYear (yearFromDay day + 1) := by
  rcases Nat.lt_or_ge (yearFromDay day) (1970 + day / 365) with hlt | hge
  · have hnot : ¬ dayFromYear (yearFromDay day + 1) ≤ day :=
      Nat.findGreatest_is_greatest (P := fun year => dayFromYear year ≤ day)
        (n := 1970 + day / 365) (k := yearFromDay day + 1) (Nat.lt_succ_self (yearFromDay day)) hlt
    exact not_le.mp hnot
  · -- the bound of the search leaves room: no year is shorter than 365 days
    have hdiv := Nat.div_add_mod day 365
    have hmod := Nat.mod_lt day (by omega : 365 > 0)
    rw [dayFromYear]
    omega

/-- How many years in a cycle of `n` have passed, a year later. -/
theorem succ_sub_div {year base n : ℕ} (h : base < year) (hbase : n ∣ base) :
    (year + 1 - (base + 1)) / n = (year - (base + 1)) / n + if year % n = 0 then 1 else 0 := by
  have hsucc : year + 1 - (base + 1) = (year - (base + 1)) + 1 := by omega
  have hdvd : n ∣ year - (base + 1) + 1 ↔ year % n = 0 := by
    have heq : year - (base + 1) + 1 = year - base := by omega
    rw [heq, ← Nat.dvd_iff_mod_eq_zero, Nat.dvd_sub_iff_left (Nat.le_of_lt h) hbase]
  rw [hsucc, Nat.succ_div]
  simp only [hdvd]

theorem dayFromYear_succ {year : ℕ} (h : 1970 ≤ year) :
    dayFromYear (year + 1) = dayFromYear year + (monthLengths year).sum := by
  have hsum : (monthLengths year).sum = 365 + if isLeap year then 1 else 0 := by
    cases hleap : isLeap year with
    | true => simp [monthLengths, hleap]
    | false => simp [monthLengths, hleap]
  have hleap : (if isLeap year then 1 else 0) + (if year % 100 = 0 then 1 else 0) =
      (if year % 4 = 0 then 1 else 0) + if year % 400 = 0 then 1 else 0 := by
    simp only [isLeap, Bool.and_eq_true, Bool.or_eq_true, beq_iff_eq, bne_iff_ne]
    split_ifs <;> omega
  have hfour := succ_sub_div (n := 4) (by omega : 1968 < year) (by omega)
  have hcentury := succ_sub_div (n := 100) (by omega : 1900 < year) (by omega)
  have hcycle := succ_sub_div (n := 400) (by omega : 1600 < year) (by omega)
  rw [hsum, dayFromYear, dayFromYear, hfour, hcentury, hcycle]
  omega

/-! ## Months -/

theorem locate_spec {lengths : List ℕ} {day : ℕ} (h : day < lengths.sum) :
    (lengths.take (locate lengths day).1).sum + (locate lengths day).2 = day ∧
      ∃ length ∈ lengths, (locate lengths day).2 < length := by
  induction lengths generalizing day with
  | nil => exact absurd h (Nat.not_lt_zero day)
  | cons length lengths ih =>
    rw [List.sum_cons] at h
    by_cases hlt : day < length
    · simp only [locate, if_pos hlt, List.take_zero, List.sum_nil, Nat.zero_add]
      exact ⟨trivial, length, List.mem_cons_self, hlt⟩
    · obtain ⟨hday, l, hl, hlast⟩ := @ih (day - length) (by omega)
      simp only [locate, if_neg hlt, List.take_succ_cons, List.sum_cons]
      exact ⟨by omega, l, List.mem_cons_of_mem _ hl, hlast⟩

theorem mem_monthLengths_le {year length : ℕ} (h : length ∈ monthLengths year) : length ≤ 31 := by
  simp only [monthLengths, List.mem_cons, List.not_mem_nil, or_false] at h
  split_ifs at h <;> omega

/-- How a day lies in its year. -/
theorem locate_dateFromDay (day : ℕ) :
    monthStart (dateFromDay day).year (dateFromDay day).month + ((dateFromDay day).day - 1) = day ∧
      (dateFromDay day).day - 1 < 31 := by
  have hbegun := dayFromYear_yearFromDay_le day
  have hended := lt_dayFromYear_succ day
  rw [dayFromYear_succ (le_yearFromDay day)] at hended
  obtain ⟨hplace, length, hlength, hlast⟩ :=
    locate_spec (by omega : day - dayFromYear (yearFromDay day) < (monthLengths (yearFromDay day)).sum)
  simp only [dateFromDay, monthStart, Nat.add_sub_cancel]
  exact ⟨by omega, lt_of_lt_of_le hlast (mem_monthLengths_le hlength)⟩

/-- **A date names one day.** -/
theorem dayOfDate_dateFromDay (day : ℕ) : dayOfDate (dateFromDay day) = day :=
  (locate_dateFromDay day).1

theorem monthStart_le (day : ℕ) :
    monthStart (dateFromDay day).year (dateFromDay day).month ≤ day := by
  have h := (locate_dateFromDay day).1
  omega

theorem lt_monthStart_add (day : ℕ) :
    day < monthStart (dateFromDay day).year (dateFromDay day).month + 31 := by
  obtain ⟨hday, hlast⟩ := locate_dateFromDay day
  omega

example : dateFromDay 20512 = { year := 2026, month := 2, day := 28 } := by decide +kernel

end Calendar
