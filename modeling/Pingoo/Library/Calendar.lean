import Mathlib.Data.Nat.Find

namespace Calendar

/-!
# The Gregorian calendar

Which dates exist, in which years a month and a day are a date, and the number
of a day.  Day 0 is the first of January of year 1; the calendar is extended to
all years before.
-/

/-- A leap year has a 29 February. -/
def IsLeapYear (year : Int) : Prop :=
  year % 4 = 0 ∧ (year % 100 ≠ 0 ∨ year % 400 = 0)

instance (year : Int) : Decidable (IsLeapYear year) :=
  inferInstanceAs (Decidable (_ ∧ _))

/-- A year that follows a leap year is not one. -/
theorem not_isLeapYear_succ {year : Int} (isLeap : IsLeapYear year) :
    ¬ IsLeapYear (year + 1) := by
  unfold IsLeapYear at *
  omega

/-- The number of days of a month of the year. -/
def monthLength (year : Int) (month : Nat) : Nat :=
  if month = 2 then
    if IsLeapYear year then 29 else 28
  else if month = 4 ∨ month = 6 ∨ month = 9 ∨ month = 11 then
    30
  else
    31

/-- The dates that exist. -/
structure IsDate (year : Int) (month day : Nat) : Prop where
  firstMonth : 1 ≤ month
  lastMonth : month ≤ 12
  firstDay : 1 ≤ day
  lastDay : day ≤ monthLength year month

instance (year : Int) (month day : Nat) : Decidable (IsDate year month day) :=
  decidable_of_iff
    (1 ≤ month ∧ month ≤ 12 ∧ 1 ≤ day ∧ day ≤ monthLength year month)
    ⟨fun ⟨first, last, firstDay, lastDay⟩ => ⟨first, last, firstDay, lastDay⟩,
      fun ⟨first, last, firstDay, lastDay⟩ =>
        ⟨first, last, firstDay, lastDay⟩⟩

/-- 29 February. -/
def IsLeapDay (month day : Nat) : Prop :=
  month = 2 ∧ day = 29

instance (month day : Nat) : Decidable (IsLeapDay month day) :=
  inferInstanceAs (Decidable (_ ∧ _))

section OtherYears

variable {year : Int} {month day : Nat}

/-- A 29 February is in a leap year. -/
theorem IsDate.isLeapYear
    (isDate : IsDate year month day)
    (isLeapDay : IsLeapDay month day) : IsLeapYear year := by
  obtain ⟨rfl, rfl⟩ := isLeapDay
  by_contra common
  have lastDay := isDate.lastDay
  rw [monthLength, if_pos rfl, if_neg common] at lastDay
  exact absurd lastDay (by decide)

/-- A date is one in another year too, unless it is a 29 February. -/
theorem IsDate.in_year_iff
    (isDate : IsDate year month day)
    (other : Int) :
    IsDate other month day ↔ IsLeapDay month day → IsLeapYear other := by
  constructor
  · intro isOther
    exact isOther.isLeapYear
  · intro leap
    refine ⟨isDate.firstMonth, isDate.lastMonth, isDate.firstDay, ?_⟩
    have lastDay := isDate.lastDay
    unfold IsLeapDay at leap
    unfold monthLength at lastDay ⊢
    by_cases isFebruary : month = 2
    · simp only [isFebruary, if_true, true_and] at lastDay leap ⊢
      by_cases isLast : day = 29
      · rw [if_pos (leap isLast), isLast]
      · split at lastDay
        · split <;> omega
        · split <;> omega
    · simp only [isFebruary, if_false] at lastDay ⊢
      exact lastDay

/-- The same day of the next year exists for all days but 29 February. -/
theorem IsDate.in_next_year_iff (isDate : IsDate year month day) :
    IsDate (year + 1) month day ↔ ¬ IsLeapDay month day := by
  rw [isDate.in_year_iff]
  constructor
  · intro leap isLeapDay
    exact not_isLeapYear_succ (isDate.isLeapYear isLeapDay) (leap isLeapDay)
  · intro notLeapDay isLeapDay
    exact absurd isLeapDay notLeapDay

end OtherYears

/-- The number of days before a year. -/
def daysBeforeYear (year : Int) : Int :=
  365 * (year - 1) + (year - 1) / 4 - (year - 1) / 100 + (year - 1) / 400

/-- The number of days of the first months of a year. -/
def daysOfMonths (year : Int) : Nat → Nat
  | 0 =>
      0
  | months + 1 =>
      daysOfMonths year months + monthLength year (months + 1)

/-- The number of a day. -/
def dayNumber (year : Int) (month day : Nat) : Int :=
  daysBeforeYear year + daysOfMonths year (month - 1) + (day - 1)

section Days

variable {year : Int} {months : Nat}

/-- A leap year has a day more, from its second month on. -/
theorem daysOfMonths_eq (year : Int) (months : Nat) :
    daysOfMonths year months =
      daysOfMonths 1 months +
        if 2 ≤ months ∧ IsLeapYear year then 1 else 0 := by
  have common : ¬ IsLeapYear 1 := by
    decide
  induction months with
  | zero =>
      rfl
  | succ months inductionHypothesis =>
      rw [daysOfMonths, daysOfMonths, inductionHypothesis]
      obtain rfl | other := eq_or_ne months 1
      · -- February is the month that differs
        by_cases isLeap : IsLeapYear year
        · simp [monthLength, isLeap, common]
        · simp [monthLength, isLeap, common]
      · have sameLength :
            monthLength year (months + 1) = monthLength 1 (months + 1) := by
          have notFebruary : months + 1 ≠ 2 := by
            omega
          rw [monthLength, monthLength, if_neg notFebruary, if_neg notFebruary]
        have sameBound : 2 ≤ months + 1 ↔ 2 ≤ months := by
          omega
        simp only [sameLength, sameBound]
        omega

/-- A year has 365 days, or 366. -/
theorem daysBeforeYear_succ (year : Int) :
    daysBeforeYear (year + 1) =
      daysBeforeYear year + daysOfMonths year 12 := by
  rw [daysOfMonths_eq]
  have common : daysOfMonths 1 12 = 365 := by
    decide
  rw [common]
  unfold daysBeforeYear IsLeapYear
  split <;> omega

/-- The same day of the next year is a later one. -/
theorem dayNumber_lt_next_year (year : Int) (month day : Nat) :
    dayNumber year month day < dayNumber (year + 1) month day := by
  have here := daysOfMonths_eq year (month - 1)
  have next := daysOfMonths_eq (year + 1) (month - 1)
  have whole := daysOfMonths_eq year 12
  have common : daysOfMonths 1 12 = 365 := by
    decide
  rw [dayNumber, dayNumber, daysBeforeYear_succ]
  have atMost : daysOfMonths year (month - 1) ≤
      daysOfMonths (year + 1) (month - 1) + 1 := by
    rw [here, next]
    split <;> omega
  omega

end Days

/-- The year of a day. -/
def yearOf (number : Int) : Int :=
  -- the mean length of a year is 146097 days in 400 years
  let estimate := 400 * number / 146097 + 1
  if number < daysBeforeYear estimate then
    estimate - 1
  else if number < daysBeforeYear (estimate + 1) then
    estimate
  else
    estimate + 1

/-- The months of the year that are over on a day of it. -/
def monthsBefore (year : Int) (dayOfYear : Nat) : Nat :=
  Nat.findGreatest (fun months => daysOfMonths year months ≤ dayOfYear) 11

theorem yearOf_spec (number : Int) :
    daysBeforeYear (yearOf number) ≤ number ∧
      number < daysBeforeYear (yearOf number + 1) := by
  unfold yearOf
  dsimp only
  split
  · next early =>
      unfold daysBeforeYear at *
      omega
  · next notEarly =>
      split
      · next inYear =>
          exact ⟨Int.not_lt.mp notEarly, inYear⟩
      · next late =>
          unfold daysBeforeYear at *
          omega

theorem monthsBefore_spec
    {year : Int}
    {dayOfYear : Nat}
    (inYear : dayOfYear < daysOfMonths year 12) :
    monthsBefore year dayOfYear ≤ 11 ∧
      daysOfMonths year (monthsBefore year dayOfYear) ≤ dayOfYear ∧
        dayOfYear < daysOfMonths year (monthsBefore year dayOfYear + 1) := by
  have atMost : monthsBefore year dayOfYear ≤ 11 :=
    Nat.findGreatest_le 11
  have isOver :
      daysOfMonths year (monthsBefore year dayOfYear) ≤ dayOfYear :=
    Nat.findGreatest_spec (P := fun months =>
      daysOfMonths year months ≤ dayOfYear) (Nat.zero_le 11) (Nat.zero_le _)
  refine ⟨atMost, isOver, ?_⟩
  rcases Nat.lt_or_ge (monthsBefore year dayOfYear) 11 with early | last
  · exact Nat.not_le.mp
      (Nat.findGreatest_is_greatest (P := fun months =>
        daysOfMonths year months ≤ dayOfYear) (Nat.lt_succ_self _) early)
  · rwa [Nat.le_antisymm atMost last]

/-- A date, which exists. -/
structure Date where
  year : Int
  month : Nat
  day : Nat
  isDate : IsDate year month day

namespace Date

/-- The number of the day of a date. -/
def number (date : Date) : Int :=
  dayNumber date.year date.month date.day

/-- How far a day is into its year. -/
def dayOfYear (number : Int) : Nat :=
  (number - daysBeforeYear (yearOf number)).toNat

theorem dayOfYear_lt (number : Int) :
    dayOfYear number < daysOfMonths (yearOf number) 12 := by
  have inYear := yearOf_spec number
  rw [daysBeforeYear_succ] at inYear
  unfold dayOfYear
  omega

/-- The date of a day. -/
def ofNumber (number : Int) : Date where
  year :=
    yearOf number
  month :=
    monthsBefore (yearOf number) (dayOfYear number) + 1
  day :=
    dayOfYear number -
      daysOfMonths (yearOf number)
        (monthsBefore (yearOf number) (dayOfYear number)) + 1
  isDate := by
    have inYear := monthsBefore_spec (dayOfYear_lt number)
    rw [daysOfMonths] at inYear
    exact ⟨by omega, by omega, by omega, by omega⟩

/-- The date of a day is on that day. -/
theorem number_ofNumber (number : Int) : (ofNumber number).number = number := by
  have inYear := monthsBefore_spec (dayOfYear_lt number)
  have begun := (yearOf_spec number).1
  unfold Date.number dayNumber ofNumber
  simp only [Nat.add_sub_cancel]
  unfold dayOfYear at *
  omega

/-- The first of January of year 1. -/
example : (ofNumber 0).month = 1 ∧ (ofNumber 0).day = 1 := by
  decide +kernel

end Date

end Calendar
