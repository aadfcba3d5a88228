import Bug.Primitive.DateTime
import Mathlib.Order.Basic

/-!
# Years of the Gregorian calendar

Days are counted from the first of January of year one of the proleptic
calendar.  Every day belongs to exactly one year, and the first of January of the
next year follows 365 or 366 days later.
-/

namespace Bug.Gregorian

open DateTime (daysBeforeYear)

def isLeapYear (year : Int) : Bool :=
  (year % 4 = 0 && year % 100 ≠ 0) || year % 400 = 0

def daysInYear (year : Int) : Nat :=
  if isLeapYear year then 366 else 365

theorem daysBeforeYear_succ (year : Int) :
    daysBeforeYear (year + 1) = daysBeforeYear year + daysInYear year := by
  rw [daysInYear]
  split
  · rename_i leap
    simp only [isLeapYear, Bool.or_eq_true, Bool.and_eq_true, decide_eq_true_eq] at leap
    rw [daysBeforeYear, daysBeforeYear]
    omega
  · rename_i common
    simp only [isLeapYear, Bool.or_eq_true, Bool.and_eq_true, decide_eq_true_eq] at common
    rw [daysBeforeYear, daysBeforeYear]
    omega

/-- The year of a day: the mean year is off by at most one. -/
def yearOf (day : Int) : Int :=
  let mean := day * 400 / 146097 + 1
  if day < daysBeforeYear mean then mean - 1
  else if daysBeforeYear (mean + 1) ≤ day then mean + 1
  else mean

/-- A day belongs to its year. -/
theorem daysBeforeYear_yearOf (day : Int) :
    daysBeforeYear (yearOf day) ≤ day ∧ day < daysBeforeYear (yearOf day + 1) := by
  rw [yearOf]
  generalize mean : day * 400 / 146097 = years
  split
  · rename_i before
    rw [daysBeforeYear] at before
    rw [daysBeforeYear, daysBeforeYear]
    omega
  · split
    · rename_i after
      rw [daysBeforeYear] at after
      rw [daysBeforeYear, daysBeforeYear]
      omega
    · rename_i notBefore notAfter
      exact ⟨Int.not_lt.mp notBefore, Int.not_le.mp notAfter⟩

theorem daysBeforeYear_lt_iff (first second : Int) :
    daysBeforeYear first < daysBeforeYear second ↔ first < second := by
  rw [daysBeforeYear, daysBeforeYear]
  omega

/-- The years part the days. -/
theorem yearOf_eq_iff (day year : Int) :
    yearOf day = year ↔ daysBeforeYear year ≤ day ∧ day < daysBeforeYear (year + 1) := by
  rcases daysBeforeYear_yearOf day with ⟨first, last⟩
  constructor
  · rintro rfl
    exact ⟨first, last⟩
  · rintro ⟨low, high⟩
    have notBefore := (daysBeforeYear_lt_iff _ _).mp (Int.lt_of_le_of_lt low last)
    have notAfter := (daysBeforeYear_lt_iff _ _).mp (Int.lt_of_le_of_lt first high)
    omega

end Bug.Gregorian
