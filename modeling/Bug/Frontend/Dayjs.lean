import Bug.Primitive.Gregorian
import Mathlib.Data.Rat.Cast.Order
import Mathlib.Tactic.Linarith

/-!
# Dates of the frontend

What the frontend uses of `dayjs`, in a time zone whose offset from UTC is fixed,
and its own plugins.  Local days are numbered from the first of January of year
one.  The place of a date in a calendar that begins with the week of the first of
January is the number of days since the Sunday of that week.
-/

namespace Bug.Frontend

open DateTime (daysBeforeYear)
open Gregorian

def milliSecondsPerDay : Int := 86400000

def daysPerWeek : Nat := 7

def saturday : Nat := 6

/-- An instant, in milliseconds since the Unix epoch. -/
structure Dayjs where
  valueOf : Int
  deriving DecidableEq

/-- The instant of a date of the backend, which is read to the millisecond. -/
def dayjs (date : DateTime) : Dayjs :=
  ⟨date.secs * 1000 + date.nsecs / 1000000⟩

namespace Dayjs

/-- The seconds since the Unix epoch. -/
def unix (date : Dayjs) : Int :=
  date.valueOf / 1000

/-- `pluginUnixMilli`. -/
def unixMilli (date : Dayjs) : Int :=
  date.unix * 1000

def addDay (date : Dayjs) : Dayjs :=
  ⟨date.valueOf + milliSecondsPerDay⟩

/-- `isBetween` without its optional arguments: both bounds are excluded. -/
def isBetween (date first last : Dayjs) : Bool :=
  decide (first.valueOf < date.valueOf) && decide (date.valueOf < last.valueOf)

section Local

-- The seconds east of UTC.
variable (utcOffset : Int)

/-- The local day of an instant. -/
def dayNumber (date : Dayjs) : Int :=
  (date.valueOf + utcOffset * 1000) / milliSecondsPerDay + daysBeforeYear 1970

/-- The start of a local day. -/
def midnight (dayNumber : Int) : Dayjs :=
  ⟨(dayNumber - daysBeforeYear 1970) * milliSecondsPerDay - utcOffset * 1000⟩

def startOfDay (date : Dayjs) : Dayjs :=
  midnight utcOffset (date.dayNumber utcOffset)

def year (date : Dayjs) : Int :=
  yearOf (date.dayNumber utcOffset)

def startOfYear (date : Dayjs) : Dayjs :=
  midnight utcOffset (daysBeforeYear (date.year utcOffset))

/-- The day of the week, from Sunday on. -/
def day (date : Dayjs) : Nat :=
  ((date.dayNumber utcOffset + 1) % daysPerWeek).toNat

/-- The day of the year, from one on. -/
def dayOfYear (date : Dayjs) : Int :=
  date.dayNumber utcOffset - daysBeforeYear (date.year utcOffset) + 1

/-- `pluginWeekAndDayOfYear`. -/
def weekAndDayOfYear (date : Dayjs) : ℚ × Nat :=
  let originDay := (date.startOfYear utcOffset).day utcOffset
  let day := date.day utcOffset
  ((date.dayOfYear utcOffset - (daysPerWeek - originDay) - day - 1) / daysPerWeek + 1, day)

/-! ## Places -/

theorem dayNumber_midnight (dayNumber : Int) :
    (midnight utcOffset dayNumber).dayNumber utcOffset = dayNumber := by
  simp [Dayjs.dayNumber, midnight, milliSecondsPerDay]

theorem midnight_injective : Function.Injective (midnight utcOffset) := by
  intro first second equal
  rw [← dayNumber_midnight utcOffset first, equal, dayNumber_midnight]

/-- The weekday of the first of January. -/
def originDay (year : Int) : Nat :=
  ((daysBeforeYear year + 1) % daysPerWeek).toNat

theorem day_startOfYear (date : Dayjs) :
    (date.startOfYear utcOffset).day utcOffset = originDay (date.year utcOffset) := by
  rw [day, startOfYear, dayNumber_midnight, originDay]

theorem originDay_lt (year : Int) : originDay year < daysPerWeek := by
  rw [originDay, daysPerWeek]
  omega

/-- The place of a date in the calendar of its year. -/
def place (date : Dayjs) : Nat :=
  originDay (date.year utcOffset) +
    (date.dayNumber utcOffset - daysBeforeYear (date.year utcOffset)).toNat

/-- Days of the year that have passed. -/
theorem dayNumber_sub_nonneg (date : Dayjs) :
    0 ≤ date.dayNumber utcOffset - daysBeforeYear (date.year utcOffset) := by
  have inside := daysBeforeYear_yearOf (date.dayNumber utcOffset)
  rw [year]
  omega

theorem day_eq_place_mod (date : Dayjs) :
    date.day utcOffset = date.place utcOffset % daysPerWeek := by
  have passed := date.dayNumber_sub_nonneg utcOffset
  rw [day, place, originDay, daysPerWeek]
  omega

/-- Week and day are the row and the column of the place. -/
theorem weekAndDayOfYear_eq (date : Dayjs) :
    date.weekAndDayOfYear utcOffset =
      (((date.place utcOffset / daysPerWeek : Nat) : ℚ), date.place utcOffset % daysPerWeek) := by
  have passed := Int.toNat_of_nonneg (date.dayNumber_sub_nonneg utcOffset)
  have rows := Nat.div_add_mod (date.place utcOffset) daysPerWeek
  rw [weekAndDayOfYear, day_startOfYear, day_eq_place_mod]
  generalize date.place utcOffset / daysPerWeek = row at rows
  generalize date.place utcOffset % daysPerWeek = column at rows
  rw [place] at rows
  have numbers : (daysPerWeek * row + column : ℚ) = originDay (date.year utcOffset) +
      (date.dayOfYear utcOffset - 1 : ℤ) := by
    rw [dayOfYear, Int.add_sub_cancel, ← passed]
    exact_mod_cast rows
  have seven : (daysPerWeek : ℚ) = 7 := rfl
  rw [seven] at numbers ⊢
  push_cast at numbers
  refine Prod.ext ?_ rfl
  linarith

/-- The places of the dates of a year. -/
def OfYear (year : Int) (place : Nat) : Prop :=
  originDay year ≤ place ∧ place < originDay year + daysInYear year

instance (year : Int) (place : Nat) : Decidable (OfYear year place) :=
  inferInstanceAs (Decidable (_ ∧ _))

theorem ofYear_place (date : Dayjs) : OfYear (date.year utcOffset) (date.place utcOffset) := by
  have inside := (daysBeforeYear_yearOf (date.dayNumber utcOffset)).2
  rw [← year, daysBeforeYear_succ] at inside
  have passed := date.dayNumber_sub_nonneg utcOffset
  rw [OfYear, place]
  omega

/-- The date at a place in the calendar of a year. -/
def dateAt (year : Int) (place : Nat) : Dayjs :=
  midnight utcOffset (daysBeforeYear year + place - originDay year)

theorem startOfDay_midnight (dayNumber : Int) :
    (midnight utcOffset dayNumber).startOfDay utcOffset = midnight utcOffset dayNumber := by
  rw [startOfDay, dayNumber_midnight]

theorem startOfDay_dateAt (year : Int) (place : Nat) :
    (dateAt utcOffset year place).startOfDay utcOffset = dateAt utcOffset year place :=
  startOfDay_midnight utcOffset _

theorem startOfDay_eq_dateAt_iff {date : Dayjs} {year : Int} {place : Nat}
    (ofYear : OfYear year place) :
    date.startOfDay utcOffset = dateAt utcOffset year place ↔
      date.year utcOffset = year ∧ date.place utcOffset = place := by
  rw [startOfDay, dateAt, (midnight_injective utcOffset).eq_iff]
  rcases ofYear with ⟨started, notOver⟩
  constructor
  · intro sameDay
    have sameYear : date.year utcOffset = year := by
      rw [Dayjs.year, yearOf_eq_iff, daysBeforeYear_succ, sameDay]
      omega
    rw [Dayjs.place, sameYear]
    omega
  · rintro ⟨rfl, rfl⟩
    have passed := date.dayNumber_sub_nonneg utcOffset
    rw [Dayjs.place]
    omega

theorem unixMilli_midnight (dayNumber : Int) :
    (midnight utcOffset dayNumber).unixMilli = (midnight utcOffset dayNumber).valueOf := by
  simp only [unixMilli, unix, midnight, milliSecondsPerDay]
  omega

theorem year_startOfYear (date : Dayjs) :
    (date.startOfYear utcOffset).year utcOffset = date.year utcOffset := by
  rw [year, startOfYear, dayNumber_midnight, yearOf_eq_iff]
  exact ⟨le_rfl, (daysBeforeYear_lt_iff _ _).mpr (lt_add_one _)⟩

end Local

end Dayjs

end Bug.Frontend
