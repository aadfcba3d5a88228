import Mathlib.Data.Int.Notation

/-!
# Instants and clocks

The part of `chrono` that the backend uses.  `NaiveDateTime::from_timestamp`
panics outside the calendar years it can represent and on nanoseconds past the
leap-second range; a panic is `none`.
-/

namespace Bug

/-- An instant in UTC: seconds since the Unix epoch and nanoseconds. -/
structure DateTime where
  secs : Int
  nsecs : Nat
  deriving DecidableEq

namespace DateTime

/-- Days from the first of January of year one to the first of January of
`year` in the proleptic Gregorian calendar. -/
def daysBeforeYear (year : Int) : Int :=
  365 * (year - 1) + (year - 1) / 4 - (year - 1) / 100 + (year - 1) / 400

/-- The first second of the year -262144. -/
def minTimestamp : Int :=
  (daysBeforeYear (-262144) - daysBeforeYear 1970) * 86400

/-- The last second of the year 262143. -/
def maxTimestamp : Int :=
  (daysBeforeYear 262144 - daysBeforeYear 1970) * 86400 - 1

/-- The seconds that belong to a representable calendar date. -/
def InRange (secs : Int64) : Prop :=
  minTimestamp ≤ secs.toInt ∧ secs.toInt ≤ maxTimestamp

instance (secs : Int64) : Decidable (InRange secs) :=
  inferInstanceAs (Decidable (_ ∧ _))

/-- `NaiveDateTime::from_timestamp` read in UTC. -/
def fromTimestamp (secs : Int64) (nsecs : UInt32) : Option DateTime :=
  if InRange secs ∧ nsecs.toNat < 2000000000 then
    some ⟨secs.toInt, nsecs.toNat⟩
  else
    none

/-- The derived order: by the seconds, then by the nanoseconds. -/
instance : LE DateTime where
  le first second :=
    first.secs < second.secs ∨ first.secs = second.secs ∧ first.nsecs ≤ second.nsecs

instance (first second : DateTime) : Decidable (first ≤ second) :=
  inferInstanceAs (Decidable (_ ∨ _))

theorem le_iff (first second : DateTime) :
    first ≤ second ↔
      first.secs < second.secs ∨ first.secs = second.secs ∧ first.nsecs ≤ second.nsecs :=
  Iff.rfl

end DateTime

/-- The wall clock of the host: the current Unix time and the offset of the
local time zone, in seconds. -/
structure Clock where
  unixSecs : Int
  offsetSecs : Int

namespace Clock

/-- `Timelike::second` of the local time: the second within the minute. -/
def second (clock : Clock) : Int64 :=
  Int64.ofInt ((clock.unixSecs + clock.offsetSecs) % 60)

theorem toInt_second (clock : Clock) :
    clock.second.toInt = (clock.unixSecs + clock.offsetSecs) % 60 := by
  apply Int64.toInt_ofInt_of_le
  · omega
  · omega

theorem inRange_second (clock : Clock) : DateTime.InRange clock.second := by
  rw [DateTime.InRange, toInt_second]
  have low : DateTime.minTimestamp ≤ 0 := by decide
  have high : 59 ≤ DateTime.maxTimestamp := by decide
  omega

/-- The second of the local minute is the Unix time only within the first minute
of the epoch, in a zone whose offset is made of whole minutes. -/
theorem second_eq_unixSecs_iff (clock : Clock) :
    clock.second.toInt = clock.unixSecs ↔
      0 ≤ clock.unixSecs ∧ clock.unixSecs < 60 ∧ clock.offsetSecs % 60 = 0 := by
  rw [toInt_second]
  omega

end Clock

end Bug
