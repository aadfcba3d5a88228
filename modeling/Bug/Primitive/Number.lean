import Mathlib.Algebra.Order.Group.Int
import Mathlib.Tactic.Ring

/-!
# Integers as doubles

An integer that is read as a double is rounded to 53 significant bits, a tie to
the even neighbour.  A double is printed as the shortest decimal that is read as
the same double, and among those of the same length as the nearest one.
Doubles below 10^21 are printed without an exponent.
-/

namespace Bug.Number

/-- The double next to a natural number. -/
def nearest (value : Nat) : Nat :=
  let unit := 2 ^ (value.log2 - 52)
  let low := value / unit
  let rest := value % unit
  if 2 * rest < unit ∨ 2 * rest = unit ∧ low % 2 = 0 then low * unit else (low + 1) * unit

/-- The nearest of the multiples of a power of ten that are read as a double. -/
def rounded (double places : Nat) : Option Nat :=
  let unit := 10 ^ places
  let low := double / unit * unit
  let high := (double / unit + 1) * unit
  if nearest low = double then
    if nearest high = double then
      if double - low < high - double ∨ double - low = high - double ∧ double / unit % 2 = 0
        then some low else some high
    else some low
  else if nearest high = double then some high
  else none

/-- The shortest decimal that ends in at most the given number of zeros. -/
def shortestWithin (double : Nat) : Nat → Nat
  | 0 => double
  | places + 1 => (rounded double (places + 1)).getD (shortestWithin double places)

/-- The value of the printed digits. -/
def shortest (double : Nat) : Nat :=
  shortestWithin double double.log2

/-- An integer that is read as a double. -/
def ofInteger (value : Int) : Int :=
  value.sign * nearest value.natAbs

/-- The decimal digits of a double that is an integer. -/
def print (double : Int) : String :=
  toString (double.sign * shortest double.natAbs)

/-! ## Reading -/

theorem nearest_of_lt {value : Nat} (small : value < 2 ^ 53) : nearest value = value := by
  have noBits : value.log2 - 52 = 0 := by
    by_cases zero : value = 0
    · rw [zero]
      rfl
    · have bits := (Nat.log2_lt zero).mpr small
      omega
  simp only [nearest, noBits, Nat.pow_zero, Nat.div_one, Nat.mod_one, Nat.mul_one]
  exact if_pos (.inl Nat.one_pos)

/-- Rounding keeps the first bit. -/
theorem le_nearest {value : Nat} (positive : value ≠ 0) : 2 ^ value.log2 ≤ nearest value := by
  have divides : 2 ^ (value.log2 - 52) ∣ 2 ^ value.log2 :=
    Nat.pow_dvd_pow 2 (Nat.sub_le value.log2 52)
  have low : 2 ^ value.log2 ≤ value / 2 ^ (value.log2 - 52) * 2 ^ (value.log2 - 52) := by
    rw [← Nat.div_mul_cancel divides]
    exact Nat.mul_le_mul_right _ (Nat.div_le_div_right (Nat.log2_self_le positive))
  simp only [nearest]
  split
  · exact low
  · exact low.trans (Nat.mul_le_mul_right _ (Nat.le_succ _))

theorem le_nearest_of_le {value : Nat} (large : 2 ^ 53 ≤ value) : 2 ^ 53 ≤ nearest value := by
  have positive : value ≠ 0 := by
    rintro rfl
    exact absurd large (by decide)
  exact (Nat.pow_le_pow_right (by decide) ((Nat.le_log2 positive).mpr large)).trans
    (le_nearest positive)

theorem nearest_eq_zero_iff {value : Nat} : nearest value = 0 ↔ value = 0 := by
  constructor
  · intro zero
    by_contra positive
    have first := le_nearest positive
    rw [zero] at first
    exact absurd first (Nat.not_le.mpr (Nat.two_pow_pos _))
  · rintro rfl
    rfl

theorem ofInteger_eq_zero_iff {value : Int} : ofInteger value = 0 ↔ value = 0 := by
  rw [ofInteger, Int.mul_eq_zero, Int.sign_eq_zero_iff_zero, Int.natCast_eq_zero,
    nearest_eq_zero_iff, Int.natAbs_eq_zero, or_self]

/-! ## Printing -/

/-- A double below 2^53 is the only integer that is read as itself. -/
theorem eq_of_nearest_eq {value double : Nat} (small : double < 2 ^ 53)
    (same : nearest value = double) : value = double := by
  by_cases exact : value < 2 ^ 53
  · rw [← same, nearest_of_lt exact]
  · have large := le_nearest_of_le (Nat.not_lt.mp exact)
    omega

theorem rounded_of_lt {double places printed : Nat} (small : double < 2 ^ 53)
    (round : rounded double places = some printed) : printed = double := by
  have reads : nearest printed = double := by
    simp only [rounded] at round
    split at round
    · rename_i lowReads
      split at round
      · rename_i highReads
        split at round
        · cases round
          exact lowReads
        · cases round
          exact highReads
      · cases round
        exact lowReads
    · split at round
      · rename_i highReads
        cases round
        exact highReads
      · cases round
  exact eq_of_nearest_eq small reads

theorem shortestWithin_of_lt {double : Nat} (small : double < 2 ^ 53) (places : Nat) :
    shortestWithin double places = double := by
  induction places with
  | zero => rfl
  | succ places inductionHypothesis =>
      rw [shortestWithin]
      cases round : rounded double (places + 1) with
      | none => exact inductionHypothesis
      | some printed => exact rounded_of_lt small round

/-- Below 2^53 an integer is printed as it is. -/
theorem print_ofInteger_of_lt {value : Int} (small : value.natAbs < 2 ^ 53) :
    print (ofInteger value) = toString value := by
  have exact : ofInteger value = value := by
    rw [ofInteger, nearest_of_lt small, Int.sign_mul_natAbs]
  rw [exact, print, shortest, shortestWithin_of_lt small, Int.sign_mul_natAbs]

example : print (ofInteger 9223372036854775807) = "9223372036854776000" := by
  decide

end Bug.Number
