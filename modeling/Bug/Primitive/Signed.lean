import Mathlib.Algebra.Order.Group.Int
import Mathlib.Tactic.Ring

/-!
# Signed integers of a fixed width

Machine arithmetic is exact as long as the exact result belongs to the type.
-/

namespace Bug

/-- The values of a signed integer with the given number of bits. -/
def Fits (width : Nat) (value : Int) : Prop :=
  -2 ^ (width - 1) ≤ value ∧ value < 2 ^ (width - 1)

instance (width : Nat) (value : Int) : Decidable (Fits width value) :=
  inferInstanceAs (Decidable (_ ∧ _))

theorem Fits.bmod_eq {width : Nat} {value : Int} (fits : Fits (width + 1) value) :
    value.bmod (2 ^ (width + 1)) = value := by
  have double : ((2 ^ (width + 1) : Nat) : Int) = 2 * 2 ^ width := by
    push_cast
    ring
  rcases fits with ⟨low, high⟩
  rw [Nat.add_sub_cancel] at low high
  apply Int.bmod_eq_of_le
  · rw [double]
    omega
  · rw [double]
    omega

/-! ## Exact operations -/

theorem toInt_add_of_fits {first second : Int16} (fits : Fits 16 (first.toInt + second.toInt)) :
    (first + second).toInt = first.toInt + second.toInt := by
  rw [Int16.toInt_add, fits.bmod_eq]

theorem toInt_sub_of_fits {first second : Int16} (fits : Fits 16 (first.toInt - second.toInt)) :
    (first - second).toInt = first.toInt - second.toInt := by
  rw [Int16.toInt_sub, fits.bmod_eq]

theorem toInt_mul_of_fits {first second : Int64} (fits : Fits 64 (first.toInt * second.toInt)) :
    (first * second).toInt = first.toInt * second.toInt := by
  rw [Int64.toInt_mul, fits.bmod_eq]

theorem fits_toInt16 (value : Int16) : Fits 16 value.toInt :=
  ⟨value.le_toInt, value.toInt_lt⟩

theorem fits_toInt32 (value : Int32) : Fits 32 value.toInt :=
  ⟨value.le_toInt, value.toInt_lt⟩

/-- A truncating division by a positive constant is exact. -/
theorem toInt_div_of_pos (dividend divisor : Int64) (positive : 0 < divisor.toInt) :
    (dividend / divisor).toInt = dividend.toInt.tdiv divisor.toInt := by
  apply Int64.toInt_div_of_ne_right
  rintro rfl
  exact absurd positive (by decide)

theorem natAbs_tdiv_le {value divisor : Int} (fits : Fits 64 value) (two : 2 ≤ divisor) :
    (value.tdiv divisor).natAbs ≤ 2 ^ 62 := by
  have halved : (value.tdiv divisor).natAbs ≤ value.natAbs / 2 := by
    rw [Int.natAbs_tdiv]
    exact Nat.div_le_div_left (by omega) (by decide)
  rcases fits with ⟨low, high⟩
  omega

/-- The accumulation of a quotient: the sum is formed in 64 bits and stored in
32. -/
theorem toInt_accumulate {total : Int32} {change : Int64} (small : change.toInt.natAbs ≤ 2 ^ 62)
    (fits : Fits 32 (total.toInt + change.toInt)) :
    (total.toInt64 + change).toInt32.toInt = total.toInt + change.toInt := by
  have low := total.le_toInt
  have high := total.toInt_lt
  have wide : Fits 64 (total.toInt + change.toInt) := by
    constructor
    · omega
    · omega
  rw [Int64.toInt_toInt32, Int64.toInt_add, Int32.toInt_toInt64, wide.bmod_eq, fits.bmod_eq]

end Bug
