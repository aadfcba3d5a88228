import Bug.Audio.NoiseGate
import Bug.Audio.Threshold
import Mathlib.Data.Rat.Floor
import Mathlib.Tactic.Linarith
import Mathlib.Tactic.NormNum

/-!
# Loudness in the three sample formats

The threshold is one number of the command line, which each format casts to its
own sample type.  The numbers of the F32 format are exact rationals here.
-/

namespace Bug

namespace Dasp

instance : SignedSample ℚ where
  equilibrium := 0
  lt first second := decide (first < second)
  neg _ sample := some (-sample)
  sub _ first second := some (first - second)

instance : Sample ℚ ℚ where
  equilibrium := 0
  toSignedSample sample := sample

end Dasp

namespace NoiseGate

open Dasp (SignedSample)

/-- Whether the gate takes a sample for a quiet one. -/
def judges {S σ : Type} [SignedSample σ] [Dasp.Sample S σ] (overflowChecks : Bool)
    (gate : NoiseGate S) (sample : S) : Option Bool :=
  belowThreshold overflowChecks sample gate.openThreshold

/-! ## The gates of the three formats -/

/-- A cast to an integer type drops the fraction and saturates. -/
def saturate (least greatest : Int) (value : ℚ) : Int :=
  max least (min greatest (if 0 ≤ value then ⌊value⌋ else ⌈value⌉))

def asI16 (value : ℚ) : Int16 :=
  Int16.ofInt (saturate (-32768) 32767 value)

def asU16 (value : ℚ) : UInt16 :=
  UInt16.ofNat (saturate 0 65535 value).toNat

def ofF32 (openThreshold : ℚ) (releaseSampleCount : Nat) : NoiseGate ℚ :=
  new openThreshold releaseSampleCount

def ofI16 (openThreshold : ℚ) (releaseSampleCount : Nat) : NoiseGate Int16 :=
  new (asI16 openThreshold) releaseSampleCount

def ofU16 (openThreshold : ℚ) (releaseSampleCount : Nat) : NoiseGate UInt16 :=
  new (asU16 openThreshold) releaseSampleCount

/-- The unsigned form of a signed sample. -/
def offsetBinary (sample : Int16) : UInt16 :=
  UInt16.ofNat (sample.toInt + 32768).toNat

/-- The gates of the integer formats judge a sample as the gate of the F32 format
judges its fraction of the full scale. -/
def Agree (overflowChecks : Bool) (openThreshold : ℚ) (releaseSampleCount : Nat)
    (sample : Int16) : Prop :=
  let fraction := judges overflowChecks (ofF32 openThreshold releaseSampleCount)
    (sample.toInt / 32768)
  judges overflowChecks (ofI16 openThreshold releaseSampleCount) sample = fraction ∧
    judges overflowChecks (ofU16 openThreshold releaseSampleCount) (offsetBinary sample) = fraction

theorem toNat_offsetBinary (sample : Int16) :
    ((offsetBinary sample).toNat : Int) - 32768 = sample.toInt := by
  have low := sample.le_toInt
  have high := sample.toInt_lt
  have inside : (sample.toInt + 32768).toNat < 2 ^ 16 := by omega
  rw [offsetBinary, UInt16.toNat_ofNat_of_lt' inside]
  omega

theorem judges_ofF32 (overflowChecks : Bool) {openThreshold : ℚ} (positive : 0 < openThreshold)
    (releaseSampleCount : Nat) (sample : ℚ) :
    judges overflowChecks (ofF32 openThreshold releaseSampleCount) sample =
      some (decide (|sample| < openThreshold)) := by
  have kept : abs overflowChecks openThreshold = some openThreshold := by
    have loud : ¬ openThreshold < 0 := not_lt.mpr positive.le
    simp [abs, SignedSample.lt, SignedSample.equilibrium, loud]
  simp only [judges, belowThreshold, ofF32, new, Dasp.Sample.toSignedSample, kept,
    SignedSample.sub, SignedSample.lt, Dasp.Sample.equilibrium]
  simp [abs_lt]

/-! ## Thresholds below the full scale -/

section Fraction

variable {openThreshold : ℚ} (positive : 0 < openThreshold) (fraction : openThreshold < 1)
include positive fraction

/-- Both integer casts drop all of the threshold. -/
theorem saturate_of_fraction {least greatest : Int} (low : least ≤ 0) (high : 0 ≤ greatest) :
    saturate least greatest openThreshold = 0 := by
  rw [saturate, if_pos positive.le, Int.floor_eq_zero_iff.mpr ⟨positive.le, fraction⟩,
    min_eq_right high, max_eq_right low]

/-- No sample is below a threshold of 0. -/
theorem judges_ofI16_of_fraction (overflowChecks : Bool) (releaseSampleCount : Nat)
    (sample : Int16) :
    judges overflowChecks (ofI16 openThreshold releaseSampleCount) sample = some false := by
  have cast : asI16 openThreshold = 0 := by
    rw [asI16, saturate_of_fraction positive fraction (by decide) (by decide)]
    rfl
  have exact := (exact_int16_iff sample 0).mpr (by decide) overflowChecks
  rw [judges, ofI16, new, cast, exact, Int16.toInt_zero]
  simp

/-- The threshold 0 of the unsigned format is the least signed sample, which has no
absolute value. -/
theorem judges_ofU16_of_fraction (overflowChecks : Bool) (releaseSampleCount : Nat)
    (sample : UInt16) :
    judges overflowChecks (ofU16 openThreshold releaseSampleCount) sample =
      if overflowChecks then none else some false := by
  have cast : asU16 openThreshold = 0 := by
    rw [asU16, saturate_of_fraction positive fraction (by decide) (by decide)]
    rfl
  rw [judges, ofU16, new, cast]
  cases overflowChecks with
  | true => rfl
  | false =>
      have judged : belowThreshold false sample (0 : UInt16) =
          some (SignedSample.lt (-32768) (Dasp.Sample.toSignedSample sample : Int16) &&
            SignedSample.lt (Dasp.Sample.toSignedSample sample : Int16) (-32768)) := rfl
      rw [judged, Dasp.twosComplement_int16.lt, Dasp.twosComplement_int16.lt]
      simp only [Bool.false_eq_true, if_false, Option.some.injEq, Bool.and_eq_false_iff,
        decide_eq_false_iff_not]
      omega

end Fraction

/-! ## The full scale as threshold -/

theorem judges_ofI16_one (overflowChecks : Bool) (releaseSampleCount : Nat) (sample : Int16) :
    judges overflowChecks (ofI16 1 releaseSampleCount) sample = some (decide (sample = 0)) := by
  have cast : asI16 1 = 1 := by
    rw [asI16, saturate, if_pos zero_le_one, Int.floor_one]
    rfl
  have exact := (exact_int16_iff sample 1).mpr (by decide) overflowChecks
  have zero : sample = 0 ↔ sample.toInt = 0 := Int16.toInt_inj.symm
  have one : (1 : Int16).toInt.natAbs = 1 := rfl
  rw [judges, ofI16, new, cast, exact, one]
  apply congrArg
  apply decide_eq_decide.mpr
  rw [zero]
  omega

theorem judges_ofU16_one (overflowChecks : Bool) (releaseSampleCount : Nat) (sample : Int16) :
    judges overflowChecks (ofU16 1 releaseSampleCount) (offsetBinary sample) =
      some (decide (sample.toInt.natAbs < 32767)) := by
  have cast : asU16 1 = 1 := by
    rw [asU16, saturate, if_pos zero_le_one, Int.floor_one]
    rfl
  have exact := (exact_uint16_iff (offsetBinary sample) 1).mpr (by decide) overflowChecks
  simp only [toNat_offsetBinary] at exact
  rw [judges, ofU16, new, cast, exact]
  rfl

/-- A sample is below the full scale unless it is the least one. -/
theorem judges_ofF32_one (overflowChecks : Bool) (releaseSampleCount : Nat) (sample : Int16) :
    judges overflowChecks (ofF32 1 releaseSampleCount) (sample.toInt / 32768) =
      some (decide (sample ≠ -32768)) := by
  have low := sample.le_toInt
  have high := sample.toInt_lt
  have least : sample = -32768 ↔ sample.toInt = -32768 := Int16.toInt_inj.symm
  rw [judges_ofF32 overflowChecks zero_lt_one]
  apply congrArg
  apply decide_eq_decide.mpr
  rw [abs_lt, ne_eq, least, div_lt_one (by norm_num), lt_div_iff₀ (by norm_num)]
  norm_cast
  omega

/-! ## Agreement -/

/-- The gates agree exactly on silence and the least sample at the full scale, and
below it, without overflow checks, on the samples that reach the threshold. -/
theorem agree_iff (overflowChecks : Bool) (openThreshold : ℚ) (positive : 0 < openThreshold)
    (atMost : openThreshold ≤ 1) (releaseSampleCount : Nat) (sample : Int16) :
    Agree overflowChecks openThreshold releaseSampleCount sample ↔
      openThreshold = 1 ∧ (sample = 0 ∨ sample = -32768) ∨
        overflowChecks = false ∧ openThreshold < 1 ∧
          32768 * openThreshold ≤ sample.toInt.natAbs := by
  rcases atMost.eq_or_lt with rfl | fraction
  · have low := sample.le_toInt
    have high := sample.toInt_lt
    have zero : sample = 0 ↔ sample.toInt = 0 := Int16.toInt_inj.symm
    have least : sample = -32768 ↔ sample.toInt = -32768 := Int16.toInt_inj.symm
    simp only [Agree, judges_ofF32_one, judges_ofI16_one, judges_ofU16_one, Option.some.injEq,
      decide_eq_decide, ne_eq, zero, least, lt_irrefl, false_and, and_false, or_false, true_and]
    omega
  · have loud : |(sample.toInt : ℚ) / 32768| < openThreshold ↔
        ¬ 32768 * openThreshold ≤ sample.toInt.natAbs := by
      rw [Nat.cast_natAbs, Int.cast_abs, not_le, abs_div, div_lt_iff₀ (by norm_num), mul_comm]
      norm_num
    simp only [Agree, judges_ofF32 overflowChecks positive, loud,
      judges_ofI16_of_fraction positive fraction, judges_ofU16_of_fraction positive fraction,
      fraction.ne, fraction, false_and, false_or, true_and]
    cases overflowChecks with
    | true => simp
    | false => simp

/-- At the full scale all three gates take silence for quiet. -/
theorem agree_iff_silence : Agree true 1 22050 0 :=
  (agree_iff true 1 (by norm_num) le_rfl 22050 0).mpr (Or.inl ⟨rfl, Or.inl rfl⟩)

/-- With the default threshold, silence is quiet for the gate of the F32 format
only. -/
theorem not_agree_silence : ¬ Agree false (1 / 10) 22050 0 := by
  rintro ⟨signed, -⟩
  rw [judges_ofI16_of_fraction (by norm_num) (by norm_num), judges_ofF32 false (by norm_num)]
    at signed
  norm_num [Int16.toInt_zero] at signed

end NoiseGate

end Bug
