import Mathlib.Tactic.Linarith
import Mathlib.Tactic.NormNum
import Mathlib.Tactic.Positivity

/-!
# The comparison with a threshold

The gate compares a sample with its threshold in the signed form of their type.
The arithmetic of such a type is that of the integers as long as the results fit,
and the negation of the least one is the only one here that does not.  The
comparison is then exact for the thresholds that have an absolute value.
-/

namespace Bug

namespace Dasp

/-- The arithmetic of a signed sample type.  With overflow checks an overflow
panics, which is `none`, and without them it wraps. -/
class SignedSample (σ : Type) where
  equilibrium : σ
  lt : σ → σ → Bool
  neg (overflowChecks : Bool) : σ → Option σ
  sub (overflowChecks : Bool) : σ → σ → Option σ

instance {width : Nat} : SignedSample (BitVec width) where
  equilibrium := 0
  lt := BitVec.slt
  neg overflowChecks sample :=
    if overflowChecks && sample.negOverflow then none else some (-sample)
  sub overflowChecks first second :=
    if overflowChecks && first.ssubOverflow second then none else some (first - second)

instance : SignedSample Int16 where
  equilibrium := 0
  lt first second := SignedSample.lt first.toBitVec second.toBitVec
  neg overflowChecks sample :=
    (SignedSample.neg overflowChecks sample.toBitVec).map Int16.ofBitVec
  sub overflowChecks first second :=
    (SignedSample.sub overflowChecks first.toBitVec second.toBitVec).map Int16.ofBitVec

/-- The arithmetic of a signed sample type as that of the integers of a width. -/
structure TwosComplement (σ : Type) [SignedSample σ] (width : Nat) (toInt : σ → Int) : Prop where
  toInt_lt : ∀ sample, toInt sample < 2 ^ (width - 1)
  equilibrium : toInt SignedSample.equilibrium = 0
  lt : ∀ first second, SignedSample.lt first second = decide (toInt first < toInt second)
  neg : ∀ overflowChecks sample, toInt sample ≠ -2 ^ (width - 1) →
    ∃ negated, SignedSample.neg overflowChecks sample = some negated ∧
      toInt negated = -toInt sample
  neg_least : ∀ sample, toInt sample = -2 ^ (width - 1) → SignedSample.neg true sample = none
  sub : ∀ overflowChecks first second, -2 ^ (width - 1) ≤ toInt first - toInt second →
    toInt first - toInt second < 2 ^ (width - 1) →
      ∃ difference, SignedSample.sub overflowChecks first second = some difference ∧
        toInt difference = toInt first - toInt second

theorem twosComplement_bitVec (width : Nat) :
    TwosComplement (BitVec width) width BitVec.toInt where
  toInt_lt _ := BitVec.toInt_lt
  equilibrium := BitVec.toInt_zero
  lt _ _ := BitVec.slt_eq_decide
  neg := by
    intro overflowChecks sample notLeast
    have fits : sample.negOverflow = false := by
      rw [BitVec.negOverflow, beq_eq_false_iff_ne]
      exact notLeast
    refine ⟨-sample, ?_, BitVec.toInt_neg_of_not_negOverflow (by simp [fits])⟩
    simp [SignedSample.neg, fits]
  neg_least := by
    intro sample least
    have overflows : sample.negOverflow = true := by
      rw [BitVec.negOverflow, beq_iff_eq]
      exact least
    simp [SignedSample.neg, overflows]
  sub := by
    intro overflowChecks first second low high
    have fits : first.ssubOverflow second = false := by
      rw [BitVec.ssubOverflow, Bool.or_eq_false_iff, decide_eq_false_iff_not,
        decide_eq_false_iff_not]
      exact ⟨high.not_ge, low.not_gt⟩
    refine ⟨first - second, ?_, BitVec.toInt_sub_of_not_ssubOverflow (by simp [fits])⟩
    simp [SignedSample.sub, fits]

theorem twosComplement_int16 : TwosComplement Int16 16 Int16.toInt where
  toInt_lt := Int16.toInt_lt
  equilibrium := rfl
  lt _ _ := BitVec.slt_eq_decide
  neg := by
    intro overflowChecks sample notLeast
    rcases (twosComplement_bitVec 16).neg overflowChecks sample.toBitVec notLeast with
      ⟨negated, kept, value⟩
    exact ⟨Int16.ofBitVec negated, congrArg (Option.map Int16.ofBitVec) kept, value⟩
  neg_least := by
    intro sample least
    exact congrArg (Option.map Int16.ofBitVec)
      ((twosComplement_bitVec 16).neg_least sample.toBitVec least)
  sub := by
    intro overflowChecks first second low high
    rcases (twosComplement_bitVec 16).sub overflowChecks first.toBitVec second.toBitVec low high
      with ⟨difference, kept, value⟩
    exact ⟨Int16.ofBitVec difference, congrArg (Option.map Int16.ofBitVec) kept, value⟩

/-- A sample type with its signed form. -/
class Sample (S : Type) (σ : outParam Type) where
  equilibrium : S
  toSignedSample : S → σ

instance : Sample Int16 Int16 where
  equilibrium := 0
  toSignedSample sample := sample

instance : Sample UInt16 Int16 where
  equilibrium := 32768
  toSignedSample sample := Int16.ofInt (sample.toNat - 32768)

section Width

-- Samples of any width.
variable {width : Nat}

instance : Sample (BitVec width) (BitVec width) where
  equilibrium := 0
  toSignedSample sample := sample

/-- A sample whose silence is the middle of its range. -/
structure Unsigned (width : Nat) where
  toBitVec : BitVec width

/-- The number that the signed form stands for. -/
def Unsigned.toInt (sample : Unsigned width) : Int :=
  sample.toBitVec.toNat - 2 ^ (width - 1)

instance : Sample (Unsigned width) (BitVec width) where
  equilibrium := ⟨BitVec.ofNat width (2 ^ (width - 1))⟩
  toSignedSample sample := BitVec.ofInt width sample.toInt

theorem Unsigned.toInt_toSignedSample (positive : 0 < width) (sample : Unsigned width) :
    (Sample.toSignedSample sample : BitVec width).toInt = sample.toInt := by
  have high : (sample.toBitVec.toNat : Int) < 2 ^ (width - 1 + 1) := by
    rw [Nat.sub_add_cancel positive]
    exact_mod_cast sample.toBitVec.isLt
  rw [pow_succ] at high
  apply BitVec.toInt_ofInt_eq_self positive
  · rw [Unsigned.toInt]
    omega
  · rw [Unsigned.toInt]
    omega

theorem Unsigned.toInt_equilibrium (positive : 0 < width) :
    (Sample.equilibrium : Unsigned width).toInt = 0 := by
  have inside : 2 ^ (width - 1) < 2 ^ width :=
    Nat.pow_lt_pow_right Nat.one_lt_two (Nat.sub_one_lt_of_lt positive)
  have half : (Sample.equilibrium : Unsigned width).toBitVec.toNat = 2 ^ (width - 1) :=
    Nat.mod_eq_of_lt inside
  rw [Unsigned.toInt, half]
  push_cast
  exact Int.sub_self _

end Width

end Dasp

namespace NoiseGate

open Dasp (SignedSample TwosComplement Unsigned)

section Below

variable {S σ : Type} [SignedSample σ] [Dasp.Sample S σ]

def abs (overflowChecks : Bool) (sample : σ) : Option σ :=
  let zero := SignedSample.equilibrium
  if !SignedSample.lt sample zero then some sample
  else SignedSample.neg overflowChecks sample

def belowThreshold (overflowChecks : Bool) (sample threshold : S) : Option Bool := do
  let sample := Dasp.Sample.toSignedSample sample
  let threshold ← abs overflowChecks (Dasp.Sample.toSignedSample threshold)
  let negatedThreshold ←
    SignedSample.sub overflowChecks
      (Dasp.Sample.toSignedSample (Dasp.Sample.equilibrium : S)) threshold
  return SignedSample.lt negatedThreshold sample && SignedSample.lt sample threshold

theorem belowThreshold_eq {overflowChecks : Bool} (threshold : S) {size negated : σ}
    (kept : abs overflowChecks (Dasp.Sample.toSignedSample threshold) = some size)
    (subtracted : SignedSample.sub overflowChecks
      (Dasp.Sample.toSignedSample (Dasp.Sample.equilibrium : S)) size = some negated)
    (sample : S) :
    belowThreshold overflowChecks sample threshold =
      some (SignedSample.lt negated (Dasp.Sample.toSignedSample sample) &&
        SignedSample.lt (Dasp.Sample.toSignedSample sample) size) := by
  simp only [belowThreshold, kept, Option.bind_eq_bind, Option.bind_some, subtracted]
  rfl

end Below

/-! ## The thresholds that are compared exactly -/

section Exact

variable {S σ : Type} [SignedSample σ] [Dasp.Sample S σ]

/-- In both builds the comparison is that of the absolute values, without an overflow. -/
def Exact (signed : S → Int) (sample threshold : S) : Prop :=
  ∀ overflowChecks, belowThreshold overflowChecks sample threshold =
    some (decide ((signed sample).natAbs < (signed threshold).natAbs))

variable {width : Nat} {toInt : σ → Int} (arithmetic : TwosComplement σ width toInt)
include arithmetic

theorem exists_abs (overflowChecks : Bool) {sample : σ}
    (notLeast : toInt sample ≠ -2 ^ (width - 1)) :
    ∃ size, abs overflowChecks sample = some size ∧ toInt size = (toInt sample).natAbs := by
  by_cases negative : toInt sample < 0
  · rcases arithmetic.neg overflowChecks sample notLeast with ⟨negated, kept, value⟩
    refine ⟨negated, ?_, ?_⟩
    · simp [abs, arithmetic.lt, arithmetic.equilibrium, negative, kept]
    · omega
  · refine ⟨sample, ?_, ?_⟩
    · simp [abs, arithmetic.lt, arithmetic.equilibrium, negative]
    · omega

/-- The least number has no absolute value. -/
theorem abs_least {sample : σ} (least : toInt sample = -2 ^ (width - 1)) :
    abs true sample = none := by
  have negative : toInt sample < 0 := by
    rw [least]
    exact neg_neg_of_pos (by positivity)
  simp [abs, arithmetic.lt, arithmetic.equilibrium, negative, arithmetic.neg_least sample least]

theorem exact_iff_ne_least (signed : S → Int)
    (conversion : ∀ sample : S, toInt (Dasp.Sample.toSignedSample sample) = signed sample)
    (silence : signed Dasp.Sample.equilibrium = 0) (sample threshold : S) :
    Exact signed sample threshold ↔ signed threshold ≠ -2 ^ (width - 1) := by
  constructor
  · intro exact least
    rw [← conversion] at least
    have overflows : belowThreshold true sample threshold = none := by
      rw [belowThreshold, abs_least arithmetic least]
      rfl
    have judged := exact true
    rw [overflows] at judged
    cases judged
  · intro notLeast overflowChecks
    rw [← conversion] at notLeast
    rcases exists_abs arithmetic overflowChecks notLeast with ⟨size, kept, value⟩
    have high := arithmetic.toInt_lt size
    have zero := (conversion Dasp.Sample.equilibrium).trans silence
    rcases arithmetic.sub overflowChecks (Dasp.Sample.toSignedSample (Dasp.Sample.equilibrium : S))
      size (by omega) (by omega) with ⟨negated, subtracted, difference⟩
    rw [belowThreshold_eq threshold kept subtracted sample, arithmetic.lt, arithmetic.lt,
      ← Bool.decide_and]
    apply congrArg
    apply decide_eq_decide.mpr
    rw [difference, zero, value, conversion, conversion]
    omega

end Exact

theorem exact_int16_iff (sample threshold : Int16) :
    Exact Int16.toInt sample threshold ↔ threshold ≠ Int16.minValue := by
  rw [exact_iff_ne_least Dasp.twosComplement_int16 Int16.toInt (fun _ => rfl) rfl, ne_eq, ne_eq,
    ← Int16.toInt_inj]
  rfl

/-- The threshold 0 of the unsigned samples of the program is the least signed one. -/
theorem exact_uint16_iff (sample threshold : UInt16) :
    Exact (fun sample : UInt16 => (sample.toNat - 32768 : Int)) sample threshold ↔
      threshold ≠ 0 := by
  have conversion (sample : UInt16) :
      (Dasp.Sample.toSignedSample sample : Int16).toInt = (sample.toNat : Int) - 32768 := by
    have high := sample.toNat_lt
    exact Int16.toInt_ofInt_of_le (by omega) (by omega)
  have zero : threshold = 0 ↔ threshold.toNat = 0 := UInt16.toNat_inj.symm
  rw [exact_iff_ne_least Dasp.twosComplement_int16 _ conversion (by decide), ne_eq, ne_eq, zero]
  omega

/-- The comparison is exact unless the threshold is the least signed number, which
is 0 in the unsigned form. -/
theorem exact_iff (width : Nat) (wide : 2 ≤ width) :
    (∀ sample threshold : BitVec width,
      Exact BitVec.toInt sample threshold ↔ threshold ≠ BitVec.intMin width) ∧
    ∀ sample threshold : Unsigned width,
      Exact Unsigned.toInt sample threshold ↔ threshold.toBitVec ≠ 0 := by
  have positive : 0 < width := Nat.zero_lt_of_lt wide
  have arithmetic := Dasp.twosComplement_bitVec width
  constructor
  · intro sample threshold
    rw [exact_iff_ne_least arithmetic BitVec.toInt (fun _ => rfl) BitVec.toInt_zero, ne_eq, ne_eq,
      ← BitVec.toInt_inj, BitVec.toInt_intMin_of_pos positive]
  · intro sample threshold
    have zero : threshold.toBitVec = 0 ↔ threshold.toBitVec.toNat = 0 := BitVec.toNat_inj.symm
    rw [exact_iff_ne_least arithmetic _ (Unsigned.toInt_toSignedSample positive)
      (Unsigned.toInt_equilibrium positive), ne_eq, ne_eq, zero, Unsigned.toInt]
    omega

/-- A negative threshold and the least unsigned one above 0. -/
theorem exact_iff_sixteen :
    Exact BitVec.toInt (100 : BitVec 16) (-101) ∧
      Exact Unsigned.toInt (⟨32768⟩ : Unsigned 16) ⟨1⟩ :=
  ⟨((exact_iff 16 (by decide)).1 100 (-101)).mpr (by decide),
    ((exact_iff 16 (by decide)).2 ⟨32768⟩ ⟨1⟩).mpr (by decide)⟩

/-- The threshold 0 of unsigned samples panics with overflow checks, and without
them even silence is not below it. -/
theorem not_exact_silence :
    belowThreshold true (⟨32768⟩ : Unsigned 16) ⟨0⟩ = none ∧
      belowThreshold false (⟨32768⟩ : Unsigned 16) ⟨0⟩ = some false ∧
      ¬Exact Unsigned.toInt (⟨32768⟩ : Unsigned 16) ⟨0⟩ := by
  refine ⟨rfl, rfl, ?_⟩
  intro exact
  cases exact true

end NoiseGate

end Bug
