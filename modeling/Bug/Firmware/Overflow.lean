import Bug.Firmware.Integration
import Mathlib.Data.List.Range
import Mathlib.Tactic.Linarith

/-!
# Where the integration overflows

The tracker beside the same tracker over unbounded integers.  They agree exactly
as long as every corrected reading and every sum of two of them fits into 16 bits
and every velocity and position into 32.  Within the full scale of the
accelerometer only a position can be the first to leave its type, since a velocity
that does so has covered more than all positions on its way.  Within 10922 samples
none does; a constant acceleration brings it about at the next one.
-/

namespace Bug.Firmware

open Bug.Transition

/-- The tracker over unbounded integers. -/
structure ExactTracker where
  noiseGate : NoiseGate Int64
  last : ExactAxes
  curr : ExactAxes
  velocity : ExactAxes
  position : ExactAxes
  /-- A record is in progress. -/
  recording : Bool

namespace ExactTracker

def exceeds (curr : ExactAxes) (rhs : Int64) : Bool :=
  decide (rhs.toInt < curr.1.natAbs) || decide (rhs.toInt < curr.2.1.natAbs) ||
    decide (rhs.toInt < curr.2.2.natAbs)

def new (bias axes : ExactAxes) : ExactTracker where
  noiseGate := .new noiseGateThreshold noiseGateReleaseCount
  last := 0
  curr := axes - bias
  velocity := 0
  position := 0
  recording := false

def sampled (bias : ExactAxes) (tracker : ExactTracker) (axes : ExactAxes) : ExactTracker :=
  { tracker with
    last := tracker.curr
    curr := axes - bias
    noiseGate := tracker.noiseGate.nextState exceeds (axes - bias) }

def record (duration : Int) (tracker : ExactTracker) : ExactTracker :=
  let moved := exactMove tracker.curr tracker.last duration
    (if tracker.recording then tracker.velocity else 0) tracker.position
  { tracker with
    velocity := moved.1
    position := moved.2
    recording := true }

def sampleCallback (bias : ExactAxes) (duration : Int) (tracker : ExactTracker)
    (axes : ExactAxes) : ExactTracker :=
  if (tracker.sampled bias axes).noiseGate.isOpened then
    (tracker.sampled bias axes).record duration
  else if tracker.noiseGate.isOpened then
    { tracker.sampled bias axes with recording := false }
  else
    tracker.sampled bias axes

/-- The integration of readings that are taken every 30 ms. -/
def integrate (bias : Axes) (reading : Reading) (readings : List Reading) : ExactTracker :=
  readings.foldl (fun tracker reading =>
    tracker.sampleCallback (exactAxes bias) 30 (exactAxes reading.axes))
    (new (exactAxes bias) (exactAxes reading.axes))

theorem integrate_concat (bias : Axes) (reading : Reading) (readings : List Reading)
    (last : Reading) :
    integrate bias reading (readings ++ [last]) =
      (integrate bias reading readings).sampleCallback (exactAxes bias) 30
        (exactAxes last.axes) := by
  simp [integrate]

end ExactTracker

/-! ## Agreement -/

/-- All three axes belong to a signed type. -/
def AxesFit (width : Nat) (axes : ExactAxes) : Prop :=
  Fits width axes.1 ∧ Fits width axes.2.1 ∧ Fits width axes.2.2

/-- What the tracker would have to store belongs to the types it has. -/
structure ExactTracker.Bounded (exact : ExactTracker) : Prop where
  difference : AxesFit 16 exact.curr
  sum : exact.recording = true → AxesFit 16 (exact.curr + exact.last)
  velocity : AxesFit 32 exact.velocity
  position : AxesFit 32 exact.position

namespace PositionTracker

/-- The sums of the last two corrected readings, as the tracker computes them. -/
def sums (tracker : PositionTracker) : Axes :=
  (tracker.acceleration.curr.1 + tracker.acceleration.last.1,
    tracker.acceleration.curr.2.1 + tracker.acceleration.last.2.1,
    tracker.acceleration.curr.2.2 + tracker.acceleration.last.2.2)

/-- The tracker holds what the unbounded integration holds. -/
structure Agrees (tracker : PositionTracker) (exact : ExactTracker) : Prop where
  difference : exactAxes tracker.acceleration.curr = exact.curr
  sum : exact.recording = true → exactAxes tracker.sums = exact.curr + exact.last
  velocity : exactCoordinates tracker.velocity = exact.velocity
  position : exactCoordinates tracker.position = exact.position

theorem fit_exactAxes (axes : Axes) : AxesFit 16 (exactAxes axes) :=
  ⟨fits_toInt16 _, fits_toInt16 _, fits_toInt16 _⟩

theorem fit_exactCoordinates (coordinates : Coordinates) :
    AxesFit 32 (exactCoordinates coordinates) :=
  ⟨fits_toInt32 _, fits_toInt32 _, fits_toInt32 _⟩

/-- What a tracker agrees with is bounded. -/
theorem Agrees.bounded {tracker : PositionTracker} {exact : ExactTracker}
    (agrees : tracker.Agrees exact) : exact.Bounded where
  difference := agrees.difference ▸ fit_exactAxes _
  sum recording := agrees.sum recording ▸ fit_exactAxes _
  velocity := agrees.velocity ▸ fit_exactCoordinates _
  position := agrees.position ▸ fit_exactCoordinates _

theorem exactAxes_corrected {bias axes : Axes}
    (fit : AxesFit 16 (exactAxes axes - exactAxes bias)) :
    exactAxes (corrected bias axes) = exactAxes axes - exactAxes bias := by
  rcases fit with ⟨first, second, third⟩
  simp only [exactAxes, corrected, Prod.mk_sub_mk, Prod.mk.injEq]
  exact ⟨toInt_sub_of_fits first, toInt_sub_of_fits second, toInt_sub_of_fits third⟩

/-- Every part of the two trackers agrees. -/
structure Mirrors (tracker : PositionTracker) (exact : ExactTracker) : Prop where
  noiseGate_eq : exact.noiseGate = tracker.noiseGate
  last_eq : exactAxes tracker.acceleration.last = exact.last
  curr_eq : exactAxes tracker.acceleration.curr = exact.curr
  velocity_eq : exactCoordinates tracker.velocity = exact.velocity
  position_eq : exactCoordinates tracker.position = exact.position
  recording_eq : exact.recording = tracker.eventPosition.isSome

variable {tracker : PositionTracker} {exact : ExactTracker}

theorem Mirrors.agrees (mirrors : Mirrors tracker exact) (bounded : exact.Bounded) :
    tracker.Agrees exact where
  difference := mirrors.curr_eq
  sum recording := by
    have fit := bounded.sum recording
    rw [← mirrors.curr_eq, ← mirrors.last_eq] at fit ⊢
    rcases fit with ⟨first, second, third⟩
    simp only [exactAxes, sums, Prod.mk_add_mk, Prod.mk.injEq]
    exact ⟨toInt_add_of_fits first, toInt_add_of_fits second, toInt_add_of_fits third⟩
  velocity := mirrors.velocity_eq
  position := mirrors.position_eq

theorem mirrors_new {bias : Axes} {reading : Reading}
    (fit : AxesFit 16 (exactAxes reading.axes - exactAxes bias)) :
    Mirrors (new bias reading) (.new (exactAxes bias) (exactAxes reading.axes)) where
  noiseGate_eq := rfl
  last_eq := rfl
  curr_eq := exactAxes_corrected fit
  velocity_eq := rfl
  position_eq := rfl
  recording_eq := rfl

theorem Mirrors.sampled (mirrors : Mirrors tracker exact) {reading : Reading}
    (fit : AxesFit 16 (exactAxes reading.axes - exactAxes tracker.acceleration.bias)) :
    Mirrors (tracker.sampled reading)
      (exact.sampled (exactAxes tracker.acceleration.bias) (exactAxes reading.axes)) where
  noiseGate_eq := by
    simp only [PositionTracker.sampled, ExactTracker.sampled, mirrors.noiseGate_eq]
    apply NoiseGate.nextState_congr
    rw [← exactAxes_corrected fit]
    rfl
  last_eq := mirrors.curr_eq
  curr_eq := exactAxes_corrected fit
  velocity_eq := mirrors.velocity_eq
  position_eq := mirrors.position_eq
  recording_eq := mirrors.recording_eq

theorem Mirrors.begin_velocity (mirrors : Mirrors tracker exact) :
    exactCoordinates tracker.begin.velocity =
      if exact.recording then exact.velocity else 0 := by
  rw [mirrors.recording_eq]
  cases event : tracker.eventPosition with
  | none =>
      rw [begin_of_none event]
      rfl
  | some position =>
      rw [begin_of_some event]
      exact mirrors.velocity_eq

theorem isSome_begin (tracker : PositionTracker) : tracker.begin.eventPosition.isSome = true := by
  cases event : tracker.eventPosition with
  | none => rw [begin_of_none event, Option.isSome_some]
  | some position => rw [begin_of_some event, event, Option.isSome_some]

/-- Over 30 ms the products stay far inside 64 bits. -/
theorem axisFits_of_bounded {curr last velocity position : Int} (sum : Fits 16 (curr + last))
    (velocityFits : Fits 32 (exactVelocity (curr + last) 30 velocity))
    (positionFits : Fits 32
      (exactPosition (exactVelocity (curr + last) 30 velocity) 30 position)) :
    AxisFits curr last 30 velocity position where
  sum_fits := sum
  impulse_fits := by
    rcases sum with ⟨low, high⟩
    rw [noiseCut]
    constructor
    · split <;> omega
    · split <;> omega
  velocity_fits := velocityFits
  shift_fits := by
    rcases velocityFits with ⟨low, high⟩
    constructor
    · omega
    · omega
  position_fits := positionFits

theorem Mirrors.record (mirrors : Mirrors tracker exact) (rate : tracker.duration = 30)
    (bounded : (exact.record 30).Bounded) : Mirrors tracker.record (exact.record 30) := by
  have sum := bounded.sum rfl
  have velocity := bounded.velocity
  have position := bounded.position
  have fits : tracker.RecordFits := by
    rw [RecordFits, mirrors.curr_eq, mirrors.last_eq, mirrors.begin_velocity, mirrors.position_eq,
      rate]
    exact ⟨axisFits_of_bounded sum.1 velocity.1 position.1,
      axisFits_of_bounded sum.2.1 velocity.2.1 position.2.1,
      axisFits_of_bounded sum.2.2 velocity.2.2 position.2.2⟩
  have moved : (exactCoordinates tracker.record.velocity,
      exactCoordinates tracker.record.position) =
        ((exact.record 30).velocity, (exact.record 30).position) := by
    rw [exact_record tracker fits, exactRecord, mirrors.curr_eq, mirrors.last_eq,
      mirrors.begin_velocity, mirrors.position_eq, rate]
    rfl
  have sampled : tracker.record.acceleration = tracker.acceleration := begin_acceleration tracker
  exact {
    noiseGate_eq := mirrors.noiseGate_eq.trans (begin_noiseGate tracker).symm
    last_eq := by rw [sampled]; exact mirrors.last_eq
    curr_eq := by rw [sampled]; exact mirrors.curr_eq
    velocity_eq := congrArg Prod.fst moved
    position_eq := congrArg Prod.snd moved
    recording_eq := (isSome_begin tracker).symm }

theorem Mirrors.endOfRecord (mirrors : Mirrors tracker exact) :
    Mirrors tracker.endOfRecord.1 { exact with recording := false } := by
  rw [PositionTracker.endOfRecord]
  split
  · rename_i idle
    exact { mirrors with recording_eq := by rw [idle]; rfl }
  · exact { mirrors with recording_eq := rfl }

theorem curr_exact_sampleCallback (bias : ExactAxes) (exact : ExactTracker) (axes : ExactAxes) :
    (exact.sampleCallback bias 30 axes).curr = axes - bias := by
  rw [ExactTracker.sampleCallback]
  split
  · rfl
  · split
    · rfl
    · rfl

/-- One callback keeps the trackers together as long as its results fit. -/
theorem Mirrors.sampleCallback (mirrors : Mirrors tracker exact) {reading : Reading}
    (rate : (tracker.sampled reading).duration = 30)
    (bounded : (exact.sampleCallback (exactAxes tracker.acceleration.bias) 30
      (exactAxes reading.axes)).Bounded) :
    Mirrors (PositionTracker.sampleCallback tracker reading).1
      (exact.sampleCallback (exactAxes tracker.acceleration.bias) 30 (exactAxes reading.axes)) := by
  have fit := bounded.difference
  rw [curr_exact_sampleCallback] at fit
  have sampled := mirrors.sampled fit
  rw [ExactTracker.sampleCallback, sampled.noiseGate_eq, mirrors.noiseGate_eq] at bounded ⊢
  rw [sampleCallback_eq]
  split
  · rename_i isOpen
    rw [if_pos isOpen] at bounded
    exact sampled.record rate bounded
  · split
    · exact sampled.endOfRecord
    · exact sampled

/-! ## Whole runs -/

/-- Samples that are taken every 30 ms. -/
def Regular (readings : List Reading) : Prop :=
  readings.IsChain fun earlier later => later.msCount = earlier.msCount + 30

instance (readings : List Reading) : Decidable (Regular readings) :=
  inferInstanceAs (Decidable (List.IsChain _ _))

theorem bias_run (bias : Axes) (reading : Reading) (readings : List Reading) :
    (run PositionTracker.sampleCallback (new bias reading) readings).1.acceleration.bias =
      bias := by
  induction readings using List.reverseRecOn with
  | nil => rfl
  | append_singleton readings last ih =>
      rw [run_concat, acceleration_sampleCallback]
      exact ih

theorem tsCurr_run (bias : Axes) (reading : Reading) (readings : List Reading) :
    ∀ last ∈ (reading :: readings).getLast?,
      (run PositionTracker.sampleCallback (new bias reading) readings).1.acceleration.tsCurr =
        last.msCount.toInt64 := by
  induction readings using List.reverseRecOn with
  | nil =>
      intro last isLast
      cases isLast
      rfl
  | append_singleton readings final ih =>
      intro last isLast
      rw [← List.cons_append, List.getLast?_concat] at isLast
      cases isLast
      rw [run_concat, acceleration_sampleCallback]
      rfl

theorem toInt64_add_sub (count : UInt64) : (count + 30).toInt64 - count.toInt64 = 30 := by
  rw [UInt64.toInt64_add, Int64.add_comm, Int64.add_sub_cancel]
  rfl

/-- The time between two regular samples, also across the end of the counter. -/
theorem duration_of_regular (bias : Axes) {reading : Reading} {readings : List Reading}
    {last : Reading} (regular : Regular (reading :: (readings ++ [last]))) :
    ((run PositionTracker.sampleCallback (new bias reading) readings).1.sampled last).duration =
      30 := by
  rw [← List.cons_append, Regular, List.isChain_append] at regular
  rcases regular with ⟨-, -, adjacent⟩
  have isLast := List.getLast?_eq_some_getLast (List.cons_ne_nil reading readings)
  generalize (reading :: readings).getLast _ = previous at isLast
  have next : last.msCount = previous.msCount + 30 := adjacent previous isLast last rfl
  have elapsed : (last.msCount.toInt64 -
      (run PositionTracker.sampleCallback (new bias reading) readings).1.acceleration.tsCurr) =
        30 := by
    rw [tsCurr_run bias reading readings previous isLast, next, toInt64_add_sub]
  exact congrArg Int64.toInt elapsed

theorem mirrors_run (bias : Axes) (reading : Reading) (readings : List Reading)
    (regular : Regular (reading :: readings))
    (bounded : ∀ before, before <+: readings →
      (ExactTracker.integrate bias reading before).Bounded) :
    Mirrors (run PositionTracker.sampleCallback (new bias reading) readings).1
      (.integrate bias reading readings) := by
  induction readings using List.reverseRecOn with
  | nil => exact mirrors_new (bounded [] List.prefix_rfl).difference
  | append_singleton readings last ih =>
      have here := bounded _ List.prefix_rfl
      have rate := duration_of_regular bias regular
      rw [← List.cons_append, Regular, List.isChain_append] at regular
      have mirrors := ih regular.1 fun before isPrefix =>
        bounded before (isPrefix.trans (List.prefix_append _ _))
      rw [ExactTracker.integrate_concat] at here ⊢
      have stepped := mirrors.sampleCallback rate (by rw [bias_run]; exact here)
      rw [bias_run] at stepped
      rw [run_concat]
      exact stepped

/-- The tracker agrees with the unbounded integration at every sample exactly
when everything it would have to store belongs to the types it has. -/
theorem agrees_iff_bounded (bias : Axes) (reading : Reading) (readings : List Reading)
    (regular : Regular (reading :: readings)) :
    (∀ before, before <+: readings →
        (run PositionTracker.sampleCallback (new bias reading) before).1.Agrees
          (.integrate bias reading before)) ↔
      ∀ before, before <+: readings → (ExactTracker.integrate bias reading before).Bounded := by
  constructor
  · intro agrees before isPrefix
    exact (agrees before isPrefix).bounded
  · intro bounded before isPrefix
    rcases isPrefix with ⟨after, rfl⟩
    rw [← List.cons_append, Regular, List.isChain_append] at regular
    have mirrors := mirrors_run bias reading before regular.1 fun earlier isPrefix =>
      bounded earlier (isPrefix.trans (List.prefix_append _ _))
    exact mirrors.agrees (bounded before (List.prefix_append _ _))

end PositionTracker

/-! ## Within the full scale -/

/-- No axis exceeds a bound in absolute value. -/
def Within (bound : Nat) (axes : ExactAxes) : Prop :=
  axes.1.natAbs ≤ bound ∧ axes.2.1.natAbs ≤ bound ∧ axes.2.2.natAbs ≤ bound

instance (bound : Nat) (axes : ExactAxes) : Decidable (Within bound axes) :=
  inferInstanceAs (Decidable (_ ∧ _ ∧ _))

theorem within_zero (bound : Nat) : Within bound 0 :=
  ⟨Nat.zero_le _, Nat.zero_le _, Nat.zero_le _⟩

theorem Within.mono {bound larger : Nat} {axes : ExactAxes} (within : Within bound axes)
    (le : bound ≤ larger) : Within larger axes :=
  ⟨within.1.trans le, within.2.1.trans le, within.2.2.trans le⟩

theorem Within.add {first second : Nat} {axes others : ExactAxes} (within : Within first axes)
    (within' : Within second others) : Within (first + second) (axes + others) := by
  rcases within with ⟨x, y, z⟩
  rcases within' with ⟨x', y', z'⟩
  exact ⟨(Int.natAbs_add_le _ _).trans (Nat.add_le_add x x'),
    (Int.natAbs_add_le _ _).trans (Nat.add_le_add y y'),
    (Int.natAbs_add_le _ _).trans (Nat.add_le_add z z')⟩

theorem Within.sub {first second : Nat} {axes others : ExactAxes} (within : Within first axes)
    (within' : Within second others) : Within (first + second) (axes - others) := by
  rcases within with ⟨x, y, z⟩
  rcases within' with ⟨x', y', z'⟩
  exact ⟨(Int.natAbs_sub_le _ _).trans (Nat.add_le_add x x'),
    (Int.natAbs_sub_le _ _).trans (Nat.add_le_add y y'),
    (Int.natAbs_sub_le _ _).trans (Nat.add_le_add z z')⟩

theorem fits_of_natAbs_lt {width : Nat} {value : Int}
    (small : value.natAbs < 2 ^ (width - 1)) : Fits width value := by
  have cast : ((2 ^ (width - 1) : Nat) : Int) = 2 ^ (width - 1) := by
    push_cast
    rfl
  constructor
  · omega
  · omega

theorem Within.fit {bound width : Nat} {axes : ExactAxes} (within : Within bound axes)
    (small : bound < 2 ^ (width - 1)) : AxesFit width axes :=
  ⟨fits_of_natAbs_lt (within.1.trans_lt small), fits_of_natAbs_lt (within.2.1.trans_lt small),
    fits_of_natAbs_lt (within.2.2.trans_lt small)⟩

/-- The configured full scale of the accelerometer. -/
def FullScale (axes : Axes) : Prop :=
  Within 2000 (exactAxes axes)

instance (axes : Axes) : Decidable (FullScale axes) :=
  inferInstanceAs (Decidable (Within _ _))

theorem natAbs_noiseCut_le (sum : Int) : (noiseCut sum).natAbs ≤ sum.natAbs := by
  rw [noiseCut]
  split
  · exact Nat.le_refl _
  · exact Nat.zero_le _

theorem natAbs_impulse_le {sum : Int} (sumLe : sum.natAbs ≤ 8000) :
    ((noiseCut sum * 30).tdiv 2).natAbs ≤ 120000 := by
  rw [Int.natAbs_tdiv, Int.natAbs_mul]
  exact Nat.div_le_of_le_mul (Nat.mul_le_mul_right 30 ((natAbs_noiseCut_le sum).trans sumLe))

theorem natAbs_exactVelocity_le {sum velocity : Int} {count : Nat} (sumLe : sum.natAbs ≤ 8000)
    (velocityLe : velocity.natAbs ≤ 120000 * count) :
    (exactVelocity sum 30 velocity).natAbs ≤ 120000 * (count + 1) := by
  have change := natAbs_impulse_le sumLe
  rw [exactVelocity]
  omega

theorem natAbs_exactPosition_le {velocity position : Int} {count : Nat}
    (velocityLe : velocity.natAbs ≤ 120000 * (count + 1))
    (positionLe : position.natAbs ≤ 18 * (count * (count + 1))) :
    (exactPosition velocity 30 position).natAbs ≤ 18 * ((count + 1) * (count + 2)) := by
  have change : ((velocity * 30).tdiv 100000).natAbs ≤ 36 * (count + 1) := by
    rw [Int.natAbs_tdiv, Int.natAbs_mul]
    apply Nat.div_le_of_le_mul
    calc
      velocity.natAbs * 30 ≤ 120000 * (count + 1) * 30 := Nat.mul_le_mul_right 30 velocityLe
      _ = 100000 * (36 * (count + 1)) := by ring
  calc
    (exactPosition velocity 30 position).natAbs ≤
        position.natAbs + ((velocity * 30).tdiv 100000).natAbs := Int.natAbs_add_le _ _
    _ ≤ 18 * (count * (count + 1)) + 36 * (count + 1) := Nat.add_le_add positionLe change
    _ = 18 * ((count + 1) * (count + 2)) := by ring

/-- A velocity is reached over a distance that grows with its square, all of it
above the lower end of the positions.  Below 4000 the truncation may leave nothing
of the distance. -/
def Travelled (velocity position : Int) : Prop :=
  4000 ≤ velocity → (velocity - 4000) ^ 2 ≤ 800000000 * (position + 2 ^ 31)

theorem travelled_rest (position : Int) : Travelled 0 position := by
  intro fast
  exact absurd fast (by decide)

theorem Travelled.move {sum velocity position : Int} (travelled : Travelled velocity position)
    (sumLe : sum.natAbs ≤ 8000) (low : -2 ^ 31 ≤ position) :
    Travelled (exactVelocity sum 30 velocity)
      (exactPosition (exactVelocity sum 30 velocity) 30 position) := by
  have impulse : (noiseCut sum * 30).tdiv 2 ≤ 120000 := by
    have bound := natAbs_impulse_le sumLe
    omega
  intro fast
  rw [exactVelocity] at fast ⊢
  generalize (noiseCut sum * 30).tdiv 2 = change at *
  have shift : 240000 * (velocity + change - 4000) ≤
      800000000 * ((velocity + change) * 30).tdiv 100000 := by
    rw [Int.tdiv_eq_ediv_of_nonneg (by omega)]
    omega
  -- What one sample adds to the square is at most twice the speed times the impulse.
  have gained : (velocity + change - 4000) * change ≤ (velocity + change - 4000) * 120000 :=
    mul_le_mul_of_nonneg_left impulse (by omega)
  rw [exactPosition]
  rcases le_or_gt 4000 velocity with moving | slow
  · have reached := travelled moving
    calc
      (velocity + change - 4000) ^ 2 =
          (velocity - 4000) ^ 2 + 2 * ((velocity + change - 4000) * change) - change ^ 2 := by ring
      _ ≤ 800000000 * (position + 2 ^ 31) + 240000 * (velocity + change - 4000) := by
        linarith [sq_nonneg change]
      _ ≤ 800000000 * (position + ((velocity + change) * 30).tdiv 100000 + 2 ^ 31) := by
        linarith
  · have small : (velocity + change - 4000) * (velocity + change - 4000) ≤
        (velocity + change - 4000) * 120000 := mul_le_mul_of_nonneg_left (by omega) (by omega)
    calc
      (velocity + change - 4000) ^ 2 ≤ 240000 * (velocity + change - 4000) := by linarith
      _ ≤ 800000000 * (position + ((velocity + change) * 30).tdiv 100000 + 2 ^ 31) := by
        linarith

theorem Travelled.lt {velocity position : Int} (travelled : Travelled velocity position)
    (high : position ≤ 2 ^ 31) : velocity < 2 ^ 31 := by
  by_contra! fast
  have reached := travelled (by omega)
  have square : (2 ^ 31 - 4000) ^ 2 ≤ (velocity - 4000) ^ 2 :=
    pow_le_pow_left₀ (by decide) (Int.sub_le_sub_right fast 4000) 2
  omega

/-- The distance in both directions. -/
def Ranged (velocity position : Int) : Prop :=
  Travelled velocity position ∧ Travelled (-velocity) (-position)

theorem ranged_rest (position : Int) : Ranged 0 position :=
  ⟨travelled_rest _, travelled_rest _⟩

theorem Ranged.move {sum velocity position : Int} (ranged : Ranged velocity position)
    (sumLe : sum.natAbs ≤ 8000) (fits : Fits 32 position) :
    Ranged (exactVelocity sum 30 velocity)
      (exactPosition (exactVelocity sum 30 velocity) 30 position) := by
  rcases fits with ⟨low, high⟩
  constructor
  · exact ranged.1.move sumLe low
  · rw [← exactPosition_neg, ← exactVelocity_neg]
    apply ranged.2.move
    · rw [Int.natAbs_neg]
      exact sumLe
    · omega

theorem Ranged.fits {velocity position : Int} (ranged : Ranged velocity position)
    (fits : Fits 32 position) : Fits 32 velocity := by
  rcases fits with ⟨low, high⟩
  have forth := ranged.1.lt (Int.le_of_lt high)
  have back := ranged.2.lt (by omega)
  constructor
  · omega
  · exact forth

namespace ExactTracker

/-- How far an integration of the given number of full-scale samples can be. -/
structure Restrained (exact : ExactTracker) (count : Nat) : Prop where
  curr : Within 4000 exact.curr
  last : Within 4000 exact.last
  velocity : Within (120000 * count) exact.velocity
  position : Within (18 * (count * (count + 1))) exact.position

theorem restrained_new {bias axes : Axes} (biasScale : FullScale bias) (scale : FullScale axes) :
    Restrained (new (exactAxes bias) (exactAxes axes)) 0 where
  curr := scale.sub biasScale
  last := within_zero _
  velocity := within_zero _
  position := within_zero _

variable {exact : ExactTracker} {count : Nat}

theorem Restrained.later (restrained : Restrained exact count) : Restrained exact (count + 1) where
  curr := restrained.curr
  last := restrained.last
  velocity := restrained.velocity.mono (Nat.mul_le_mul_left _ (Nat.le_succ count))
  position := restrained.position.mono
    (Nat.mul_le_mul_left _ (Nat.mul_le_mul (Nat.le_succ count) (Nat.le_succ (count + 1))))

theorem Restrained.sampled (restrained : Restrained exact count) {bias axes : Axes}
    (biasScale : FullScale bias) (scale : FullScale axes) :
    Restrained (exact.sampled (exactAxes bias) (exactAxes axes)) count where
  curr := scale.sub biasScale
  last := restrained.curr
  velocity := restrained.velocity
  position := restrained.position

theorem Restrained.record (restrained : Restrained exact count) :
    Restrained (exact.record 30) (count + 1) := by
  have sum := restrained.curr.add restrained.last
  have base : Within (120000 * count) (if exact.recording then exact.velocity else 0) := by
    split
    · exact restrained.velocity
    · exact within_zero _
  have velocity : Within (120000 * (count + 1)) (exact.record 30).velocity :=
    ⟨natAbs_exactVelocity_le sum.1 base.1, natAbs_exactVelocity_le sum.2.1 base.2.1,
      natAbs_exactVelocity_le sum.2.2 base.2.2⟩
  exact {
    curr := restrained.curr
    last := restrained.last
    velocity := velocity
    position := ⟨natAbs_exactPosition_le velocity.1 restrained.position.1,
      natAbs_exactPosition_le velocity.2.1 restrained.position.2.1,
      natAbs_exactPosition_le velocity.2.2 restrained.position.2.2⟩ }

theorem Restrained.sampleCallback (restrained : Restrained exact count) {bias axes : Axes}
    (biasScale : FullScale bias) (scale : FullScale axes) :
    Restrained (exact.sampleCallback (exactAxes bias) 30 (exactAxes axes)) (count + 1) := by
  have sampled := restrained.sampled biasScale scale
  rw [ExactTracker.sampleCallback]
  split
  · exact sampled.record
  · split
    · exact { sampled.later with }
    · exact sampled.later

theorem restrained_integrate {bias : Axes} (biasScale : FullScale bias) (reading : Reading)
    (readings : List Reading) (scale : ∀ other ∈ reading :: readings, FullScale other.axes) :
    Restrained (integrate bias reading readings) readings.length := by
  induction readings using List.reverseRecOn with
  | nil => exact restrained_new biasScale (scale reading List.mem_cons_self)
  | append_singleton readings last ih =>
      rw [← List.cons_append] at scale
      rw [integrate_concat, List.length_append]
      apply (ih fun other member => scale other (List.mem_append_left _ member)).sampleCallback
        biasScale
      exact scale last (List.mem_append_right _ (List.mem_singleton_self last))

/-- The velocities of an integration are covered by its positions. -/
structure Covered (exact : ExactTracker) : Prop where
  first : Ranged exact.velocity.1 exact.position.1
  second : Ranged exact.velocity.2.1 exact.position.2.1
  third : Ranged exact.velocity.2.2 exact.position.2.2

theorem Covered.velocity_fit (covered : Covered exact) (position : AxesFit 32 exact.position) :
    AxesFit 32 exact.velocity :=
  ⟨covered.first.fits position.1, covered.second.fits position.2.1,
    covered.third.fits position.2.2⟩

theorem Covered.record (covered : Covered exact) (restrained : Restrained exact count)
    (position : AxesFit 32 exact.position) : Covered (exact.record 30) := by
  have sum := restrained.curr.add restrained.last
  have base : Covered { exact with
      velocity := if exact.recording then exact.velocity else 0 } := by
    cases exact.recording with
    | true => exact { covered with }
    | false => exact ⟨ranged_rest _, ranged_rest _, ranged_rest _⟩
  exact ⟨base.first.move sum.1 position.1, base.second.move sum.2.1 position.2.1,
    base.third.move sum.2.2 position.2.2⟩

theorem Covered.sampleCallback (covered : Covered exact) (restrained : Restrained exact count)
    (position : AxesFit 32 exact.position) {bias axes : Axes} (biasScale : FullScale bias)
    (scale : FullScale axes) :
    Covered (exact.sampleCallback (exactAxes bias) 30 (exactAxes axes)) := by
  have sampled : Covered (exact.sampled (exactAxes bias) (exactAxes axes)) := { covered with }
  rw [ExactTracker.sampleCallback]
  split
  · exact sampled.record (restrained.sampled biasScale scale) position
  · split
    · exact { sampled with }
    · exact sampled

theorem covered_integrate {bias : Axes} (biasScale : FullScale bias) (reading : Reading)
    (readings : List Reading) (scale : ∀ other ∈ reading :: readings, FullScale other.axes)
    (fit : ∀ before, before <+: readings →
      AxesFit 32 (integrate bias reading before).position) :
    Covered (integrate bias reading readings) := by
  induction readings using List.reverseRecOn with
  | nil => exact ⟨ranged_rest _, ranged_rest _, ranged_rest _⟩
  | append_singleton readings last ih =>
      have inside := fit readings (List.prefix_append _ _)
      rw [← List.cons_append] at scale
      have earlier : ∀ other ∈ reading :: readings, FullScale other.axes := by
        intro other member
        exact scale other (List.mem_append_left _ member)
      have covered := ih earlier fun before isPrefix =>
        fit before (isPrefix.trans (List.prefix_append _ _))
      rw [integrate_concat]
      apply covered.sampleCallback (restrained_integrate biasScale reading readings earlier)
        inside biasScale
      exact scale last (List.mem_append_right _ (List.mem_singleton_self last))

/-- The first 10922 samples do not leave the range of the positions. -/
theorem Restrained.position_fit (restrained : Restrained exact count) (few : count ≤ 10922) :
    AxesFit 32 exact.position := by
  have product : count * (count + 1) ≤ 10922 * 10923 :=
    Nat.mul_le_mul few (Nat.succ_le_succ few)
  exact restrained.position.fit (by omega)

/-- Within the full scale nothing leaves its type before a position does. -/
theorem bounded_iff_position_fit {bias : Axes} (biasScale : FullScale bias) (reading : Reading)
    (readings : List Reading) (scale : ∀ other ∈ reading :: readings, FullScale other.axes) :
    (∀ before, before <+: readings → (integrate bias reading before).Bounded) ↔
      ∀ before, before <+: readings →
        AxesFit 32 (integrate bias reading before).position := by
  constructor
  · intro bounded before isPrefix
    exact (bounded before isPrefix).position
  · intro fit before isPrefix
    have position := fit before isPrefix
    rcases isPrefix with ⟨after, rfl⟩
    rw [← List.cons_append] at scale
    have earlier : ∀ other ∈ reading :: before, FullScale other.axes := by
      intro other member
      exact scale other (List.mem_append_left _ member)
    have restrained := restrained_integrate biasScale reading before earlier
    have covered := covered_integrate biasScale reading before earlier fun start isPrefix =>
      fit start (isPrefix.trans (List.prefix_append _ _))
    exact {
      difference := restrained.curr.fit (by decide)
      sum := fun _ => (restrained.curr.add restrained.last).fit (by decide)
      velocity := covered.velocity_fit position
      position := position }

end ExactTracker

namespace PositionTracker

/-- Of readings that are taken every 30 ms, the tracker's differences, sums,
velocities and positions are those of the unbounded integration exactly when the
latter never leave the types that store them.  With bias and readings inside the
full scale the positions alone decide, and they do not leave 32 bits within 10922
samples. -/
theorem integration_exact_iff (bias : Axes) (reading : Reading) (readings : List Reading)
    (regular : Regular (reading :: readings)) :
    ((∀ before, before <+: readings →
          (run PositionTracker.sampleCallback (new bias reading) before).1.Agrees
            (.integrate bias reading before)) ↔
        ∀ before, before <+: readings → (ExactTracker.integrate bias reading before).Bounded) ∧
      (FullScale bias → (∀ other ∈ reading :: readings, FullScale other.axes) →
        ((∀ before, before <+: readings →
            (run PositionTracker.sampleCallback (new bias reading) before).1.Agrees
              (.integrate bias reading before)) ↔
          ∀ before, before <+: readings →
            AxesFit 32 (ExactTracker.integrate bias reading before).position) ∧
        ∀ before, before <+: readings → before.length ≤ 10922 →
          AxesFit 32 (ExactTracker.integrate bias reading before).position) := by
  have agrees := agrees_iff_bounded bias reading readings regular
  constructor
  · exact agrees
  · intro biasScale scale
    constructor
    · exact agrees.trans
        (ExactTracker.bounded_iff_position_fit biasScale reading readings scale)
    · intro before isPrefix
      have restrained := ExactTracker.restrained_integrate biasScale reading before
        fun other member => scale other ((List.cons_prefix_cons.mpr ⟨rfl, isPrefix⟩).subset member)
      exact restrained.position_fit

/-- The knock is integrated exactly. -/
theorem integration_exact_iff_knock :
    (run PositionTracker.sampleCallback (new (0, 0, 0) ⟨0, (0, 0, 0)⟩) knock).1.Agrees
      (.integrate (0, 0, 0) ⟨0, (0, 0, 0)⟩ knock) := by
  have short : knock.length ≤ 10922 := by decide
  have scaled := (integration_exact_iff (0, 0, 0) ⟨0, (0, 0, 0)⟩ knock (by decide)).2
  rcases scaled (by decide) (by decide) with ⟨agrees, early⟩
  apply agrees.mpr _ knock List.prefix_rfl
  intro before isPrefix
  exact early before isPrefix (isPrefix.length_le.trans short)

/-! ## A constant acceleration -/

/-- The full scale on one axis, after a start at its other end. -/
def tilted (count : Nat) : List Reading :=
  (List.range count).map fun index => ⟨30 * UInt64.ofNat (index + 1), (2000, 0, 0)⟩

/-- The unbounded integration of a constant acceleration, from its first sample
on. -/
def tiltedExact (count : Nat) : ExactTracker where
  noiseGate := { NoiseGate.new noiseGateThreshold noiseGateReleaseCount with state := .opened }
  last := (4000, 0, 0)
  curr := (4000, 0, 0)
  velocity := (120000 * count, 0, 0)
  position := (18 * (count * (count + 1)), 0, 0)
  recording := true

theorem exactMove_tilted (count : Nat) :
    exactMove (4000, 0, 0) (4000, 0, 0) 30 (tiltedExact count).velocity
        (tiltedExact count).position =
      ((tiltedExact (count + 1)).velocity, (tiltedExact (count + 1)).position) := by
  have impulse : (noiseCut 8000 * 30).tdiv 2 = 120000 := by decide
  have shift : (120000 * (count + 1 : Int) * 30).tdiv 100000 = 36 * (count + 1) := by
    rw [show (120000 * (count + 1 : Int) * 30) = 100000 * (36 * (count + 1)) by ring,
      Int.mul_tdiv_cancel_left _ (by decide)]
  have velocity : exactVelocity 8000 30 (120000 * count) = 120000 * (count + 1) := by
    rw [exactVelocity, impulse]
    ring
  have position : exactPosition (120000 * (count + 1)) 30 (18 * (count * (count + 1))) =
      18 * ((count + 1) * (count + 1 + 1)) := by
    rw [exactPosition, shift]
    ring
  simp only [exactMove, tiltedExact, Nat.cast_add, Nat.cast_one]
  rw [show (4000 + 4000 : Int) = 8000 from rfl, velocity, position]
  rfl

theorem sampled_tiltedExact (count : Nat) :
    (tiltedExact count).sampled (exactAxes (-2000, 0, 0)) (exactAxes (2000, 0, 0)) =
      tiltedExact count := by
  have axes : exactAxes (2000, 0, 0) - exactAxes (-2000, 0, 0) = (4000, 0, 0) := by decide
  have exceeded : ExactTracker.exceeds (4000, 0, 0) noiseGateThreshold = true := by decide
  rw [ExactTracker.sampled, axes]
  simp [tiltedExact, NoiseGate.nextState, NoiseGate.new, exceeded]

theorem sampleCallback_tiltedExact (count : Nat) :
    (tiltedExact count).sampleCallback (exactAxes (-2000, 0, 0)) 30 (exactAxes (2000, 0, 0)) =
      tiltedExact (count + 1) := by
  have isOpen : (tiltedExact count).noiseGate.isOpened = true := rfl
  rw [ExactTracker.sampleCallback, sampled_tiltedExact, if_pos isOpen]
  exact congrArg (fun moved : ExactAxes × ExactAxes =>
    { tiltedExact count with
      velocity := moved.1
      position := moved.2 }) (exactMove_tilted count)

theorem integrate_tilted (count : Nat) :
    ExactTracker.integrate (-2000, 0, 0) ⟨0, (2000, 0, 0)⟩ (tilted (count + 1)) =
      tiltedExact (count + 1) := by
  induction count with
  | zero => rfl
  | succ count ih =>
      rw [tilted, List.range_succ, List.map_append, List.map_singleton,
        ExactTracker.integrate_concat]
      rw [tilted] at ih
      rw [ih, sampleCallback_tiltedExact]

theorem regular_tilted (count : Nat) : Regular (⟨0, (2000, 0, 0)⟩ :: tilted count) := by
  have counted : ⟨0, (2000, 0, 0)⟩ :: tilted count =
      (List.range (count + 1)).map fun index =>
        (⟨30 * UInt64.ofNat index, (2000, 0, 0)⟩ : Reading) := by
    rw [List.range_succ_eq_map, List.map_cons, List.map_map]
    rfl
  rw [Regular, counted, List.isChain_map, List.isChain_range_succ]
  intro index _
  change 30 * UInt64.ofNat (index + 1) = 30 * UInt64.ofNat index + 30
  rw [UInt64.ofNat_add, UInt64.mul_add]
  rfl

theorem fullScale_tilted (count : Nat) :
    ∀ reading ∈ ⟨0, (2000, 0, 0)⟩ :: tilted count, FullScale reading.axes := by
  have scale : FullScale (2000, 0, 0) := by decide
  intro reading member
  rcases List.mem_cons.mp member with rfl | later
  · exact scale
  · rcases List.mem_map.mp later with ⟨index, -, rfl⟩
    exact scale

/-- After five and a half minutes of a constant acceleration, the position has
left its 32 bits. -/
theorem not_integration_exact_tilted :
    FullScale (-2000, 0, 0) ∧
      (∀ reading ∈ ⟨0, (2000, 0, 0)⟩ :: tilted 10923, FullScale reading.axes) ∧
      Regular (⟨0, (2000, 0, 0)⟩ :: tilted 10923) ∧
      ¬ ∀ before, before <+: tilted 10923 →
        (run PositionTracker.sampleCallback (new (-2000, 0, 0) ⟨0, (2000, 0, 0)⟩) before).1.Agrees
          (.integrate (-2000, 0, 0) ⟨0, (2000, 0, 0)⟩ before) := by
  refine ⟨by decide, fullScale_tilted 10923, regular_tilted 10923, ?_⟩
  rw [agrees_iff_bounded _ _ _ (regular_tilted 10923)]
  intro bounded
  have position := (bounded _ List.prefix_rfl).position.1
  have integrated : ExactTracker.integrate (-2000, 0, 0) ⟨0, (2000, 0, 0)⟩ (tilted 10923) =
      tiltedExact 10923 := integrate_tilted 10922
  rw [integrated] at position
  exact absurd position.2 (by decide)

end PositionTracker

end Bug.Firmware
