import Bug.Firmware.PositionTracker
import Bug.Primitive.Signed
import Bug.Transition.Labelled
import Mathlib.Algebra.Group.Prod

/-!
# Integration over unbounded integers

The tracker's arithmetic with the same truncating divisions and the same noise
cut, but over integers without a width.  As long as every exact result belongs to
the type that the source stores it in, the tracker computes exactly this.
-/

namespace Bug.Firmware

open Bug.Transition

/-- Three unbounded integers, one for each axis. -/
abbrev ExactAxes := Int × Int × Int

def exactAxes (axes : Axes) : ExactAxes :=
  (axes.1.toInt, axes.2.1.toInt, axes.2.2.toInt)

def exactCoordinates (coordinates : Coordinates) : ExactAxes :=
  (coordinates.1.toInt, coordinates.2.1.toInt, coordinates.2.2.toInt)

/-- The bias-corrected axes of a reading. -/
def corrected (bias axes : Axes) : Axes :=
  (axes.1 - bias.1, axes.2.1 - bias.2.1, axes.2.2 - bias.2.2)

/-- What the noise cut leaves of a sum of two readings. -/
def noiseCut (sum : Int) : Int :=
  if sampleNoise2 < sum.natAbs then sum else 0

/-- The new velocity of one axis. -/
def exactVelocity (sum duration velocity : Int) : Int :=
  velocity + (noiseCut sum * duration).tdiv 2

/-- The new position of one axis. -/
def exactPosition (velocity duration position : Int) : Int :=
  position + (velocity * duration).tdiv 100000

/-- No result of the integration of one axis leaves its type. -/
structure AxisFits (curr last duration velocity position : Int) : Prop where
  sum_fits : Fits 16 (curr + last)
  impulse_fits : Fits 64 (noiseCut (curr + last) * duration)
  velocity_fits : Fits 32 (exactVelocity (curr + last) duration velocity)
  shift_fits : Fits 64 (exactVelocity (curr + last) duration velocity * duration)
  position_fits : Fits 32
    (exactPosition (exactVelocity (curr + last) duration velocity) duration position)

instance (curr last duration velocity position : Int) :
    Decidable (AxisFits curr last duration velocity position) :=
  decidable_of_iff (Fits 16 (curr + last) ∧ Fits 64 (noiseCut (curr + last) * duration) ∧
      Fits 32 (exactVelocity (curr + last) duration velocity) ∧
      Fits 64 (exactVelocity (curr + last) duration velocity * duration) ∧
      Fits 32 (exactPosition (exactVelocity (curr + last) duration velocity) duration position))
    ⟨fun ⟨sum, impulse, velocity, shift, position⟩ => ⟨sum, impulse, velocity, shift, position⟩,
      fun ⟨sum, impulse, velocity, shift, position⟩ => ⟨sum, impulse, velocity, shift, position⟩⟩

namespace Acceleration

/-! ## One axis -/

theorem toInt_noiseCut (sum : Int16) :
    (if sampleNoise2 < sum.toInt.natAbs then sum.toInt64 else 0).toInt = noiseCut sum.toInt := by
  rw [noiseCut]
  split
  · exact sum.toInt_toInt64
  · rfl

theorem toInt_applyVelocity {sum : Int16} {duration : Int64} {velocity : Int32}
    (impulse : Fits 64 (noiseCut sum.toInt * duration.toInt))
    (fits : Fits 32 (exactVelocity sum.toInt duration.toInt velocity.toInt)) :
    (applyVelocity sum duration velocity).toInt =
      exactVelocity sum.toInt duration.toInt velocity.toInt := by
  let change := (if sampleNoise2 < sum.toInt.natAbs then sum.toInt64 else 0) * duration / 2
  have exactChange : change.toInt = (noiseCut sum.toInt * duration.toInt).tdiv 2 := by
    rw [← toInt_noiseCut] at impulse ⊢
    rw [toInt_div_of_pos _ _ (by decide), toInt_mul_of_fits impulse]
    rfl
  change (velocity.toInt64 + change).toInt32.toInt = _
  rw [exactVelocity, ← exactChange] at fits ⊢
  apply toInt_accumulate _ fits
  rw [exactChange]
  exact natAbs_tdiv_le impulse (by decide)

theorem toInt_applyPosition {velocity : Int32} {duration : Int64} {position : Int32}
    (shift : Fits 64 (velocity.toInt * duration.toInt))
    (fits : Fits 32 (exactPosition velocity.toInt duration.toInt position.toInt)) :
    (applyPosition velocity duration position).toInt =
      exactPosition velocity.toInt duration.toInt position.toInt := by
  let change := velocity.toInt64 * duration / samplePositionDownScale
  have exactChange : change.toInt = (velocity.toInt * duration.toInt).tdiv 100000 := by
    rw [← velocity.toInt_toInt64] at shift ⊢
    rw [toInt_div_of_pos _ _ (by decide), toInt_mul_of_fits shift]
    rfl
  change (position.toInt64 + change).toInt32.toInt = _
  rw [exactPosition, ← exactChange] at fits ⊢
  apply toInt_accumulate _ fits
  rw [exactChange]
  exact natAbs_tdiv_le shift (by decide)

theorem toInt_apply_of_fits {curr last : Int16} {duration : Int64} {velocity position : Int32}
    (fits : AxisFits curr.toInt last.toInt duration.toInt velocity.toInt position.toInt) :
    (applyVelocity (curr + last) duration velocity).toInt =
        exactVelocity (curr.toInt + last.toInt) duration.toInt velocity.toInt ∧
      (applyPosition (applyVelocity (curr + last) duration velocity) duration position).toInt =
        exactPosition (exactVelocity (curr.toInt + last.toInt) duration.toInt velocity.toInt)
          duration.toInt position.toInt := by
  rcases fits with ⟨sum, impulse, velocityFits, shift, positionFits⟩
  rw [← toInt_add_of_fits sum] at impulse velocityFits shift positionFits ⊢
  have moved := toInt_applyVelocity impulse velocityFits
  rw [← moved] at shift positionFits ⊢
  constructor
  · rfl
  · exact toInt_applyPosition shift positionFits

end Acceleration

/-! ## Three axes -/

/-- The velocity and the position after one recorded sample. -/
def exactMove (curr last : ExactAxes) (duration : Int) (velocity position : ExactAxes) :
    ExactAxes × ExactAxes :=
  let velocity : ExactAxes :=
    (exactVelocity (curr.1 + last.1) duration velocity.1,
      exactVelocity (curr.2.1 + last.2.1) duration velocity.2.1,
      exactVelocity (curr.2.2 + last.2.2) duration velocity.2.2)
  (velocity,
    (exactPosition velocity.1 duration position.1,
      exactPosition velocity.2.1 duration position.2.1,
      exactPosition velocity.2.2 duration position.2.2))

/-- No result of a recorded sample leaves its type. -/
structure MoveFits (curr last : ExactAxes) (duration : Int) (velocity position : ExactAxes) :
    Prop where
  first : AxisFits curr.1 last.1 duration velocity.1 position.1
  second : AxisFits curr.2.1 last.2.1 duration velocity.2.1 position.2.1
  third : AxisFits curr.2.2 last.2.2 duration velocity.2.2 position.2.2

instance (curr last : ExactAxes) (duration : Int) (velocity position : ExactAxes) :
    Decidable (MoveFits curr last duration velocity position) :=
  decidable_of_iff (AxisFits curr.1 last.1 duration velocity.1 position.1 ∧
      AxisFits curr.2.1 last.2.1 duration velocity.2.1 position.2.1 ∧
      AxisFits curr.2.2 last.2.2 duration velocity.2.2 position.2.2)
    ⟨fun ⟨first, second, third⟩ => ⟨first, second, third⟩,
      fun ⟨first, second, third⟩ => ⟨first, second, third⟩⟩

theorem Acceleration.exact_applyVelocityAndPosition (acceleration : Acceleration)
    (velocity position : Coordinates)
    (fits : MoveFits (exactAxes acceleration.curr) (exactAxes acceleration.last)
      (acceleration.tsCurr - acceleration.tsLast).toInt (exactCoordinates velocity)
      (exactCoordinates position)) :
    (exactCoordinates (acceleration.applyVelocityAndPosition velocity position).1,
        exactCoordinates (acceleration.applyVelocityAndPosition velocity position).2) =
      exactMove (exactAxes acceleration.curr) (exactAxes acceleration.last)
        (acceleration.tsCurr - acceleration.tsLast).toInt (exactCoordinates velocity)
        (exactCoordinates position) := by
  rcases toInt_apply_of_fits fits.first with ⟨velocity0, position0⟩
  rcases toInt_apply_of_fits fits.second with ⟨velocity1, position1⟩
  rcases toInt_apply_of_fits fits.third with ⟨velocity2, position2⟩
  simp only [applyVelocityAndPosition, exactCoordinates, exactMove, exactAxes]
  rw [velocity0, velocity1, velocity2, position0, position1, position2]

theorem noiseCut_neg (sum : Int) : noiseCut (-sum) = -noiseCut sum := by
  rw [noiseCut, noiseCut, Int.natAbs_neg]
  split
  · rfl
  · rfl

theorem exactVelocity_neg (sum duration velocity : Int) :
    exactVelocity (-sum) duration (-velocity) = -exactVelocity sum duration velocity := by
  rw [exactVelocity, exactVelocity, noiseCut_neg, Int.neg_mul, Int.neg_tdiv, Int.neg_add]

theorem exactPosition_neg (velocity duration position : Int) :
    exactPosition (-velocity) duration (-position) = -exactPosition velocity duration position := by
  rw [exactPosition, exactPosition, Int.neg_mul, Int.neg_tdiv, Int.neg_add]

/-- Truncation treats both directions alike, so does the whole integration. -/
theorem exactMove_neg (curr last : ExactAxes) (duration : Int) (velocity position : ExactAxes) :
    exactMove (-curr) (-last) duration (-velocity) (-position) =
      -exactMove curr last duration velocity position := by
  simp only [exactMove, Prod.fst_neg, Prod.snd_neg, Prod.neg_mk, ← Int.neg_add,
    exactVelocity_neg, exactPosition_neg]

/-! ## One callback -/

/-- A gate goes by nothing but the comparison with its threshold. -/
theorem NoiseGate.nextState_congr {T U TT : Type} {exceeds : T → TT → Bool}
    {exceeds' : U → TT → Bool} (gate : NoiseGate TT) {first : T} {second : U}
    (same : exceeds first gate.threshold = exceeds' second gate.threshold) :
    gate.nextState exceeds first = gate.nextState exceeds' second := by
  simp only [nextState, same]

namespace PositionTracker

/-- The tracker after the sample was read and the gate has judged it. -/
def sampled (tracker : PositionTracker) (reading : Reading) : PositionTracker :=
  { tracker with
    acceleration := tracker.acceleration.sample reading
    noiseGate := tracker.noiseGate.nextState Acceleration.exceeds
      (tracker.acceleration.sample reading) }

/-- A callback records the sample, ends the record or drops the sample. -/
theorem sampleCallback_eq (tracker : PositionTracker) (reading : Reading) :
    sampleCallback tracker reading =
      if (tracker.sampled reading).noiseGate.isOpened then
        ((tracker.sampled reading).record, [])
      else if tracker.noiseGate.isOpened then
        (tracker.sampled reading).endOfRecord
      else
        (tracker.sampled reading, []) := by
  simp only [sampleCallback]
  rcases NoiseGate.process_cases Acceleration.exceeds tracker.noiseGate
      (tracker.acceleration.sample reading) with
    ⟨isOpen, calls⟩ | ⟨isClosed, wasOpen, calls⟩ | ⟨isClosed, wasClosed, calls⟩
  · change (tracker.sampled reading).noiseGate.isOpened = true at isOpen
    rw [calls, run_singleton, isOpen]
    rfl
  · change (tracker.sampled reading).noiseGate.isOpened = false at isClosed
    rw [calls, run_singleton, isClosed, wasOpen]
    rfl
  · change (tracker.sampled reading).noiseGate.isOpened = false at isClosed
    rw [calls, run_nil, isClosed, wasClosed]
    rfl

/-- The milliseconds between the last two samples. -/
def duration (tracker : PositionTracker) : Int :=
  (tracker.acceleration.tsCurr - tracker.acceleration.tsLast).toInt

/-- The exact movement of a tracker that records its last sample. -/
def exactRecord (tracker : PositionTracker) : ExactAxes × ExactAxes :=
  exactMove (exactAxes tracker.acceleration.curr) (exactAxes tracker.acceleration.last)
    tracker.duration (exactCoordinates tracker.begin.velocity)
    (exactCoordinates tracker.position)

/-- No result of recording the last sample leaves its type. -/
def RecordFits (tracker : PositionTracker) : Prop :=
  MoveFits (exactAxes tracker.acceleration.curr) (exactAxes tracker.acceleration.last)
    tracker.duration (exactCoordinates tracker.begin.velocity)
    (exactCoordinates tracker.position)

instance (tracker : PositionTracker) : Decidable tracker.RecordFits :=
  inferInstanceAs (Decidable (MoveFits _ _ _ _ _))

/-- No result of the callback's integration leaves its type. -/
def CallbackFits (tracker : PositionTracker) (reading : Reading) : Prop :=
  (tracker.sampled reading).noiseGate.isOpened = true → (tracker.sampled reading).RecordFits

instance (tracker : PositionTracker) (reading : Reading) :
    Decidable (tracker.CallbackFits reading) :=
  inferInstanceAs (Decidable (_ → _))

/-- The callback as a step, without its reports. -/
def advance : LabelledStep PositionTracker Reading
  | tracker, reading => some (sampleCallback tracker reading).1

theorem begin_of_some {tracker : PositionTracker} {event : Position}
    (started : tracker.eventPosition = some event) : tracker.begin = tracker := by
  rw [begin, started]

theorem begin_of_none {tracker : PositionTracker} (idle : tracker.eventPosition = none) :
    tracker.begin =
      { tracker with
        eventTimeRange := { tracker.eventTimeRange with
          startedAt := tracker.acceleration.tsCurr.toUInt64 }
        eventPosition := some ⟨tracker.position, (0, 0, 0)⟩
        velocity := (0, 0, 0) } := by
  rw [begin, idle]

@[simp]
theorem begin_acceleration (tracker : PositionTracker) :
    tracker.begin.acceleration = tracker.acceleration := by
  cases event : tracker.eventPosition with
  | none => rw [begin_of_none event]
  | some position => rw [begin_of_some event]

@[simp]
theorem begin_position (tracker : PositionTracker) :
    tracker.begin.position = tracker.position := by
  cases event : tracker.eventPosition with
  | none => rw [begin_of_none event]
  | some position => rw [begin_of_some event]

@[simp]
theorem begin_noiseGate (tracker : PositionTracker) :
    tracker.begin.noiseGate = tracker.noiseGate := by
  cases event : tracker.eventPosition with
  | none => rw [begin_of_none event]
  | some position => rw [begin_of_some event]

theorem acceleration_endOfRecord (tracker : PositionTracker) :
    tracker.endOfRecord.1.acceleration = tracker.acceleration := by
  rw [endOfRecord]
  split
  · rfl
  · rfl

/-- Whatever a callback does, it keeps the sample it has read. -/
theorem acceleration_sampleCallback (tracker : PositionTracker) (reading : Reading) :
    (sampleCallback tracker reading).1.acceleration = tracker.acceleration.sample reading := by
  rw [sampleCallback_eq]
  split
  · exact begin_acceleration _
  · split
    · exact acceleration_endOfRecord _
    · rfl

/-- Recording computes the exact movement as long as its results fit. -/
theorem exact_record (tracker : PositionTracker) (fits : tracker.RecordFits) :
    (exactCoordinates tracker.record.velocity, exactCoordinates tracker.record.position) =
      tracker.exactRecord := by
  have moved := Acceleration.exact_applyVelocityAndPosition tracker.acceleration
    tracker.begin.velocity tracker.position fits
  simp only [record, begin_acceleration, begin_position]
  exact moved

end PositionTracker

end Bug.Firmware
