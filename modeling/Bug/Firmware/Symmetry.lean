import Bug.Firmware.Integration

/-!
# Opposite movements

Two runs of the tracker whose corrected readings are negated at the same times.
The gate judges absolute values, the noise cut is symmetric and both divisions
truncate toward zero, so one run is the mirror image of the other as long as no
result leaves its type.
-/

namespace Bug.Firmware

open Bug.Transition

theorem exactCoordinates_injective : Function.Injective exactCoordinates := by
  intro left right same
  simp only [exactCoordinates, Prod.mk.injEq, Int32.toInt_inj] at same
  rcases left with ⟨x, y, z⟩
  rcases right with ⟨x', y', z'⟩
  simpa using same

/-- Opposite places are equal exactly when the places are. -/
theorem eq_iff_of_neg {first second first' second' : Coordinates}
    (opposite : exactCoordinates first' = -exactCoordinates first)
    (opposite' : exactCoordinates second' = -exactCoordinates second) :
    first' = second' ↔ first = second := by
  rw [← exactCoordinates_injective.eq_iff, opposite, opposite', neg_inj,
    exactCoordinates_injective.eq_iff]

namespace Acceleration

/-- The threshold is compared with absolute values. -/
theorem exceeds_eq_of_neg {left right : Acceleration}
    (opposite : exactAxes right.curr = -exactAxes left.curr) (rhs : Int64) :
    right.exceeds rhs = left.exceeds rhs := by
  simp only [exactAxes, Prod.neg_mk, Prod.mk.injEq] at opposite
  rcases opposite with ⟨first, second, third⟩
  simp only [exceeds, first, second, third, Int.natAbs_neg]

end Acceleration

namespace PositionTracker

/-- The events in progress begin at opposite places. -/
inductive OpposedEvent : Option Position → Option Position → Prop
  | none : OpposedEvent .none .none
  | some {left right : Position} : exactCoordinates right.start = -exactCoordinates left.start →
      OpposedEvent (.some left) (.some right)

theorem OpposedEvent.none_or_some {left right : Option Position}
    (event : OpposedEvent left right) :
    (left = .none ∧ right = .none) ∨
      ∃ first second, left = .some first ∧ right = .some second ∧
        exactCoordinates second.start = -exactCoordinates first.start := by
  cases event with
  | none => exact Or.inl ⟨rfl, rfl⟩
  | some opposite => exact Or.inr ⟨_, _, rfl, rfl, opposite⟩

/-- Reports with opposite ends and the same times. -/
inductive OpposedOutput : Output → Output → Prop
  | send {left right : Report} :
      exactCoordinates right.position.start = -exactCoordinates left.position.start →
      exactCoordinates right.position.stop = -exactCoordinates left.position.stop →
      right.range = left.range → OpposedOutput (.send left) (.send right)
  | unexpectedCall : OpposedOutput .unexpectedCall .unexpectedCall

/-- Two trackers that are mirror images of each other. -/
structure Opposed (left right : PositionTracker) : Prop where
  noiseGate_eq : right.noiseGate = left.noiseGate
  tsLast_eq : right.acceleration.tsLast = left.acceleration.tsLast
  tsCurr_eq : right.acceleration.tsCurr = left.acceleration.tsCurr
  last_neg : exactAxes right.acceleration.last = -exactAxes left.acceleration.last
  curr_neg : exactAxes right.acceleration.curr = -exactAxes left.acceleration.curr
  velocity_neg : exactCoordinates right.velocity = -exactCoordinates left.velocity
  position_neg : exactCoordinates right.position = -exactCoordinates left.position
  range_eq : right.eventTimeRange = left.eventTimeRange
  event : OpposedEvent left.eventPosition right.eventPosition

/-- Readings at the same time whose corrected axes are negated. -/
structure OppositeReadings (leftBias rightBias : Axes) (left right : Reading) : Prop where
  msCount_eq : right.msCount = left.msCount
  corrected_neg : exactAxes (corrected rightBias right.axes) =
    -exactAxes (corrected leftBias left.axes)

variable {left right : PositionTracker}

theorem Opposed.sampled (opposed : Opposed left right) {first second : Reading}
    (opposite : OppositeReadings left.acceleration.bias right.acceleration.bias first second) :
    Opposed (left.sampled first) (right.sampled second) where
  noiseGate_eq := by
    simp only [PositionTracker.sampled, opposed.noiseGate_eq]
    apply NoiseGate.nextState_congr
    apply Acceleration.exceeds_eq_of_neg
    exact opposite.corrected_neg
  tsLast_eq := opposed.tsCurr_eq
  tsCurr_eq := congrArg UInt64.toInt64 opposite.msCount_eq
  last_neg := opposed.curr_neg
  curr_neg := opposite.corrected_neg
  velocity_neg := opposed.velocity_neg
  position_neg := opposed.position_neg
  range_eq := opposed.range_eq
  event := opposed.event

theorem Opposed.begin (opposed : Opposed left right) : Opposed left.begin right.begin := by
  rcases opposed.event.none_or_some with
    ⟨leftEvent, rightEvent⟩ | ⟨first, second, leftEvent, rightEvent, -⟩
  · rw [begin_of_none leftEvent, begin_of_none rightEvent]
    exact { opposed with
      velocity_neg := rfl
      range_eq := by rw [opposed.range_eq, opposed.tsCurr_eq]
      event := .some opposed.position_neg }
  · rw [begin_of_some leftEvent, begin_of_some rightEvent]
    exact opposed

theorem Opposed.exactRecord (opposed : Opposed left right) :
    right.exactRecord = -left.exactRecord := by
  rw [PositionTracker.exactRecord, PositionTracker.exactRecord, ← exactMove_neg, duration, duration,
    opposed.tsLast_eq, opposed.tsCurr_eq, opposed.curr_neg, opposed.last_neg, opposed.position_neg,
    opposed.begin.velocity_neg]

theorem Opposed.record (opposed : Opposed left right) (leftFits : left.RecordFits)
    (rightFits : right.RecordFits) : Opposed left.record right.record := by
  have begun := opposed.begin
  have moved : (exactCoordinates right.record.velocity, exactCoordinates right.record.position) =
      -(exactCoordinates left.record.velocity, exactCoordinates left.record.position) := by
    rw [exact_record left leftFits, exact_record right rightFits, opposed.exactRecord]
  exact {
    noiseGate_eq := begun.noiseGate_eq
    tsLast_eq := begun.tsLast_eq
    tsCurr_eq := begun.tsCurr_eq
    last_neg := begun.last_neg
    curr_neg := begun.curr_neg
    velocity_neg := congrArg Prod.fst moved
    position_neg := congrArg Prod.snd moved
    range_eq := begun.range_eq
    event := begun.event }

theorem endOfRecord_of_some {tracker : PositionTracker} {event : Position}
    (started : tracker.eventPosition = some event) :
    tracker.endOfRecord =
      ({ tracker with
          eventTimeRange := { tracker.eventTimeRange with
            endedAt := tracker.acceleration.tsCurr.toUInt64 }
          eventPosition := none },
        if event.start ≠ tracker.position then
          [.send ⟨{ event with stop := tracker.position },
            { tracker.eventTimeRange with
              endedAt := tracker.acceleration.tsCurr.toUInt64 }⟩]
        else
          []) := by
  rw [endOfRecord, started]

/-- Opposite events end at opposite places, or both where they began. -/
theorem Opposed.endOfRecord (opposed : Opposed left right) :
    Opposed left.endOfRecord.1 right.endOfRecord.1 ∧
      List.Forall₂ OpposedOutput left.endOfRecord.2 right.endOfRecord.2 := by
  rcases opposed.event.none_or_some with
    ⟨leftEvent, rightEvent⟩ | ⟨first, second, leftEvent, rightEvent, opposite⟩
  · rw [PositionTracker.endOfRecord, PositionTracker.endOfRecord, leftEvent, rightEvent]
    exact ⟨opposed, .cons .unexpectedCall .nil⟩
  · have range : { right.eventTimeRange with endedAt := right.acceleration.tsCurr.toUInt64 } =
        { left.eventTimeRange with endedAt := left.acceleration.tsCurr.toUInt64 } := by
      rw [opposed.range_eq, opposed.tsCurr_eq]
    rw [endOfRecord_of_some leftEvent, endOfRecord_of_some rightEvent]
    constructor
    · exact { opposed with
        range_eq := range
        event := .none }
    · have stayed := eq_iff_of_neg opposite opposed.position_neg
      by_cases still : first.start = left.position
      · rw [if_neg (not_not.mpr still), if_neg (not_not.mpr (stayed.mpr still))]
        exact .nil
      · rw [if_pos still, if_pos (mt stayed.mp still)]
        exact .cons (.send opposite opposed.position_neg range) .nil

/-- One callback keeps the trackers opposed and reports opposite movements. -/
theorem Opposed.sampleCallback (opposed : Opposed left right) {first second : Reading}
    (opposite : OppositeReadings left.acceleration.bias right.acceleration.bias first second)
    (leftFits : left.CallbackFits first) (rightFits : right.CallbackFits second) :
    Opposed (PositionTracker.sampleCallback left first).1
        (PositionTracker.sampleCallback right second).1 ∧
      List.Forall₂ OpposedOutput (PositionTracker.sampleCallback left first).2
        (PositionTracker.sampleCallback right second).2 := by
  have sampled := opposed.sampled opposite
  rw [sampleCallback_eq, sampleCallback_eq, sampled.noiseGate_eq, opposed.noiseGate_eq]
  split
  · rename_i isOpen
    constructor
    · apply sampled.record (leftFits isOpen)
      exact rightFits (by rw [sampled.noiseGate_eq]; exact isOpen)
    · exact .nil
  · split
    · exact sampled.endOfRecord
    · exact ⟨sampled, .nil⟩

theorem opposed_new {leftBias rightBias : Axes} {first second : Reading}
    (opposite : OppositeReadings leftBias rightBias first second) :
    Opposed (new leftBias first) (new rightBias second) where
  noiseGate_eq := rfl
  tsLast_eq := rfl
  tsCurr_eq := congrArg UInt64.toInt64 opposite.msCount_eq
  last_neg := rfl
  curr_neg := opposite.corrected_neg
  velocity_neg := rfl
  position_neg := rfl
  range_eq := rfl
  event := .none

/-- Opposite readings keep opposed trackers opposed over a whole run. -/
theorem Opposed.run {leftBias rightBias : Axes} (pairs : List (Reading × Reading))
    (opposite : ∀ pair ∈ pairs, OppositeReadings leftBias rightBias pair.1 pair.2)
    (opposed : Opposed left right) (leftBias_eq : left.acceleration.bias = leftBias)
    (rightBias_eq : right.acceleration.bias = rightBias)
    (leftFits : Throughout advance CallbackFits left (pairs.map Prod.fst))
    (rightFits : Throughout advance CallbackFits right (pairs.map Prod.snd)) :
    Opposed (Transition.run PositionTracker.sampleCallback left (pairs.map Prod.fst)).1
        (Transition.run PositionTracker.sampleCallback right (pairs.map Prod.snd)).1 ∧
      List.Forall₂ OpposedOutput
        (Transition.run PositionTracker.sampleCallback left (pairs.map Prod.fst)).2
        (Transition.run PositionTracker.sampleCallback right (pairs.map Prod.snd)).2 := by
  induction pairs generalizing left right with
  | nil => exact ⟨opposed, .nil⟩
  | cons pair pairs ih =>
      rcases List.forall_mem_cons.mp opposite with ⟨head, tail⟩
      rcases leftFits with ⟨leftHead, leftTail⟩
      rcases rightFits with ⟨rightHead, rightTail⟩
      rw [← leftBias_eq, ← rightBias_eq] at head
      rcases opposed.sampleCallback head leftHead rightHead with ⟨next, reported⟩
      have rest := ih tail next
        (by rw [acceleration_sampleCallback]; exact leftBias_eq)
        (by rw [acceleration_sampleCallback]; exact rightBias_eq) leftTail rightTail
      constructor
      · exact rest.1
      · exact List.rel_append reported rest.2

/-- Negating every corrected reading negates the run.  At every sample the gates
stand alike and velocity and position are negated, and so are both ends of every
report, with unchanged times, as long as no result of either run leaves its
type. -/
theorem opposed_readings_opposed_runs (leftBias rightBias : Axes) (first second : Reading)
    (pairs : List (Reading × Reading))
    (opposite : ∀ pair ∈ (first, second) :: pairs,
      OppositeReadings leftBias rightBias pair.1 pair.2)
    (leftFits : Throughout advance CallbackFits (new leftBias first) (pairs.map Prod.fst))
    (rightFits : Throughout advance CallbackFits (new rightBias second) (pairs.map Prod.snd))
    (before : List (Reading × Reading)) (isPrefix : before <+: pairs) :
    let left := Transition.run sampleCallback (new leftBias first) (before.map Prod.fst)
    let right := Transition.run sampleCallback (new rightBias second) (before.map Prod.snd)
    right.1.noiseGate = left.1.noiseGate ∧
      exactCoordinates right.1.velocity = -exactCoordinates left.1.velocity ∧
      exactCoordinates right.1.position = -exactCoordinates left.1.position ∧
      List.Forall₂ OpposedOutput left.2 right.2 := by
  rcases isPrefix with ⟨after, rfl⟩
  rcases List.forall_mem_cons.mp opposite with ⟨start, later⟩
  rw [List.map_append] at leftFits rightFits
  have outcome := (opposed_new start).run before
    (fun pair member => later pair (List.mem_append_left _ member)) rfl rfl
    (throughout_of_append leftFits) (throughout_of_append rightFits)
  exact ⟨outcome.1.noiseGate_eq, outcome.1.velocity_neg, outcome.1.position_neg, outcome.2⟩

/-- The knock and its mirror image. -/
def oppositeKnocks : List (Reading × Reading) :=
  knock.map fun reading => (reading, { reading with axes := corrected reading.axes (0, 0, 0) })

/-- The one report of the knock has its mirror image. -/
theorem opposed_readings_opposed_runs_knock :
    (Transition.run sampleCallback (new (0, 0, 0) ⟨0, (0, 0, 0)⟩)
        (oppositeKnocks.map Prod.fst)).2.length = 1 ∧
      List.Forall₂ OpposedOutput
        (Transition.run sampleCallback (new (0, 0, 0) ⟨0, (0, 0, 0)⟩)
          (oppositeKnocks.map Prod.fst)).2
        (Transition.run sampleCallback (new (0, 0, 0) ⟨0, (0, 0, 0)⟩)
          (oppositeKnocks.map Prod.snd)).2 := by
  have opposite : ∀ pair ∈ (⟨0, (0, 0, 0)⟩, ⟨0, (0, 0, 0)⟩) :: oppositeKnocks,
      pair.2.msCount = pair.1.msCount ∧ exactAxes (corrected (0, 0, 0) pair.2.axes) =
        -exactAxes (corrected (0, 0, 0) pair.1.axes) := by decide +kernel
  constructor
  · decide +kernel
  · have runs := opposed_readings_opposed_runs (0, 0, 0) (0, 0, 0) ⟨0, (0, 0, 0)⟩ ⟨0, (0, 0, 0)⟩
      oppositeKnocks (fun pair member => ⟨(opposite pair member).1, (opposite pair member).2⟩)
      (by decide +kernel) (by decide +kernel) oppositeKnocks List.prefix_rfl
    exact runs.2.2.2

end PositionTracker

end Bug.Firmware
