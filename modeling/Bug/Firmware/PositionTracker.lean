import Bug.Firmware.BugEvent
import Bug.Firmware.NoiseGate
import Mathlib.Data.List.Chain

/-!
# The position tracker

Every sample of the accelerometer passes the noise gate.  While the gate is open
the tracker integrates the samples into its position; when it closes, the tracker
reports where it was before and where it is now, unless that is the same place.
Arithmetic is that of the source's types: sums of readings in 16 bits, velocity
and position in 32 bits, products with a duration in 64 bits.
-/

namespace Bug.Firmware

open Bug.Transition

/-- The three axes of an accelerometer reading. -/
abbrev Axes := Int16 × Int16 × Int16

/-- The constant `SAMPLE_NOISE_2`. -/
def sampleNoise2 : Nat := 3

/-- The constant `SAMPLE_POSITION_DOWN_SCALE`. -/
def samplePositionDownScale : Int64 := 100000

/-- The constant `NOISE_GATE_THRESHOULD`. -/
def noiseGateThreshold : Int64 := 10

/-- The constant `NOISE_GATE_RELEASE_COUNT`: 0.3 s in samples of 30 ms. -/
def noiseGateReleaseCount : UInt16 := 10

/-- What one `sample` reads: the milliseconds since the start and the raw axes. -/
structure Reading where
  msCount : UInt64
  axes : Axes
  deriving DecidableEq

structure Acceleration where
  bias : Axes
  last : Axes
  curr : Axes
  tsLast : Int64
  tsCurr : Int64
  deriving DecidableEq

namespace Acceleration

/-- The operator `>`: some axis exceeds the threshold in absolute value. -/
def exceeds (acceleration : Acceleration) (rhs : Int64) : Bool :=
  decide (rhs.toInt < acceleration.curr.1.toInt.natAbs) ||
    decide (rhs.toInt < acceleration.curr.2.1.toInt.natAbs) ||
    decide (rhs.toInt < acceleration.curr.2.2.toInt.natAbs)

def sample (acceleration : Acceleration) (reading : Reading) : Acceleration :=
  { acceleration with
    tsLast := acceleration.tsCurr
    tsCurr := reading.msCount.toInt64
    last := acceleration.curr
    curr := (reading.axes.1 - acceleration.bias.1, reading.axes.2.1 - acceleration.bias.2.1,
      reading.axes.2.2 - acceleration.bias.2.2) }

/-- The constructor: the first axes read are the bias. -/
def new (bias : Axes) (reading : Reading) : Acceleration :=
  sample { bias := bias, last := (0, 0, 0), curr := (0, 0, 0), tsLast := 0, tsCurr := 0 } reading

/-- The new velocity of one axis. -/
def applyVelocity (sum : Int16) (duration : Int64) (velocity : Int32) : Int32 :=
  let change := (if sampleNoise2 < sum.toInt.natAbs then sum.toInt64 else 0) * duration / 2
  (velocity.toInt64 + change).toInt32

/-- The new position of one axis. -/
def applyPosition (velocity : Int32) (duration : Int64) (position : Int32) : Int32 :=
  (position.toInt64 + velocity.toInt64 * duration / samplePositionDownScale).toInt32

/-- The velocity and the position after the time between two samples. -/
def applyVelocityAndPosition (acceleration : Acceleration)
    (velocity position : Coordinates) : Coordinates × Coordinates :=
  let duration := acceleration.tsCurr - acceleration.tsLast
  let velocity : Coordinates :=
    (applyVelocity (acceleration.curr.1 + acceleration.last.1) duration velocity.1,
      applyVelocity (acceleration.curr.2.1 + acceleration.last.2.1) duration velocity.2.1,
      applyVelocity (acceleration.curr.2.2 + acceleration.last.2.2) duration velocity.2.2)
  (velocity,
    (applyPosition velocity.1 duration position.1,
      applyPosition velocity.2.1 duration position.2.1,
      applyPosition velocity.2.2 duration position.2.2))

end Acceleration

structure PositionTracker where
  noiseGate : NoiseGate Int64
  acceleration : Acceleration
  velocity : Coordinates
  position : Coordinates
  eventTimeRange : TimeRange
  eventPosition : Option Position

/-- An event handed to the client. -/
structure Report where
  position : Position
  range : TimeRange
  deriving DecidableEq

namespace PositionTracker

inductive Output where
  | send (report : Report)
  /-- The error of `end_of_record` without an event object. -/
  | unexpectedCall
  deriving DecidableEq

/-- The tracker after its constructor and `init_callback`. -/
def new (bias : Axes) (reading : Reading) : PositionTracker where
  noiseGate := .new noiseGateThreshold noiseGateReleaseCount
  acceleration := .new bias reading
  velocity := (0, 0, 0)
  position := (0, 0, 0)
  eventTimeRange := ⟨0, 0⟩
  eventPosition := none

/-- The event object and the velocity that `record` works on. -/
def begin (tracker : PositionTracker) : PositionTracker :=
  match tracker.eventPosition with
  | some _ => tracker
  | none =>
      { tracker with
        eventTimeRange := { tracker.eventTimeRange with
          startedAt := tracker.acceleration.tsCurr.toUInt64 }
        eventPosition := some ⟨tracker.position, (0, 0, 0)⟩
        velocity := (0, 0, 0) }

def record (tracker : PositionTracker) : PositionTracker :=
  let tracker := tracker.begin
  let moved := tracker.acceleration.applyVelocityAndPosition tracker.velocity tracker.position
  { tracker with
    velocity := moved.1
    position := moved.2 }

def endOfRecord (tracker : PositionTracker) : PositionTracker × List Output :=
  match tracker.eventPosition with
  | none => (tracker, [.unexpectedCall])
  | some event =>
      let position : Position := { event with stop := tracker.position }
      let range := { tracker.eventTimeRange with
        endedAt := tracker.acceleration.tsCurr.toUInt64 }
      ({ tracker with
          eventTimeRange := range
          eventPosition := none },
        if position.start ≠ position.stop then [.send ⟨position, range⟩] else [])

/-- The tracker as the sink of its gate. -/
def answer : Reaction PositionTracker (Call Acceleration) Output
  | tracker, .record _ => (tracker.record, [])
  | tracker, .endOfRecord => tracker.endOfRecord

def sampleCallback : Reaction PositionTracker Reading Output
  | tracker, reading =>
      let acceleration := tracker.acceleration.sample reading
      let (noiseGate, calls) := tracker.noiseGate.process Acceleration.exceeds acceleration
      run answer { tracker with
        acceleration := acceleration
        noiseGate := noiseGate } calls

end PositionTracker

/-! ## One unbroken path -/

/-- Reports that lead from the origin to the given place, the last of them ended
at the given time. -/
inductive Path : List Report → Coordinates → UInt64 → Prop
  | origin : Path [] (0, 0, 0) 0
  | extend {reports : List Report} {place : Coordinates} {time : UInt64} {report : Report} :
      Path reports place time → report.position.start = place →
      report.position.start ≠ report.position.stop → time ≤ report.range.startedAt →
      report.range.startedAt ≤ report.range.endedAt →
      Path (reports ++ [report]) report.position.stop report.range.endedAt

/-- Where the last report of a path ends. -/
theorem Path.last {reports : List Report} {place : Coordinates} {time : UInt64}
    (path : Path reports place time) :
    (∀ report ∈ reports.getLast?, report.position.stop = place ∧ report.range.endedAt = time) ∧
      (reports = [] → place = (0, 0, 0)) := by
  cases path with
  | origin => exact ⟨nofun, fun _ => rfl⟩
  | extend => simp

/-- A path in terms of its reports. -/
theorem Path.unbroken {reports : List Report} {place : Coordinates} {time : UInt64}
    (path : Path reports place time) :
    (∀ report ∈ reports, report.position.start ≠ report.position.stop ∧
        report.range.startedAt ≤ report.range.endedAt) ∧
      (∀ report ∈ reports.head?, report.position.start = (0, 0, 0)) ∧
      reports.IsChain fun earlier later =>
        later.position.start = earlier.position.stop ∧
          earlier.range.endedAt ≤ later.range.startedAt := by
  induction path with
  | origin => exact ⟨nofun, nofun, List.isChain_nil⟩
  | @extend reports place time report path startEq moved after ordered ih =>
      rcases ih with ⟨each, first, chain⟩
      rcases path.last with ⟨lastEq, originEq⟩
      refine ⟨?_, ?_, ?_⟩
      · intro other member
        rcases List.mem_append.mp member with earlier | last
        · exact each other earlier
        · rw [List.mem_singleton.mp last]
          exact ⟨moved, ordered⟩
      · cases reports with
        | nil =>
            intro other member
            cases member
            exact startEq.trans (originEq rfl)
        | cons head tail => exact first
      · apply List.isChain_append.mpr
        refine ⟨chain, List.isChain_singleton _, ?_⟩
        intro earlier isLast later isHead
        cases isHead
        rcases lastEq earlier isLast with ⟨stopEq, endedEq⟩
        rw [stopEq, endedEq]
        exact ⟨startEq, after⟩

namespace PositionTracker

/-- The reports so far, the event in progress and the gate fit together: an
event is in progress while the gate is open, it started where the path ends, and
without one the tracker stands at the end of the path. -/
structure Tracked (tracker : PositionTracker) (reports : List Report) (latest : UInt64) :
    Prop where
  opened_eq : tracker.noiseGate.isOpened = tracker.eventPosition.isSome
  path : ∃ place time, Path reports place time ∧ time ≤ latest ∧
    match tracker.eventPosition with
    | none => tracker.position = place
    | some event => event.start = place ∧ time ≤ tracker.eventTimeRange.startedAt ∧
        tracker.eventTimeRange.startedAt ≤ latest

theorem tracked_new (bias : Axes) (reading : Reading) : Tracked (new bias reading) [] 0 where
  opened_eq := rfl
  path := ⟨(0, 0, 0), 0, .origin, UInt64.le_refl 0, rfl⟩

variable {tracker : PositionTracker} {reports : List Report} {latest : UInt64}

/-- Recording a sample starts an event where the path ends, or goes on with
one. -/
theorem Tracked.record (gate : NoiseGate Int64) (acceleration : Acceleration)
    (tracked : Tracked tracker reports latest) (isOpen : gate.isOpened = true)
    (later : latest ≤ acceleration.tsCurr.toUInt64) :
    Tracked { tracker with acceleration := acceleration, noiseGate := gate }.record reports
      acceleration.tsCurr.toUInt64 := by
  rcases tracker with ⟨oldGate, oldAcceleration, velocity, position, range, event⟩
  rcases tracked.path with ⟨place, time, path, early, standing⟩
  cases event with
  | none =>
      exact ⟨isOpen, place, time, path, UInt64.le_trans early later, standing,
        UInt64.le_trans early later, UInt64.le_refl _⟩
  | some event =>
      exact ⟨isOpen, place, time, path, UInt64.le_trans early later, standing.1, standing.2.1,
        UInt64.le_trans standing.2.2 later⟩

/-- The end of a record reports the event if it led anywhere. -/
theorem Tracked.endOfRecord (gate : NoiseGate Int64) (acceleration : Acceleration)
    (tracked : Tracked tracker reports latest) (wasOpen : tracker.noiseGate.isOpened = true)
    (isClosed : gate.isOpened = false) (later : latest ≤ acceleration.tsCurr.toUInt64) :
    ∃ more : List Report,
      ({ tracker with acceleration := acceleration, noiseGate := gate }.endOfRecord).2 =
          more.map .send ∧
        Tracked ({ tracker with acceleration := acceleration, noiseGate := gate }.endOfRecord).1
          (reports ++ more) acceleration.tsCurr.toUInt64 := by
  rcases tracker with ⟨oldGate, oldAcceleration, velocity, position, range, event⟩
  rcases tracked.path with ⟨place, time, path, early, standing⟩
  cases event with
  | none => cases wasOpen.symm.trans tracked.opened_eq
  | some event =>
      rcases standing with ⟨startEq, after, before⟩
      by_cases moved : event.start = position
      · refine ⟨[], by simp [PositionTracker.endOfRecord, moved], ?_⟩
        rw [List.append_nil]
        exact ⟨isClosed, place, time, path, UInt64.le_trans early later, moved.symm.trans startEq⟩
      · let report : Report := ⟨{ event with stop := position },
          { range with endedAt := acceleration.tsCurr.toUInt64 }⟩
        have extended : Path (reports ++ [report]) position acceleration.tsCurr.toUInt64 :=
          .extend path startEq moved after (UInt64.le_trans before later)
        refine ⟨[report], by simp [PositionTracker.endOfRecord, moved, report], ?_⟩
        exact ⟨isClosed, position, _, extended, UInt64.le_refl _, rfl⟩

/-- A sample behind the closed gate changes neither place nor reports. -/
theorem Tracked.dropped (gate : NoiseGate Int64) (acceleration : Acceleration)
    (tracked : Tracked tracker reports latest) (wasClosed : tracker.noiseGate.isOpened = false)
    (isClosed : gate.isOpened = false) (later : latest ≤ acceleration.tsCurr.toUInt64) :
    Tracked { tracker with acceleration := acceleration, noiseGate := gate } reports
      acceleration.tsCurr.toUInt64 := by
  rcases tracker with ⟨oldGate, oldAcceleration, velocity, position, range, event⟩
  rcases tracked.path with ⟨place, time, path, early, standing⟩
  cases event with
  | none => exact ⟨isClosed, place, time, path, UInt64.le_trans early later, standing⟩
  | some event => cases wasClosed.symm.trans tracked.opened_eq

theorem tsCurr_sample (acceleration : Acceleration) (reading : Reading) :
    (acceleration.sample reading).tsCurr.toUInt64 = reading.msCount := by
  simp [Acceleration.sample]

/-- One callback extends the path by at most one report. -/
theorem Tracked.sampleCallback (tracked : Tracked tracker reports latest) {reading : Reading}
    (later : latest ≤ reading.msCount) :
    ∃ more : List Report,
      (PositionTracker.sampleCallback tracker reading).2 = more.map .send ∧
        Tracked (PositionTracker.sampleCallback tracker reading).1 (reports ++ more)
          reading.msCount := by
  rw [← tsCurr_sample tracker.acceleration reading] at later ⊢
  simp only [PositionTracker.sampleCallback]
  rcases NoiseGate.process_cases Acceleration.exceeds tracker.noiseGate
      (tracker.acceleration.sample reading) with
    ⟨isOpen, calls⟩ | ⟨isClosed, wasOpen, calls⟩ | ⟨isClosed, wasClosed, calls⟩
  · rw [calls, run_singleton]
    refine ⟨[], rfl, ?_⟩
    rw [List.append_nil]
    exact tracked.record _ _ isOpen later
  · rw [calls, run_singleton]
    exact tracked.endOfRecord _ _ wasOpen isClosed later
  · rw [calls, run_nil]
    refine ⟨[], rfl, ?_⟩
    rw [List.append_nil]
    exact tracked.dropped _ _ wasClosed isClosed later

theorem tracked_run (bias : Axes) (reading : Reading) (readings : List Reading)
    (ordered : (readings.map Reading.msCount).Pairwise (· ≤ ·)) :
    ∃ (reports : List Report) (latest : UInt64),
      (run PositionTracker.sampleCallback (new bias reading) readings).2 = reports.map .send ∧
        Tracked (run PositionTracker.sampleCallback (new bias reading) readings).1 reports latest ∧
        ∀ bound, (∀ earlier ∈ readings, earlier.msCount ≤ bound) → latest ≤ bound := by
  induction readings using List.reverseRecOn with
  | nil => exact ⟨[], 0, rfl, tracked_new bias reading, fun _ _ => UInt64.zero_le⟩
  | append_singleton readings last ih =>
      rw [List.map_append, List.pairwise_append] at ordered
      rcases ih ordered.1 with ⟨reports, latest, sent, tracked, bounded⟩
      have later : latest ≤ last.msCount := by
        apply bounded
        intro earlier member
        exact ordered.2.2 _ (List.mem_map_of_mem member) _ List.mem_cons_self
      rcases tracked.sampleCallback later with ⟨more, sentMore, trackedMore⟩
      rw [run_concat]
      refine ⟨reports ++ more, last.msCount, ?_, trackedMore, ?_⟩
      · rw [sent, sentMore, List.map_append]
      · intro bound below
        exact below last (List.mem_append_right _ List.mem_cons_self)

/-- Over every run of samples with non-decreasing times, the reports form one
unbroken path from the origin: each leads somewhere else, each starts where and
not before the one before it ended, and no record ends without an event
object. -/
theorem unbroken_path (bias : Axes) (reading : Reading) (readings : List Reading)
    (ordered : (readings.map Reading.msCount).Pairwise (· ≤ ·)) :
    ∃ reports : List Report,
      (run PositionTracker.sampleCallback (new bias reading) readings).2 = reports.map .send ∧
        (∀ report ∈ reports, report.position.start ≠ report.position.stop ∧
          report.range.startedAt ≤ report.range.endedAt) ∧
        (∀ report ∈ reports.head?, report.position.start = (0, 0, 0)) ∧
        reports.IsChain fun earlier later =>
          later.position.start = earlier.position.stop ∧
            earlier.range.endedAt ≤ later.range.startedAt := by
  rcases tracked_run bias reading readings ordered with ⟨reports, latest, sent, tracked, -⟩
  rcases tracked.path with ⟨place, time, path, -⟩
  exact ⟨reports, sent, path.unbroken⟩

/-- One strong acceleration, and rest until the gate closes. -/
def knock : List Reading :=
  ⟨30, (2000, 0, 0)⟩ :: (List.range 12).map fun index =>
    ⟨60 + 30 * UInt64.ofNat index, (0, 0, 0)⟩

/-- The knock is reported once, and leads somewhere else. -/
theorem unbroken_path_knock :
    ∃ report : Report,
      (run PositionTracker.sampleCallback (new (0, 0, 0) ⟨0, (0, 0, 0)⟩) knock).2 =
          [.send report] ∧ report.position.start = (0, 0, 0) ∧
        report.position.stop ≠ (0, 0, 0) := by
  have once : (run PositionTracker.sampleCallback (new (0, 0, 0) ⟨0, (0, 0, 0)⟩)
      knock).2.length = 1 := by decide +kernel
  rcases unbroken_path (0, 0, 0) ⟨0, (0, 0, 0)⟩ knock (by decide) with
    ⟨reports, sent, each, first, -⟩
  rw [sent, List.length_map] at once
  rcases List.length_eq_one_iff.mp once with ⟨report, rfl⟩
  have startEq := first report rfl
  have moved := (each report List.mem_cons_self).1
  rw [startEq] at moved
  exact ⟨report, sent, startEq, moved.symm⟩

end PositionTracker

end Bug.Firmware
