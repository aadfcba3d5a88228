import Bug.Audio.NoiseGate
import Bug.Transition.Lockstep

/-!
# The noise gate of the firmware

The firmware's gate keeps the remaining release count in a field of its own.
The field is read only while the gate is closing; in the other states it holds
whatever the last closing left there.  Apart from that stale value it is the
gate of the audio client.
-/

namespace Bug.Firmware

open Bug.Transition

/-- The two calls of the firmware's `Sink`. -/
inductive Call (T : Type) where
  | record (value : T)
  | endOfRecord
  deriving DecidableEq

namespace NoiseGate

/-- The one-hot values of the state. -/
inductive State where
  | opened
  | closing
  | closed
  deriving DecidableEq

end NoiseGate

structure NoiseGate (TT : Type) where
  state : NoiseGate.State
  remainingReleaseCount : UInt16
  threshold : TT
  releaseCount : UInt16

namespace NoiseGate

variable {T TT : Type}

def new (threshold : TT) (releaseCount : UInt16) : NoiseGate TT where
  state := .closed
  remainingReleaseCount := 0
  threshold := threshold
  releaseCount := releaseCount

def isOpened (gate : NoiseGate TT) : Bool :=
  match gate.state with
  | .opened => true
  | .closing => true
  | .closed => false

variable (exceeds : T → TT → Bool)

def nextState (gate : NoiseGate TT) (value : T) : NoiseGate TT :=
  let overThreshold := exceeds value gate.threshold
  match gate.state with
  | .opened =>
      if !overThreshold then
        { gate with
          state := .closing
          remainingReleaseCount := gate.releaseCount }
      else
        gate
  | .closing =>
      if overThreshold then
        { gate with state := .opened }
      else if gate.remainingReleaseCount = 0 then
        { gate with state := .closed }
      else
        { gate with remainingReleaseCount := gate.remainingReleaseCount - 1 }
  | .closed =>
      if overThreshold then
        { gate with state := .opened }
      else
        gate

def process : Reaction (NoiseGate TT) T (Call T)
  | gate, value =>
      let wasOpen := gate.isOpened
      let gate := gate.nextState exceeds value
      if gate.isOpened then (gate, [.record value])
      else if wasOpen then (gate, [.endOfRecord])
      else (gate, [])

/-- A value is recorded by an open gate, ends the record of a closing one, and
is dropped by a closed one. -/
theorem process_cases (exceeds : T → TT → Bool) (gate : NoiseGate TT) (value : T) :
    (gate.nextState exceeds value).isOpened = true ∧
        process exceeds gate value = (gate.nextState exceeds value, [.record value]) ∨
      (gate.nextState exceeds value).isOpened = false ∧ gate.isOpened = true ∧
        process exceeds gate value = (gate.nextState exceeds value, [.endOfRecord]) ∨
      (gate.nextState exceeds value).isOpened = false ∧ gate.isOpened = false ∧
        process exceeds gate value = (gate.nextState exceeds value, []) := by
  cases isOpen : (gate.nextState exceeds value).isOpened with
  | true => exact Or.inl ⟨rfl, by simp [process, isOpen]⟩
  | false =>
      cases wasOpen : gate.isOpened with
      | true => exact Or.inr (Or.inl ⟨rfl, rfl, by simp [process, isOpen, wasOpen]⟩)
      | false => exact Or.inr (Or.inr ⟨rfl, rfl, by simp [process, isOpen, wasOpen]⟩)

end NoiseGate

/-! ## One machine -/

/-- What a call does, apart from the recorded value. -/
inductive CallKind where
  | record
  | stop
  deriving DecidableEq

def Call.kind {T : Type} : Call T → CallKind
  | record _ => .record
  | endOfRecord => .stop

/-- The same for a call on the audio client's sink. -/
def sinkCallKind {S : Type} : AudioSink.Call S → CallKind
  | .record _ => .record
  | .endOfTransmission => .stop

namespace NoiseGate

variable {S T TT : Type}

/-- The states agree, and so do the counts while they are read. -/
inductive SameState (remaining : UInt16) : State → Bug.NoiseGate.State → Prop
  | opened : SameState remaining .opened .opened
  | closing : SameState remaining .closing (.closing remaining.toNat)
  | closed : SameState remaining .closed .closed

/-- The firmware's gate and the audio client's gate stand alike. -/
structure Alike (threshold : TT) (openThreshold : S) (gate : NoiseGate TT)
    (client : Bug.NoiseGate S) : Prop where
  threshold_eq : gate.threshold = threshold
  openThreshold_eq : client.openThreshold = openThreshold
  release_eq : client.releaseSampleCount = gate.releaseCount.toNat
  state_same : SameState gate.remainingReleaseCount gate.state client.state

variable {exceeds : T → TT → Bool} {belowThreshold : S → S → Bool} {threshold : TT}
  {openThreshold : S} {gate : NoiseGate TT} {client : Bug.NoiseGate S} {value : T} {sample : S}

theorem Alike.isOpen_eq (alike : Alike threshold openThreshold gate client) :
    client.isOpen = gate.isOpened := by
  rcases gate with ⟨state, remaining, gateThreshold, release⟩
  rcases client with ⟨clientThreshold, clientRelease, clientState⟩
  have same := alike.state_same
  cases same <;> rfl

theorem nextState_threshold (gate : NoiseGate TT) (value : T) :
    (gate.nextState exceeds value).threshold = gate.threshold := by
  unfold nextState
  cases gate.state <;> simp only <;> split <;> (try split) <;> rfl

theorem nextState_releaseCount (gate : NoiseGate TT) (value : T) :
    (gate.nextState exceeds value).releaseCount = gate.releaseCount := by
  unfold nextState
  cases gate.state <;> simp only <;> split <;> (try split) <;> rfl

/-- A loud value opens both gates. -/
theorem SameState.of_loud (same : SameState gate.remainingReleaseCount gate.state client.state)
    (loud : exceeds value gate.threshold = true)
    (notBelow : belowThreshold sample client.openThreshold = false) :
    SameState (gate.nextState exceeds value).remainingReleaseCount
      (gate.nextState exceeds value).state (client.nextState belowThreshold sample).state := by
  rcases gate with ⟨state, remaining, threshold, release⟩
  rcases client with ⟨openThreshold, clientRelease, clientState⟩
  cases same <;> simp only [NoiseGate.nextState, Bug.NoiseGate.nextState, loud, notBelow] <;>
    exact .opened

/-- A quiet value starts both release counts, or lets them run down together. -/
theorem SameState.of_quiet (same : SameState gate.remainingReleaseCount gate.state client.state)
    (quiet : exceeds value gate.threshold = false)
    (below : belowThreshold sample client.openThreshold = true)
    (releaseEq : client.releaseSampleCount = gate.releaseCount.toNat) :
    SameState (gate.nextState exceeds value).remainingReleaseCount
      (gate.nextState exceeds value).state (client.nextState belowThreshold sample).state := by
  rcases gate with ⟨state, remaining, threshold, release⟩
  rcases client with ⟨openThreshold, clientRelease, clientState⟩
  simp only at same quiet below releaseEq
  subst releaseEq
  cases same with
  | opened =>
      simp only [NoiseGate.nextState, Bug.NoiseGate.nextState, quiet, below]
      exact .closing
  | closing =>
      by_cases done : remaining = 0
      · simp only [NoiseGate.nextState, Bug.NoiseGate.nextState, quiet, below, done]
        exact .closed
      · have positive : remaining.toNat ≠ 0 := fun zero => done (UInt16.toNat_inj.mp zero)
        have counted : (remaining - 1).toNat = remaining.toNat - 1 :=
          UInt16.toNat_sub_of_le _ _ (UInt16.le_iff_toNat_le.mpr (Nat.pos_of_ne_zero positive))
        simp only [NoiseGate.nextState, Bug.NoiseGate.nextState, quiet, below, done, positive,
          if_false]
        rw [← counted]
        exact .closing
  | closed =>
      simp only [NoiseGate.nextState, Bug.NoiseGate.nextState, quiet, below]
      exact .closed

theorem Alike.nextState (alike : Alike threshold openThreshold gate client)
    (agree : exceeds value threshold = !belowThreshold sample openThreshold) :
    Alike threshold openThreshold (gate.nextState exceeds value)
      (client.nextState belowThreshold sample) := by
  constructor
  · rw [nextState_threshold, alike.threshold_eq]
  · exact alike.openThreshold_eq
  · rw [nextState_releaseCount]
    exact alike.release_eq
  · rw [← alike.threshold_eq, ← alike.openThreshold_eq] at agree
    cases below : belowThreshold sample client.openThreshold with
    | false =>
        rw [below] at agree
        exact alike.state_same.of_loud agree below
    | true =>
        rw [below] at agree
        exact alike.state_same.of_quiet agree below alike.release_eq

/-- Every value makes the same call on both sides. -/
theorem simulates_process (exceeds : T → TT → Bool) (belowThreshold : S → S → Bool)
    (threshold : TT) (openThreshold : S) :
    Simulates (process exceeds) (Bug.NoiseGate.processSample belowThreshold) Call.kind sinkCallKind
      (Alike threshold openThreshold)
      fun value sample => exceeds value threshold = !belowThreshold sample openThreshold := by
  intro gate client value sample alike agree
  have next := alike.nextState agree
  simp only [process, Bug.NoiseGate.processSample]
  rw [alike.isOpen_eq, next.isOpen_eq]
  cases (gate.nextState exceeds value).isOpened with
  | true => exact ⟨next, rfl⟩
  | false =>
      cases gate.isOpened with
      | true => exact ⟨next, rfl⟩
      | false => exact ⟨next, rfl⟩

/-- The firmware's gate and the audio client's gate are one machine: fed with
values that are loud together, they make the same calls at every step, and so the
same sequence of calls. -/
theorem same_calls (exceeds : T → TT → Bool) (belowThreshold : S → S → Bool) (threshold : TT)
    (openThreshold : S) (releaseCount : UInt16) (inputs : List (T × S))
    (agree : ∀ pair ∈ inputs, exceeds pair.1 threshold = !belowThreshold pair.2 openThreshold) :
    (timeline (process exceeds) (new threshold releaseCount) (inputs.map Prod.fst)).map
          (List.map Call.kind) =
        (timeline (Bug.NoiseGate.processSample belowThreshold)
          (Bug.NoiseGate.new openThreshold releaseCount.toNat) (inputs.map Prod.snd)).map
            (List.map sinkCallKind) ∧
      (run (process exceeds) (new threshold releaseCount) (inputs.map Prod.fst)).2.map Call.kind =
        (Bug.NoiseGate.process belowThreshold
          (Bug.NoiseGate.new openThreshold releaseCount.toNat) (inputs.map Prod.snd)).2.map
            sinkCallKind := by
  have simulates := simulates_process exceeds belowThreshold threshold openThreshold
  have start : Alike threshold openThreshold (new threshold releaseCount)
      (Bug.NoiseGate.new openThreshold releaseCount.toNat) := ⟨rfl, rfl, rfl, .closed⟩
  constructor
  · exact timeline_eq_of_simulates simulates inputs agree start
  · exact run_eq_of_simulates simulates inputs agree start

/-- A loud value and two quiet ones, without a release time. -/
theorem same_calls_immediate :
    (run (process fun value threshold : Nat => decide (threshold < value)) (new 10 0)
        [11, 3, 3]).2.map Call.kind =
      (Bug.NoiseGate.process (fun sample threshold : Nat => decide (sample ≤ threshold))
        (Bug.NoiseGate.new 10 0) [11, 3, 3]).2.map sinkCallKind :=
  (same_calls _ _ 10 10 0 [(11, 11), (3, 3), (3, 3)] (by decide)).2

end NoiseGate

end Bug.Firmware
