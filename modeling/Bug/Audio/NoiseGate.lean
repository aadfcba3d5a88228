import Bug.Audio.Sink
import Bug.Transition.Recency

/-!
# The noise gate of the audio client

The gate opens at a loud sample, stays open while samples are loud and closes
after a release time of quiet ones.  What it passes on is a matter of the
distance to the latest loud sample only.  The loudness test is a parameter of
the gate.
-/

namespace Bug

open Bug.Transition

namespace NoiseGate

inductive State where
  | opened
  | closing (remainingSampleCount : Nat)
  | closed
  deriving DecidableEq

def State.isOpen : State → Bool
  | opened => true
  | closing _ => true
  | closed => false

end NoiseGate

structure NoiseGate (S : Type) where
  openThreshold : S
  releaseSampleCount : Nat
  state : NoiseGate.State
  deriving DecidableEq

namespace NoiseGate

open AudioSink (Call)

variable {S : Type}

def new (openThreshold : S) (releaseSampleCount : Nat) : NoiseGate S where
  openThreshold := openThreshold
  releaseSampleCount := releaseSampleCount
  state := .closed

def isOpen (gate : NoiseGate S) : Bool :=
  gate.state.isOpen

variable (belowThreshold : S → S → Bool)

def nextState (gate : NoiseGate S) (sample : S) : NoiseGate S :=
  { gate with
    state :=
      match gate.state with
      | .opened =>
          if belowThreshold sample gate.openThreshold then .closing gate.releaseSampleCount
          else .opened
      | .closing remainingSampleCount =>
          if belowThreshold sample gate.openThreshold then
            if remainingSampleCount = 0 then .closed
            else .closing (remainingSampleCount - 1)
          else
            .opened
      | .closed =>
          if belowThreshold sample gate.openThreshold then .closed
          else .opened }

/-- The body of the loop of `process`. -/
def processSample : Reaction (NoiseGate S) S (Call S)
  | gate, sample =>
      let wasOpen := gate.isOpen
      let gate := gate.nextState belowThreshold sample
      if gate.isOpen then (gate, [.record sample])
      else if wasOpen then (gate, [.endOfTransmission])
      else (gate, [])

/-- The calls that one slice of samples makes on the sink. -/
def process : Reaction (NoiseGate S) (List S) (Call S) :=
  run (processSample belowThreshold)

/-! ## The gate as a window -/

/-- The state of a gate whose latest loud sample lies the given number of
samples behind. -/
def stateOf (releaseSampleCount : Nat) : Option Nat → State
  | none => .closed
  | some 0 => .opened
  | some (behind + 1) =>
      if behind ≤ releaseSampleCount then .closing (releaseSampleCount - behind) else .closed

theorem isOpen_stateOf (release : Nat) (behind : Option Nat) :
    (stateOf release behind).isOpen = true ↔ ∃ distance ≤ release + 1, behind = some distance := by
  match behind with
  | none => simp [stateOf, State.isOpen]
  | some 0 => simp [stateOf, State.isOpen]
  | some (distance + 1) =>
      by_cases open_ : distance ≤ release
      · simp [stateOf, open_, State.isOpen]
      · simp [stateOf, open_, State.isOpen]

/-- One more sample resets the distance or lets it grow. -/
theorem state_nextState (gate : NoiseGate S) (sample : S) {behind : Option Nat}
    (stateEq : gate.state = stateOf gate.releaseSampleCount behind) :
    (gate.nextState belowThreshold sample).state =
      stateOf gate.releaseSampleCount
        (if !belowThreshold sample gate.openThreshold then some 0 else behind.map (· + 1)) := by
  cases quiet : belowThreshold sample gate.openThreshold with
  | false =>
      simp only [nextState, quiet]
      cases gate.state <;> rfl
  | true =>
      simp only [nextState, quiet, stateEq]
      match behind with
      | none => rfl
      | some 0 => rfl
      | some (distance + 1) =>
          simp only [stateOf, Option.map_some, Bool.not_true, Bool.false_eq_true, if_false, if_true]
          rcases Nat.lt_trichotomy distance gate.releaseSampleCount with near | brim | past
          · have left : gate.releaseSampleCount - distance ≠ 0 := by omega
            rw [if_pos near.le, if_pos (Nat.succ_le_of_lt near)]
            simp only [left, if_false]
            congr 1
          · rw [if_pos brim.le, if_neg (by omega), brim, Nat.sub_self]
            rfl
          · rw [if_neg (by omega), if_neg (by omega)]

/-- The calls at one position of a stream whose marked samples are loud. -/
def callsAt (marked : Nat → Bool) (releaseSampleCount : Nat) (sample : S) (index : Nat) :
    List (Call S) :=
  (if Within marked (releaseSampleCount + 1) index then [.record sample] else []) ++
    if Expires marked (releaseSampleCount + 2) index then [.endOfTransmission] else []

/-- One sample makes the calls of its position. -/
theorem processSample_eq {gate : NoiseGate S} {sample : S} {marked : Nat → Bool} {index : Nat}
    (stateEq : gate.state = stateOf gate.releaseSampleCount (age marked index))
    (loud : marked index = !belowThreshold sample gate.openThreshold) :
    (gate.nextState belowThreshold sample).state =
        stateOf gate.releaseSampleCount (age marked (index + 1)) ∧
      processSample belowThreshold gate sample =
        (gate.nextState belowThreshold sample,
          callsAt marked gate.releaseSampleCount sample index) := by
  have nextEq := gate.state_nextState belowThreshold sample stateEq
  rw [← loud, ← age] at nextEq
  have isOpenNext : (gate.nextState belowThreshold sample).isOpen = true ↔
      Within marked (gate.releaseSampleCount + 1) index := by
    rw [isOpen, nextEq, isOpen_stateOf, within_iff]
  have wasOpen : gate.isOpen = true ↔
      ∃ distance ≤ gate.releaseSampleCount + 1, age marked index = some distance := by
    rw [isOpen, stateEq, isOpen_stateOf]
  refine ⟨nextEq, ?_⟩
  simp only [processSample, callsAt]
  by_cases inside : Within marked (gate.releaseSampleCount + 1) index
  · rw [if_pos (isOpenNext.mpr inside), if_pos inside, if_neg (not_expires_of_within inside)]
    rfl
  · have expiresIff := (expires_iff_of_not_within inside).trans wasOpen.symm
    rw [if_neg (mt isOpenNext.mp inside), if_neg inside]
    by_cases expired : Expires marked (gate.releaseSampleCount + 2) index
    · rw [if_pos (expiresIff.mp expired), if_pos expired]
      rfl
    · rw [if_neg (mt expiresIff.mpr expired), if_neg expired]
      rfl

/-- The calls of a stream with their positions. -/
theorem run_positioned_eq {gate : NoiseGate S} {samples : List S} {marked : Nat → Bool}
    {index : Nat} (stateEq : gate.state = stateOf gate.releaseSampleCount (age marked index))
    (loud : ∀ offset sample, samples[offset]? = some sample →
      marked (index + offset) = !belowThreshold sample gate.openThreshold) :
    (run (positioned (processSample belowThreshold)) (gate, index) samples).2 =
      (samples.zipIdx index).flatMap fun entry =>
        (callsAt marked gate.releaseSampleCount entry.1 entry.2).map (entry.2, ·) := by
  induction samples generalizing gate index with
  | nil => rfl
  | cons sample samples ih =>
      rcases processSample_eq belowThreshold stateEq (loud 0 sample rfl) with ⟨nextEq, calls⟩
      have later : ∀ offset other, samples[offset]? = some other →
          marked (index + 1 + offset) = !belowThreshold other gate.openThreshold := by
        intro offset other found
        rw [Nat.add_assoc, Nat.add_comm 1]
        exact loud (offset + 1) other found
      rw [run_cons, positioned, calls, List.zipIdx_cons, List.flatMap_cons]
      exact congrArg
        (List.map (index, ·) (callsAt marked gate.releaseSampleCount sample index) ++ ·)
        (ih nextEq later)

theorem run_processSample_eq {gate : NoiseGate S} {samples : List S} {marked : Nat → Bool}
    {index : Nat} (stateEq : gate.state = stateOf gate.releaseSampleCount (age marked index))
    (loud : ∀ offset sample, samples[offset]? = some sample →
      marked (index + offset) = !belowThreshold sample gate.openThreshold) :
    (run (processSample belowThreshold) gate samples).2 =
      (samples.zipIdx index).flatMap fun entry =>
        callsAt marked gate.releaseSampleCount entry.1 entry.2 := by
  rw [← run_positioned_snd _ gate index, run_positioned_eq belowThreshold stateEq loud,
    List.map_flatMap]
  simp only [List.map_map, Function.comp_def, List.map_id']

/-- Whether the sample at a position of the stream is loud. -/
def loudAt (openThreshold : S) (samples : List S) (index : Nat) : Bool :=
  samples[index]?.any fun sample => !belowThreshold sample openThreshold

/-- However a stream is cut into slices, the gate records exactly the samples
with a loud one at most one more than the release time behind, ends the
transmission exactly where the latest loud sample lies two more than the release
time behind, and makes no other call. -/
theorem calls_eq_callsAt (openThreshold : S) (releaseSampleCount : Nat)
    (slices : List (List S)) :
    (run (process belowThreshold) (new openThreshold releaseSampleCount) slices).2 =
      slices.flatten.zipIdx.flatMap fun entry =>
        callsAt (loudAt belowThreshold openThreshold slices.flatten) releaseSampleCount entry.1
          entry.2 := by
  rw [process, run_run]
  apply run_processSample_eq
  · rfl
  · intro offset sample found
    rw [Nat.zero_add, loudAt, found]
    rfl

end NoiseGate

end Bug
