import Bug.Audio.Message
import Bug.Transition.Run

/-!
# The audio client's framer

`AudioSink` cuts the samples that pass the noise gate into chunks, numbers the
chunks of one transmission and closes the transmission with an end marker.  The
identifiers it draws from `Uuid::new_v4` are the values of `newV4` at successive
indices.
-/

namespace Bug

open Bug.Encoding
open Bug.Transition

structure AudioSink (S : Type) where
  secret : UInt64
  spec : Spec
  buf : WavChunkPayload S
  bufPos : Nat
  bufIdSeq : Uuid × UInt32
  firstPayloadIgnored : Bool
  /-- How many identifiers have been drawn so far. -/
  drawn : Nat

namespace AudioSink

variable {S : Type} [Sample S]

def new (newV4 : Nat → Uuid) (secret : UInt64) (spec : Spec) : AudioSink S where
  secret := secret
  spec := spec
  buf := default
  bufPos := 0
  bufIdSeq := (newV4 0, 0)
  firstPayloadIgnored := false
  drawn := 1

/-- The chunk that `write_payload` hands to the socket. -/
def chunk (sink : AudioSink S) : WavChunk S where
  id := sink.bufIdSeq.1
  seq := sink.bufIdSeq.2
  size := UInt8.ofNat sink.bufPos
  payload := sink.buf

/-- The samples recorded into the buffer since it was last emptied. -/
def recorded (sink : AudioSink S) : List S :=
  sink.buf.samples.take sink.bufPos

def writeSpec (sink : AudioSink S) : AudioSink S × List (Audio S) :=
  (sink, [.spec sink.secret sink.spec])

def writePayload (sink : AudioSink S) : AudioSink S × List (Audio S) :=
  ({ sink with
      buf := default
      bufPos := 0
      bufIdSeq := (sink.bufIdSeq.1, sink.bufIdSeq.2 + 1) },
    [.wavChunk sink.chunk])

def writeEof (newV4 : Nat → Uuid) (sink : AudioSink S) : AudioSink S × List (Audio S) :=
  ({ sink with
      bufIdSeq := (newV4 sink.drawn, 0)
      drawn := sink.drawn + 1 },
    [.wavEnd sink.bufIdSeq.1])

/-- The buffer after one more sample, before a full buffer is flushed. -/
def push (sink : AudioSink S) (sample : S) : AudioSink S :=
  { sink with
    buf := sink.buf.set sink.bufPos sample
    bufPos := sink.bufPos + 1 }

def record (sink : AudioSink S) (sample : S) : AudioSink S × List (Audio S) :=
  let sink := sink.push sample
  if sink.bufPos = wavChunkPayloadSize then
    sink.writePayload
  else
    (sink, [])

def endOfTransmission (newV4 : Nat → Uuid) (sink : AudioSink S) :
    AudioSink S × List (Audio S) :=
  if !sink.firstPayloadIgnored then
    ({ sink with firstPayloadIgnored := true }, [])
  else if sink.bufPos ≠ 0 then
    let (sink, chunks) := sink.writePayload
    let (sink, eof) := sink.writeEof newV4
    (sink, chunks ++ eof)
  else
    (sink, [])

/-- The two calls of the noise gate's `Sink` trait. -/
inductive Call (S : Type) where
  | record (sample : S)
  | endOfTransmission

/-- The messages handed to the socket by one call. -/
def react (newV4 : Nat → Uuid) : Reaction (AudioSink S) (Call S) (Audio S)
  | sink, .record sample => sink.record sample
  | sink, .endOfTransmission => sink.endOfTransmission newV4

/-! ## Single calls -/

variable {newV4 : Nat → Uuid} {sink : AudioSink S}

theorem record_of_ne {sample : S} (room : sink.bufPos + 1 ≠ wavChunkPayloadSize) :
    sink.record sample = (sink.push sample, []) :=
  if_neg room

theorem record_of_lt {sample : S} (room : sink.bufPos + 1 < wavChunkPayloadSize) :
    sink.record sample = (sink.push sample, []) :=
  record_of_ne (Nat.ne_of_lt room)

theorem record_of_eq {sample : S} (full : sink.bufPos + 1 = wavChunkPayloadSize) :
    sink.record sample = (sink.push sample).writePayload :=
  if_pos full

theorem endOfTransmission_of_first (first : sink.firstPayloadIgnored = false) :
    sink.endOfTransmission newV4 = ({ sink with firstPayloadIgnored := true }, []) := by
  simp [endOfTransmission, first]

theorem endOfTransmission_of_pending (skipped : sink.firstPayloadIgnored = true)
    (pending : sink.bufPos ≠ 0) :
    sink.endOfTransmission newV4 =
      ({ sink with
          buf := default
          bufPos := 0
          bufIdSeq := (newV4 sink.drawn, 0)
          drawn := sink.drawn + 1 },
        [.wavChunk sink.chunk, .wavEnd sink.bufIdSeq.1]) := by
  simp [endOfTransmission, skipped, pending, writePayload, writeEof]

theorem endOfTransmission_of_empty (skipped : sink.firstPayloadIgnored = true)
    (empty : sink.bufPos = 0) :
    sink.endOfTransmission newV4 = (sink, []) := by
  simp [endOfTransmission, skipped, empty]

/-! ## Transmissions -/

/-- A whole transmission: its samples, then the end of transmission.  The
messages it sends are kept together. -/
def transmit (newV4 : Nat → Uuid) : Reaction (AudioSink S) (List S) (List (Audio S))
  | sink, samples =>
      let sent := run (react newV4) sink (samples.map .record ++ [.endOfTransmission])
      (sent.1, [sent.2])

end AudioSink

namespace Audio

variable {S : Type}

/-- The identifier under which a message sends samples, if it is a chunk. -/
def chunkId : Audio S → Option Uuid
  | wavChunk chunk => some chunk.id
  | _ => none

def isWavEnd : Audio S → Bool
  | wavEnd _ => true
  | _ => false

end Audio

namespace AudioSink

variable {S : Type} [Sample S] {newV4 : Nat → Uuid} {sink : AudioSink S}

/-- What a run of `record` calls does to a sink with room in its buffer: it
keeps the identifier, sends nothing but chunks under it, and leaves the buffer
filled to the remainder. -/
structure Recorded (sink : AudioSink S) (count : Nat) (after : AudioSink S)
    (sent : List (Audio S)) : Prop where
  bufPos_eq : after.bufPos = (sink.bufPos + count) % wavChunkPayloadSize
  id_eq : after.bufIdSeq.1 = sink.bufIdSeq.1
  seq_eq : after.bufIdSeq.2 =
    sink.bufIdSeq.2 + UInt32.ofNat ((sink.bufPos + count) / wavChunkPayloadSize)
  skipped_eq : after.firstPayloadIgnored = sink.firstPayloadIgnored
  drawn_eq : after.drawn = sink.drawn
  sent_chunks : ∀ audio ∈ sent, audio.chunkId = some sink.bufIdSeq.1

theorem recorded_record (sample : S) (room : sink.bufPos < wavChunkPayloadSize) :
    Recorded sink 1 (sink.record sample).1 (sink.record sample).2 := by
  rcases Nat.lt_or_ge (sink.bufPos + 1) wavChunkPayloadSize with inside | full
  · rw [record_of_lt inside]
    constructor
    · exact (Nat.mod_eq_of_lt inside).symm
    · rfl
    · rw [Nat.div_eq_of_lt inside]
      exact (UInt32.add_zero _).symm
    · rfl
    · rfl
    · exact nofun
  · have fullEq : sink.bufPos + 1 = wavChunkPayloadSize := by omega
    rw [record_of_eq fullEq]
    constructor
    · rw [fullEq, Nat.mod_self]
      rfl
    · rfl
    · rw [fullEq, Nat.div_self wavChunkPayloadSize_pos]
      rfl
    · rfl
    · rfl
    · simp [writePayload, Audio.chunkId, chunk, push]

theorem recorded_run (newV4 : Nat → Uuid) (samples : List S)
    (room : sink.bufPos < wavChunkPayloadSize) :
    Recorded sink samples.length (run (react newV4) sink (samples.map .record)).1
      (run (react newV4) sink (samples.map .record)).2 := by
  induction samples generalizing sink with
  | nil =>
      constructor
      · exact (Nat.mod_eq_of_lt room).symm
      · rfl
      · rw [List.length_nil, Nat.add_zero, Nat.div_eq_of_lt room]
        exact (UInt32.add_zero _).symm
      · rfl
      · rfl
      · exact nofun
  | cons sample samples ih =>
      have first := recorded_record sample room
      have roomAfter : (sink.record sample).1.bufPos < wavChunkPayloadSize := by
        rw [first.bufPos_eq]
        exact Nat.mod_lt _ wavChunkPayloadSize_pos
      have rest := ih roomAfter
      constructor
      · calc
          _ = ((sink.bufPos + 1) % wavChunkPayloadSize + samples.length) %
              wavChunkPayloadSize := by
            rw [← first.bufPos_eq]
            exact rest.bufPos_eq
          _ = (sink.bufPos + (samples.length + 1)) % wavChunkPayloadSize := by
            rw [Nat.mod_add_mod, Nat.add_assoc, Nat.add_comm 1]
      · exact rest.id_eq.trans first.id_eq
      · have split : (sink.bufPos + (samples.length + 1)) / wavChunkPayloadSize =
            (sink.bufPos + 1) / wavChunkPayloadSize +
              ((sink.bufPos + 1) % wavChunkPayloadSize + samples.length) /
                wavChunkPayloadSize := by
          simp only [wavChunkPayloadSize]
          omega
        apply rest.seq_eq.trans
        rw [first.seq_eq, first.bufPos_eq, List.length_cons, split, UInt32.ofNat_add,
          UInt32.add_assoc]
      · exact rest.skipped_eq.trans first.skipped_eq
      · exact rest.drawn_eq.trans first.drawn_eq
      · intro audio member
        rcases List.mem_append.mp member with early | late
        · exact first.sent_chunks audio early
        · exact (rest.sent_chunks audio late).trans (congrArg some first.id_eq)

/-- What a transmission does to a sink with an empty buffer.  Whether it is
closed depends on the fill level that its length leaves behind. -/
structure Transmitted (newV4 : Nat → Uuid) (sink : AudioSink S) (count : Nat)
    (after : AudioSink S) (sent : List (Audio S)) : Prop where
  skipped : after.firstPayloadIgnored = true
  empty : after.bufPos = 0
  next_id : (after.bufIdSeq.1, after.drawn) =
    if wavChunkPayloadSize ∣ count then (sink.bufIdSeq.1, sink.drawn)
    else (newV4 sink.drawn, sink.drawn + 1)
  ends : sent.countP Audio.isWavEnd = if wavChunkPayloadSize ∣ count then 0 else 1
  chunk_ids : ∀ audio ∈ sent, ∀ id, audio.chunkId = some id → id = sink.bufIdSeq.1

omit [Sample S] in
private theorem countP_isWavEnd_of_chunks {id : Uuid} {sent : List (Audio S)}
    (chunks : ∀ audio ∈ sent, audio.chunkId = some id) : sent.countP Audio.isWavEnd = 0 := by
  rw [List.countP_eq_zero]
  intro audio member
  have isChunk := chunks audio member
  cases audio <;> simp_all [Audio.chunkId, Audio.isWavEnd]

theorem transmitted_transmit (newV4 : Nat → Uuid) (samples : List S)
    (skipped : sink.firstPayloadIgnored = true) (empty : sink.bufPos = 0) :
    ∃ sent, (transmit newV4 sink samples).2 = [sent] ∧
      Transmitted newV4 sink samples.length (transmit newV4 sink samples).1 sent := by
  have room : sink.bufPos < wavChunkPayloadSize := empty ▸ wavChunkPayloadSize_pos
  have body := recorded_run newV4 samples room
  have noEnds := countP_isWavEnd_of_chunks body.sent_chunks
  refine ⟨_, rfl, ?_⟩
  simp only [transmit, run_concat, react]
  generalize run (react newV4) sink (samples.map .record) = recordedRun at body noEnds ⊢
  have stillSkipped : recordedRun.1.firstPayloadIgnored = true := body.skipped_eq.trans skipped
  have level : recordedRun.1.bufPos = samples.length % wavChunkPayloadSize := by
    rw [body.bufPos_eq, empty, Nat.zero_add]
  by_cases whole : wavChunkPayloadSize ∣ samples.length
  · have levelZero : recordedRun.1.bufPos = 0 := level.trans (Nat.mod_eq_zero_of_dvd whole)
    rw [endOfTransmission_of_empty stillSkipped levelZero]
    constructor
    · exact stillSkipped
    · exact levelZero
    · rw [if_pos whole, body.id_eq, body.drawn_eq]
    · rw [if_pos whole, List.append_nil, noEnds]
    · intro audio member id isChunk
      rw [List.append_nil] at member
      exact Option.some.inj (isChunk.symm.trans (body.sent_chunks audio member))
  · have levelPos : recordedRun.1.bufPos ≠ 0 := by
      rw [level]
      exact fun zero => whole (Nat.dvd_of_mod_eq_zero zero)
    rw [endOfTransmission_of_pending stillSkipped levelPos]
    constructor
    · exact stillSkipped
    · rfl
    · rw [if_neg whole, body.drawn_eq]
    · rw [if_neg whole, List.countP_append, noEnds]
      rfl
    · intro audio member id isChunk
      rcases List.mem_append.mp member with early | late
      · exact Option.some.inj (isChunk.symm.trans (body.sent_chunks audio early))
      · simp only [List.mem_cons, List.not_mem_nil, or_false] at late
        rcases late with rfl | rfl
        · exact (Option.some.inj isChunk).symm.trans body.id_eq
        · cases isChunk

/-- Every chunk of a sequence of transmissions carries the current identifier
or one that was drawn after it. -/
theorem chunkId_mem_of_transmissions (transmissions : List (List S))
    (skipped : sink.firstPayloadIgnored = true) (empty : sink.bufPos = 0)
    {sent : List (Audio S)} (member : sent ∈ (run (transmit newV4) sink transmissions).2)
    {audio : Audio S} (isSent : audio ∈ sent) {id : Uuid} (isChunk : audio.chunkId = some id) :
    id ∈ sink.bufIdSeq.1 :: (List.range' sink.drawn transmissions.length).map newV4 := by
  induction transmissions generalizing sink with
  | nil => cases member
  | cons samples transmissions ih =>
      obtain ⟨first, firstEq, facts⟩ := transmitted_transmit newV4 samples skipped empty
      rw [run_cons, firstEq] at member
      rcases List.mem_cons.mp member with rfl | later
      · rw [facts.chunk_ids audio isSent id isChunk]
        exact List.mem_cons_self
      · have found := ih facts.skipped facts.empty later
        have nextId := facts.next_id
        rw [List.length_cons, List.range'_succ, List.map_cons]
        split at nextId
        · obtain ⟨idEq, drawnEq⟩ := Prod.mk.inj nextId
          rw [idEq, drawnEq] at found
          rcases List.mem_cons.mp found with rfl | drawnLater
          · exact List.mem_cons_self
          · apply List.mem_cons_of_mem
            have longer : List.range' sink.drawn transmissions.length <+:
                List.range' sink.drawn (transmissions.length + 1) := by
              rw [List.range'_concat]
              exact List.prefix_append _ _
            have subset := (longer.map newV4).subset drawnLater
            rwa [List.range'_succ, List.map_cons] at subset
        · obtain ⟨idEq, drawnEq⟩ := Prod.mk.inj nextId
          rw [idEq, drawnEq] at found
          exact List.mem_cons_of_mem _ found

/-- Each transmission has its own end marker and its own identifier. -/
def Separated (sent : List (List (Audio S))) : Prop :=
  (∀ messages ∈ sent, messages.countP Audio.isWavEnd = 1) ∧
    sent.Pairwise fun earlier later =>
      ∀ first ∈ earlier, ∀ second ∈ later, ∀ id,
        first.chunkId = some id → second.chunkId ≠ some id

/-- Exactly the transmissions that leave a partly filled buffer are closed. -/
theorem ends_transmissions_iff (newV4 : Nat → Uuid) (transmissions : List (List S))
    (skipped : sink.firstPayloadIgnored = true) (empty : sink.bufPos = 0) :
    (∀ messages ∈ (run (transmit newV4) sink transmissions).2,
        messages.countP Audio.isWavEnd = 1) ↔
      ∀ samples ∈ transmissions, ¬ wavChunkPayloadSize ∣ samples.length := by
  induction transmissions generalizing sink with
  | nil => simp
  | cons samples transmissions ih =>
      obtain ⟨first, firstEq, facts⟩ := transmitted_transmit newV4 samples skipped empty
      have headIff : first.countP Audio.isWavEnd = 1 ↔
          ¬ wavChunkPayloadSize ∣ samples.length := by
        rw [facts.ends]
        split <;> simp_all
      rw [run_cons, firstEq]
      simp only [List.singleton_append, List.forall_mem_cons, headIff,
        ih facts.skipped facts.empty]

/-- Closed transmissions use pairwise different identifiers as long as the
drawn identifiers do not repeat. -/
theorem pairwise_chunkId_transmissions (newV4 : Nat → Uuid) (transmissions : List (List S))
    (skipped : sink.firstPayloadIgnored = true) (empty : sink.bufPos = 0)
    (fresh : (sink.bufIdSeq.1 ::
      (List.range' sink.drawn transmissions.length).map newV4).Nodup)
    (closed : ∀ samples ∈ transmissions, ¬ wavChunkPayloadSize ∣ samples.length) :
    (run (transmit newV4) sink transmissions).2.Pairwise fun earlier later =>
      ∀ first ∈ earlier, ∀ second ∈ later, ∀ id,
        first.chunkId = some id → second.chunkId ≠ some id := by
  induction transmissions generalizing sink with
  | nil => exact List.Pairwise.nil
  | cons samples transmissions ih =>
      obtain ⟨first, firstEq, facts⟩ := transmitted_transmit newV4 samples skipped empty
      have closedHead := closed samples List.mem_cons_self
      have nextId := facts.next_id
      rw [if_neg closedHead] at nextId
      obtain ⟨idEq, drawnEq⟩ := Prod.mk.inj nextId
      rw [List.length_cons, List.range'_succ, List.map_cons, List.nodup_cons] at fresh
      rw [run_cons, firstEq, List.singleton_append, List.pairwise_cons]
      constructor
      · intro later member audio isSent other isLater id firstChunk secondChunk
        have found := chunkId_mem_of_transmissions transmissions facts.skipped facts.empty
          member isLater secondChunk
        rw [idEq, drawnEq, facts.chunk_ids audio isSent id firstChunk] at found
        exact fresh.1 found
      · apply ih facts.skipped facts.empty
        · rw [idEq, drawnEq]
          exact fresh.2
        · exact fun samples member => closed samples (List.mem_cons_of_mem _ member)

/-- A sequence of transmissions stays separated exactly when no transmission
fills the buffer to the brim: at a multiple of the payload size the end of
transmission finds an empty buffer, sends no end marker and keeps the
identifier. -/
theorem separated_transmissions_iff (newV4 : Nat → Uuid) (sink : AudioSink S)
    (transmissions : List (List S)) (skipped : sink.firstPayloadIgnored = true)
    (empty : sink.bufPos = 0)
    (fresh : (sink.bufIdSeq.1 ::
      (List.range' sink.drawn transmissions.length).map newV4).Nodup) :
    Separated (run (transmit newV4) sink transmissions).2 ↔
      ∀ samples ∈ transmissions, ¬ wavChunkPayloadSize ∣ samples.length := by
  have endsIff := ends_transmissions_iff newV4 transmissions skipped empty
  constructor
  · intro separated
    exact endsIff.mp separated.1
  · intro closed
    exact ⟨endsIff.mpr closed,
      pairwise_chunkId_transmissions newV4 transmissions skipped empty fresh closed⟩

/-- A new sink after its first, ignored end of transmission, sending one
sample. -/
theorem separated_single_sample :
    Separated (run (transmit Uuid.ofNat)
      ((new (S := Int16) Uuid.ofNat 0 ⟨1, 44100, 16, .i16⟩).endOfTransmission Uuid.ofNat).1
      [[7]]).2 :=
  (separated_transmissions_iff Uuid.ofNat _ [[7]] rfl rfl (by decide)).mpr
    (by simp [wavChunkPayloadSize])

/-- A transmission of exactly one payload is never closed, and the next one
continues under its identifier. -/
theorem not_separated_whole_payload :
    ¬ Separated (run (transmit Uuid.ofNat)
      ((new (S := Int16) Uuid.ofNat 0 ⟨1, 44100, 16, .i16⟩).endOfTransmission Uuid.ofNat).1
      [List.replicate wavChunkPayloadSize 7, [7]]).2 := by
  intro separated
  have closed := (ends_transmissions_iff Uuid.ofNat _ rfl rfl).mp separated.1
  apply closed (List.replicate wavChunkPayloadSize 7) List.mem_cons_self
  rw [List.length_replicate]

/-! ## Flushed buffers -/

section Flush

variable {S : Type} [Sample S] {sink : AudioSink S}

/-- The sink at the moment `write_payload` runs during a call, if it does. -/
def flushing (sink : AudioSink S) : Call S → List (AudioSink S)
  | .record sample =>
      if (sink.push sample).bufPos = wavChunkPayloadSize then [sink.push sample] else []
  | .endOfTransmission =>
      if sink.firstPayloadIgnored ∧ sink.bufPos ≠ 0 then [sink] else []

/-- The calls again, with the flushed sinks in the place of their messages. -/
def flush (newV4 : Nat → Uuid) : Reaction (AudioSink S) (Call S) (AudioSink S)
  | sink, call => ((react newV4 sink call).1, sink.flushing call)

/-- The chunk of a message. -/
def chunkOf : Audio S → Option (WavChunk S)
  | .wavChunk chunk => some chunk
  | _ => none

theorem run_flush_fst (newV4 : Nat → Uuid) (sink : AudioSink S) (calls : List (Call S)) :
    (run (flush newV4) sink calls).1 = (run (react newV4) sink calls).1 := by
  induction calls generalizing sink with
  | nil => rfl
  | cons call calls ih => exact ih _

theorem filterMap_chunkOf_react (newV4 : Nat → Uuid) (sink : AudioSink S) (call : Call S) :
    (react newV4 sink call).2.filterMap chunkOf = (sink.flushing call).map chunk := by
  cases call with
  | record sample =>
      simp only [react, record, flushing]
      split <;> rfl
  | endOfTransmission =>
      cases skipped : sink.firstPayloadIgnored with
      | false => simp [react, flushing, endOfTransmission_of_first skipped, skipped]
      | true =>
          by_cases empty : sink.bufPos = 0
          · simp [react, flushing, endOfTransmission_of_empty skipped empty, empty]
          · simp [react, flushing, endOfTransmission_of_pending skipped empty, skipped, empty,
              chunkOf]

/-- The chunks that a run of calls emits are those of its flushed sinks. -/
theorem filterMap_chunkOf_run (newV4 : Nat → Uuid) (sink : AudioSink S)
    (calls : List (Call S)) :
    (run (react newV4) sink calls).2.filterMap chunkOf =
      (run (flush newV4) sink calls).2.map chunk := by
  induction calls generalizing sink with
  | nil => rfl
  | cons call calls ih =>
      rw [run_cons, run_cons, List.filterMap_append, List.map_append, filterMap_chunkOf_react]
      exact congrArg _ (ih _)

/-- The buffer holds the recorded samples and default values behind them. -/
structure Padded (sink : AudioSink S) : Prop where
  room : sink.bufPos < wavChunkPayloadSize
  samples_eq : sink.buf.samples =
    sink.recorded ++ List.replicate (wavChunkPayloadSize - sink.bufPos) default

theorem padded_empty (empty : sink.bufPos = 0) (cleared : sink.buf = default) : Padded sink := by
  constructor
  · rw [empty]
    exact wavChunkPayloadSize_pos
  · rw [recorded, empty, cleared]
    rfl

theorem Padded.push_recorded (padded : Padded sink) (sample : S) :
    (sink.push sample).recorded = sink.recorded ++ [sample] :=
  sink.buf.take_set padded.room sample

theorem Padded.push_samples_eq (padded : Padded sink) (sample : S) :
    (sink.push sample).buf.samples = (sink.push sample).recorded ++
      List.replicate (wavChunkPayloadSize - (sink.bufPos + 1)) default := by
  have room := padded.room
  have length : sink.recorded.length = sink.bufPos := by
    rw [recorded, List.length_take, sink.buf.length_samples]
    omega
  have left : wavChunkPayloadSize - sink.bufPos =
      (wavChunkPayloadSize - (sink.bufPos + 1)) + 1 := by omega
  rw [padded.push_recorded sample]
  calc
    (sink.push sample).buf.samples = sink.buf.samples.set sink.bufPos sample := rfl
    _ = (sink.recorded ++ List.replicate (wavChunkPayloadSize - sink.bufPos) default).set
        sink.bufPos sample := by rw [← padded.samples_eq]
    _ = sink.recorded ++ sample ::
        List.replicate (wavChunkPayloadSize - (sink.bufPos + 1)) default := by
      rw [List.set_append_right _ _ (by rw [length]), length, Nat.sub_self, left,
        List.replicate_succ, List.set_cons_zero]
    _ = _ := by rw [List.append_assoc, List.singleton_append]

theorem Padded.react (padded : Padded sink) (newV4 : Nat → Uuid) (call : Call S) :
    Padded (AudioSink.react newV4 sink call).1 := by
  cases call with
  | record sample =>
      have room := padded.room
      rcases Nat.lt_or_ge (sink.bufPos + 1) wavChunkPayloadSize with inside | full
      · simp only [AudioSink.react]
        rw [record_of_lt inside]
        exact ⟨inside, padded.push_samples_eq sample⟩
      · simp only [AudioSink.react]
        rw [record_of_eq (by omega)]
        exact padded_empty rfl rfl
  | endOfTransmission =>
      simp only [AudioSink.react]
      cases skipped : sink.firstPayloadIgnored with
      | false =>
          rw [endOfTransmission_of_first skipped]
          exact ⟨padded.room, padded.samples_eq⟩
      | true =>
          by_cases empty : sink.bufPos = 0
          · rw [endOfTransmission_of_empty skipped empty]
            exact padded
          · rw [endOfTransmission_of_pending skipped empty]
            exact padded_empty rfl rfl

theorem padded_run (newV4 : Nat → Uuid) (secret : UInt64) (spec : Spec)
    (calls : List (Call S)) :
    Padded (run (AudioSink.react newV4) (new newV4 secret spec) calls).1 :=
  run_invariant (AudioSink.react newV4) (new newV4 secret spec) (fun sink _ _ => Padded sink)
    (padded_empty rfl rfl) (fun _ _ _ call padded => padded.react newV4 call) calls

end Flush

end AudioSink

end Bug
