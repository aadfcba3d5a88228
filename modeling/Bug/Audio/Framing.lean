import Bug.Audio.Sink

/-!
# The client's framing over whole runs

Whatever order the noise gate makes its calls in, the messages of an `AudioSink`
are complete transmissions followed by one unfinished transmission, and the
samples in its chunks and in its buffer are the recorded ones.
-/

namespace Bug

open Bug.Transition

/-- The chunks of one identifier, closed by its end marker. -/
structure Transmission (S : Type) where
  id : Uuid
  chunks : List (WavChunk S)

namespace Transmission

variable {S : Type}

def messages (transmission : Transmission S) : List (Audio S) :=
  transmission.chunks.map .wavChunk ++ [.wavEnd transmission.id]

end Transmission

namespace AudioSink

variable {S : Type}

/-- The chunks of one identifier, numbered from zero on. -/
def Consecutive (id : Uuid) (chunks : List (WavChunk S)) : Prop :=
  chunks.map (fun chunk => (chunk.id, chunk.seq.toNat)) =
    (List.range chunks.length).map fun index => (id, index)

/-- The chunks of one identifier, numbered by a counter that may have wrapped. -/
def Counted (id : Uuid) (chunks : List (WavChunk S)) : Prop :=
  chunks.map (fun chunk => (chunk.id, chunk.seq)) =
    (List.range chunks.length).map fun index => (id, UInt32.ofNat index)

theorem counted_nil (id : Uuid) : Counted id ([] : List (WavChunk S)) :=
  rfl

theorem Counted.concat {id : Uuid} {chunks : List (WavChunk S)} (counted : Counted id chunks)
    {chunk : WavChunk S} (idEq : chunk.id = id)
    (seqEq : chunk.seq = UInt32.ofNat chunks.length) : Counted id (chunks ++ [chunk]) := by
  rw [Counted, List.map_append, counted, List.length_append, List.length_singleton,
    List.range_succ, List.map_append, List.map_singleton, List.map_singleton, idEq, seqEq]

/-- A counter that has not wrapped numbers from zero on. -/
theorem Counted.consecutive {id : Uuid} {chunks : List (WavChunk S)} (counted : Counted id chunks)
    (few : chunks.length < 2 ^ 32) : Consecutive id chunks := by
  have numbers := congrArg (List.map fun pair : Uuid × UInt32 => (pair.1, pair.2.toNat)) counted
  rw [List.map_map, List.map_map] at numbers
  refine numbers.trans (List.map_congr_left ?_)
  intro index member
  have inside : index < 2 ^ 32 := (List.mem_range.mp member).trans few
  exact congrArg (Prod.mk id) (UInt32.toNat_ofNat_of_lt' inside)

theorem Counted.id_eq {id : Uuid} {chunks : List (WavChunk S)} (counted : Counted id chunks)
    {chunk : WavChunk S} (member : chunk ∈ chunks) : chunk.id = id := by
  have listed := List.mem_map_of_mem (f := fun chunk => (chunk.id, chunk.seq)) member
  rw [counted] at listed
  rcases List.mem_map.mp listed with ⟨index, -, equal⟩
  exact (Prod.mk.inj equal).1.symm

/-- The history of a sink: the closed transmissions, the chunks of the one it is
in, and the identifiers it has drawn for them. -/
structure Framed (newV4 : Nat → Uuid) (sink : AudioSink S) (sent : List (Audio S))
    (closed : List (Transmission S)) (unfinished : List (WavChunk S)) : Prop where
  sent_eq : sent = closed.flatMap Transmission.messages ++ unfinished.map .wavChunk
  closed_counted : ∀ transmission ∈ closed,
    transmission.chunks ≠ [] ∧ Counted transmission.id transmission.chunks
  unfinished_counted : Counted sink.bufIdSeq.1 unfinished
  seq_eq : sink.bufIdSeq.2 = UInt32.ofNat unfinished.length
  ids_eq : closed.map Transmission.id ++ [sink.bufIdSeq.1] = (List.range sink.drawn).map newV4

variable [Sample S]

theorem framed_new (newV4 : Nat → Uuid) (secret : UInt64) (spec : Spec) :
    Framed newV4 (new (S := S) newV4 secret spec) [] [] [] where
  sent_eq := rfl
  closed_counted := nofun
  unfinished_counted := counted_nil _
  seq_eq := rfl
  ids_eq := rfl

section Step

variable {newV4 : Nat → Uuid} {sink : AudioSink S} {sent : List (Audio S)}
  {closed : List (Transmission S)} {unfinished : List (WavChunk S)}

omit [Sample S] in
/-- Only the counters of a sink take part in its framing. -/
theorem Framed.of_counters {other : AudioSink S}
    (framed : Framed newV4 sink sent closed unfinished)
    (idSeq : other.bufIdSeq = sink.bufIdSeq) (drawn : other.drawn = sink.drawn) :
    Framed newV4 other (sent ++ []) closed unfinished where
  sent_eq := by
    rw [List.append_nil]
    exact framed.sent_eq
  closed_counted := framed.closed_counted
  unfinished_counted := idSeq ▸ framed.unfinished_counted
  seq_eq := idSeq ▸ framed.seq_eq
  ids_eq := by
    rw [idSeq, drawn]
    exact framed.ids_eq

omit [Sample S] in
theorem Framed.push (framed : Framed newV4 sink sent closed unfinished) (sample : S) :
    Framed newV4 (sink.push sample) sent closed unfinished :=
  ⟨framed.sent_eq, framed.closed_counted, framed.unfinished_counted, framed.seq_eq,
    framed.ids_eq⟩

/-- A flushed buffer is one more chunk of the unfinished transmission. -/
theorem Framed.writePayload (framed : Framed newV4 sink sent closed unfinished) :
    Framed newV4 sink.writePayload.1 (sent ++ sink.writePayload.2) closed
      (unfinished ++ [sink.chunk]) where
  sent_eq := by
    rw [framed.sent_eq, List.map_append, ← List.append_assoc]
    rfl
  closed_counted := framed.closed_counted
  unfinished_counted := framed.unfinished_counted.concat rfl framed.seq_eq
  seq_eq := by
    rw [List.length_append, List.length_singleton, UInt32.ofNat_add, ← framed.seq_eq]
    rfl
  ids_eq := framed.ids_eq

omit [Sample S] in
/-- The end marker closes an unfinished transmission that has chunks. -/
theorem Framed.writeEof (framed : Framed newV4 sink sent closed unfinished)
    (started : unfinished ≠ []) :
    Framed newV4 (sink.writeEof newV4).1 (sent ++ (sink.writeEof newV4).2)
      (closed ++ [⟨sink.bufIdSeq.1, unfinished⟩]) [] where
  sent_eq := by
    rw [framed.sent_eq, List.flatMap_append, List.flatMap_singleton, List.append_assoc,
      List.map_nil, List.append_nil]
    rfl
  closed_counted := by
    intro transmission member
    rcases List.mem_append.mp member with earlier | last
    · exact framed.closed_counted transmission earlier
    · rw [List.mem_singleton.mp last]
      exact ⟨started, framed.unfinished_counted⟩
  unfinished_counted := counted_nil _
  seq_eq := rfl
  ids_eq := by
    rw [List.map_append, List.map_singleton, framed.ids_eq]
    simp [AudioSink.writeEof, List.range_succ]

/-- One call extends the unfinished transmission, closes it, or sends nothing. -/
theorem Framed.react (framed : Framed newV4 sink sent closed unfinished) (call : Call S) :
    ∃ (closed : List (Transmission S)) (unfinished : List (WavChunk S)),
      Framed newV4 (AudioSink.react newV4 sink call).1
        (sent ++ (AudioSink.react newV4 sink call).2) closed unfinished := by
  cases call with
  | record sample =>
      simp only [AudioSink.react]
      by_cases full : sink.bufPos + 1 = wavChunkPayloadSize
      · rw [record_of_eq full]
        exact ⟨closed, _, (framed.push sample).writePayload⟩
      · rw [record_of_ne full]
        exact ⟨closed, unfinished, framed.of_counters rfl rfl⟩
  | endOfTransmission =>
      simp only [AudioSink.react]
      cases skipped : sink.firstPayloadIgnored with
      | false =>
          rw [endOfTransmission_of_first skipped]
          exact ⟨closed, unfinished, framed.of_counters rfl rfl⟩
      | true =>
          by_cases empty : sink.bufPos = 0
          · rw [endOfTransmission_of_empty skipped empty]
            exact ⟨closed, unfinished, framed.of_counters rfl rfl⟩
          · have ended := framed.writePayload.writeEof (by simp)
            rw [List.append_assoc] at ended
            rw [endOfTransmission_of_pending skipped empty]
            exact ⟨_, _, ended⟩

end Step

theorem framed_run (newV4 : Nat → Uuid) (secret : UInt64) (spec : Spec)
    (calls : List (Call S)) :
    ∃ (closed : List (Transmission S)) (unfinished : List (WavChunk S)),
      Framed newV4 (run (react newV4) (new newV4 secret spec) calls).1
        (run (react newV4) (new newV4 secret spec) calls).2 closed unfinished :=
  run_invariant (react newV4) (new newV4 secret spec)
    (fun sink _ sent => ∃ (closed : List (Transmission S)) (unfinished : List (WavChunk S)),
      Framed newV4 sink sent closed unfinished)
    ⟨[], [], framed_new newV4 secret spec⟩
    (fun _ _ _ call ⟨_, _, framed⟩ => framed.react call) calls

omit [Sample S] in
/-- The chunks of an identifier are among the chunks sent under it. -/
theorem Counted.length_le {id : Uuid} {chunks : List (WavChunk S)} (counted : Counted id chunks)
    {sent : List (Audio S)} (sublist : (chunks.map Audio.wavChunk).Sublist sent) :
    chunks.length ≤ sent.countP (fun audio => audio.chunkId = some id) := by
  have every : (chunks.map Audio.wavChunk).countP (fun audio => audio.chunkId = some id) =
      chunks.length := by
    have lengthEq : (chunks.map Audio.wavChunk).length = chunks.length := List.length_map _
    rw [← lengthEq, List.countP_eq_length]
    intro audio member
    rcases List.mem_map.mp member with ⟨chunk, isChunk, rfl⟩
    simp [Audio.chunkId, counted.id_eq isChunk]
  rw [← every]
  exact sublist.countP_le

/-- Over every run of calls the buffer keeps room for one more sample, and the
messages are complete transmissions, each under an identifier of its own and
numbered from zero on, followed by one unfinished transmission. -/
theorem framed_transmissions (newV4 : Nat → Uuid) (secret : UInt64) (spec : Spec)
    (calls : List (Call S))
    (fresh : ((List.range (run (react newV4) (new (S := S) newV4 secret spec) calls).1.drawn).map
      newV4).Nodup)
    (few : ∀ id, (run (react newV4) (new newV4 secret spec) calls).2.countP
      (fun audio => audio.chunkId = some id) < 2 ^ 32) :
    (run (react newV4) (new newV4 secret spec) calls).1.bufPos < wavChunkPayloadSize ∧
      ∃ (closed : List (Transmission S)) (unfinished : List (WavChunk S)),
        (run (react newV4) (new newV4 secret spec) calls).2 =
            closed.flatMap Transmission.messages ++ unfinished.map .wavChunk ∧
          (∀ transmission ∈ closed, transmission.chunks ≠ [] ∧
            Consecutive transmission.id transmission.chunks) ∧
          Consecutive (run (react newV4) (new newV4 secret spec) calls).1.bufIdSeq.1 unfinished ∧
          (closed.map Transmission.id ++
            [(run (react newV4) (new newV4 secret spec) calls).1.bufIdSeq.1]).Nodup := by
  rcases framed_run newV4 secret spec calls with ⟨closed, unfinished, framed⟩
  constructor
  · exact (padded_run newV4 secret spec calls).room
  · refine ⟨closed, unfinished, framed.sent_eq, ?_, ?_, ?_⟩
    · intro transmission member
      rcases framed.closed_counted transmission member with ⟨nonempty, counted⟩
      have inside : (transmission.chunks.map Audio.wavChunk).Sublist
          (run (react newV4) (new newV4 secret spec) calls).2 := by
        rw [framed.sent_eq]
        calc
          (transmission.chunks.map Audio.wavChunk).Sublist transmission.messages :=
            List.sublist_append_left _ _
          transmission.messages.Sublist (closed.flatMap Transmission.messages) :=
            List.sublist_flatten_of_mem (List.mem_map_of_mem member)
          (closed.flatMap Transmission.messages).Sublist _ := List.sublist_append_left _ _
      exact ⟨nonempty, counted.consecutive ((counted.length_le inside).trans_lt (few _))⟩
    · have inside : (unfinished.map Audio.wavChunk).Sublist
          (run (react newV4) (new newV4 secret spec) calls).2 := by
        rw [framed.sent_eq]
        exact List.sublist_append_right _ _
      exact framed.unfinished_counted.consecutive
        ((framed.unfinished_counted.length_le inside).trans_lt (few _))
    · rw [framed.ids_eq]
      exact fresh

/-- One sample after the ignored first end of transmission, and its end. -/
def oneSample : List (Call Int16) :=
  [.endOfTransmission, .record 7, .endOfTransmission]

theorem framed_oneSample :
    ∃ (closed : List (Transmission Int16)) (unfinished : List (WavChunk Int16)),
      (run (react Uuid.ofNat) (new Uuid.ofNat 0 ⟨1, 44100, 16, .i16⟩) oneSample).2 =
        closed.flatMap Transmission.messages ++ unfinished.map .wavChunk := by
  have few : ∀ id, (run (react Uuid.ofNat) (new Uuid.ofNat 0 ⟨1, 44100, 16, .i16⟩)
      oneSample).2.countP (fun audio => audio.chunkId = some id) < 2 ^ 32 := by
    intro id
    calc
      _ ≤ 2 := List.countP_le_length
      _ < 2 ^ 32 := by decide
  rcases (framed_transmissions Uuid.ofNat 0 ⟨1, 44100, 16, .i16⟩ oneSample (by decide) few).2 with
    ⟨closed, unfinished, sent, -⟩
  exact ⟨closed, unfinished, sent⟩

/-! ## Recorded samples -/

/-- The sample of a `record` call. -/
def Call.sample : Call S → Option S
  | .record sample => some sample
  | .endOfTransmission => none

section Conserved

variable {sink : AudioSink S} {newV4 : Nat → Uuid}

omit [Sample S] in
theorem recorded_of_empty (empty : sink.bufPos = 0) : sink.recorded = [] := by
  rw [recorded, empty, List.take_zero]

/-- One call moves samples from the buffer to a chunk and adds the recorded
one. -/
theorem Padded.flushed_append_recorded (padded : Padded sink) (call : Call S) :
    (sink.flushing call).flatMap recorded ++ (AudioSink.react newV4 sink call).1.recorded =
      sink.recorded ++ call.sample.toList := by
  cases call with
  | record sample =>
      have pushed : (sink.push sample).recorded = sink.recorded ++ [sample] :=
        padded.push_recorded sample
      simp only [AudioSink.react, flushing]
      by_cases full : (sink.push sample).bufPos = wavChunkPayloadSize
      · have cleared : (sink.push sample).writePayload.1.recorded = [] := recorded_of_empty rfl
        rw [record_of_eq full, if_pos full, List.flatMap_singleton, pushed, cleared,
          List.append_nil]
        rfl
      · rw [record_of_ne full, if_neg full, List.flatMap_nil, List.nil_append, pushed]
        rfl
  | endOfTransmission =>
      simp only [AudioSink.react, flushing]
      cases skipped : sink.firstPayloadIgnored with
      | false =>
          rw [endOfTransmission_of_first skipped]
          simp [Call.sample, recorded]
      | true =>
          by_cases empty : sink.bufPos = 0
          · rw [endOfTransmission_of_empty skipped empty]
            simp [Call.sample, empty]
          · rw [endOfTransmission_of_pending skipped empty]
            simp [Call.sample, empty, recorded]

/-- A flushed sink holds its recorded samples and default values behind them. -/
theorem Padded.flushed_samples_eq (padded : Padded sink) {call : Call S} {flushed : AudioSink S}
    (member : flushed ∈ sink.flushing call) :
    flushed.buf.samples =
      flushed.recorded ++ List.replicate (wavChunkPayloadSize - flushed.bufPos) default := by
  cases call with
  | record sample =>
      simp only [flushing] at member
      split at member
      · rw [List.mem_singleton.mp member]
        exact padded.push_samples_eq sample
      · cases member
  | endOfTransmission =>
      simp only [flushing] at member
      split at member
      · rw [List.mem_singleton.mp member]
        exact padded.samples_eq
      · cases member

end Conserved

/-- Over every run of calls, the chunks carry the flushed buffers, the samples
recorded into them and into the current buffer are the recorded ones in order,
and a payload holds nothing else but default values. -/
theorem recorded_conserved (newV4 : Nat → Uuid) (secret : UInt64) (spec : Spec)
    (calls : List (Call S)) :
    (run (react newV4) (new newV4 secret spec) calls).2.filterMap chunkOf =
        (run (flush newV4) (new newV4 secret spec) calls).2.map chunk ∧
      (run (flush newV4) (new newV4 secret spec) calls).2.flatMap recorded ++
          (run (react newV4) (new newV4 secret spec) calls).1.recorded =
        calls.filterMap Call.sample ∧
      ∀ flushed ∈ (run (flush newV4) (new newV4 secret spec) calls).2,
        flushed.chunk.payload.samples =
          flushed.recorded ++ List.replicate (wavChunkPayloadSize - flushed.bufPos) default := by
  have invariant := run_invariant (flush newV4) (new (S := S) newV4 secret spec)
    (fun sink calls flushes => Padded sink ∧
      flushes.flatMap recorded ++ sink.recorded = calls.filterMap Call.sample ∧
      ∀ flushed ∈ flushes, flushed.chunk.payload.samples =
        flushed.recorded ++ List.replicate (wavChunkPayloadSize - flushed.bufPos) default)
    ⟨padded_empty rfl rfl, rfl, nofun⟩
    (by
      rintro sink calls flushes call ⟨padded, conserved, defaults⟩
      refine ⟨padded.react newV4 call, ?_, ?_⟩
      · calc
          (flushes ++ sink.flushing call).flatMap recorded ++
              (AudioSink.react newV4 sink call).1.recorded =
            flushes.flatMap recorded ++ (sink.recorded ++ call.sample.toList) := by
              rw [List.flatMap_append, List.append_assoc, padded.flushed_append_recorded]
          _ = (calls ++ [call]).filterMap Call.sample := by
              rw [← List.append_assoc, conserved, List.filterMap_append]
              cases call <;> rfl
      · intro flushed member
        rcases List.mem_append.mp member with earlier | last
        · exact defaults flushed earlier
        · exact padded.flushed_samples_eq last)
    calls
  rw [run_flush_fst] at invariant
  exact ⟨filterMap_chunkOf_run newV4 _ calls, invariant.2⟩

end AudioSink

end Bug
