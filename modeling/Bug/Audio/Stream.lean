import Bug.Audio.Recording
import Bug.Audio.Sink

/-!
# From the client's buffer to the server's file

Client and server agree on the wire format but not on what a chunk means.  The
client numbers its chunks from zero while the server writes only chunks above
its initial zero, and the client flushes a partly filled buffer while the server
writes the whole array.
-/

namespace Bug

open Bug.Db
open Bug.Transition

namespace AudioHandler

section Stream

variable {format : SampleFormat}

/-- The samples of a chunk as they are written to the file. -/
def chunkSamples (chunk : WavChunk format.Carrier) : List WavSample :=
  chunk.payload.samples.filterMap format.tryInto

theorem length_chunkSamples (signed : format ≠ .u16) (chunk : WavChunk format.Carrier) :
    (chunkSamples chunk).length = wavChunkPayloadSize := by
  rw [chunkSamples, ← chunk.payload.length_samples, List.length_filterMap_eq_countP,
    List.countP_eq_length]
  exact fun sample _ => SampleFormat.isSome_tryInto signed sample

theorem length_flatMap_chunkSamples (signed : format ≠ .u16)
    (chunks : List (WavChunk format.Carrier)) :
    (chunks.flatMap chunkSamples).length = wavChunkPayloadSize * chunks.length := by
  induction chunks with
  | nil => rfl
  | cons chunk chunks ih =>
      rw [List.flatMap_cons, List.length_append, length_chunkSamples signed, ih,
        List.length_cons, Nat.mul_succ, Nat.add_comm]

/-- A chunk on the wire, with the outcomes that its datagram meets. -/
def chunkMessage (sent : Hound × WavChunk format.Carrier) : AudioBytes :=
  .ofAudio sent.1 (.wavChunk sent.2)

/-- The chunks of one transmission as the client numbers them. -/
def Numbered (id : Uuid) (chunks : List (WavChunk format.Carrier)) : Prop :=
  ∀ (index : Nat) (inside : index < chunks.length),
    (chunks.get ⟨index, inside⟩).id = id ∧
      (chunks.get ⟨index, inside⟩).seq = UInt32.ofNat index

theorem Numbered.id_eq {id : Uuid} {chunks : List (WavChunk format.Carrier)}
    (numbered : Numbered id chunks) {chunk : WavChunk format.Carrier} (member : chunk ∈ chunks) :
    chunk.id = id := by
  obtain ⟨index, found⟩ := List.get_of_mem member
  rw [← found]
  exact (numbered index.1 index.2).1

theorem Numbered.head_seq {id : Uuid} {chunk : WavChunk format.Carrier}
    {chunks : List (WavChunk format.Carrier)} (numbered : Numbered id (chunk :: chunks)) :
    chunk.seq = 0 :=
  (numbered 0 (Nat.zero_lt_succ _)).2

/-- When the recording is announced, its file holds the samples of all the
given chunks, in order. -/
def Complete (path : PathBuf) (id : Uuid) (chunks : List (WavChunk format.Carrier))
    (log : List Effect) : Prop :=
  ∃ before event after, log = before ++ .send event :: after ∧
    event.payload = .sound (AudioWriter.wavFile id) ∧
    ∀ files : FileSystem, files.applyAll before path = some (chunks.flatMap chunkSamples)

/-- The effect of writing a chunk. -/
def appendChunk (path : PathBuf) (chunk : WavChunk format.Carrier) : Effect :=
  .append path chunk.seq (chunkSamples chunk)

/-- A stream of chunks of one identifier appended the accepted ones to the file
of an open writer and moved it on. -/
structure Streamed (start : AudioHandler) (id : Uuid) (writer : AudioWriter) (path : PathBuf)
    (accepted : List (WavChunk format.Carrier)) (outcome : AudioHandler × List Effect) :
    Prop where
  effects_eq : outcome.2 = accepted.map (appendChunk path)
  known : ∃ seq, outcome.1.writers.lookup id = some { writer with seq := seq }
  spec_eq : outcome.1.spec = start.spec

/-- One more chunk in front, of which at most itself is appended. -/
theorem Streamed.cons {start before after : AudioHandler} {id : Uuid} {writer : AudioWriter}
    {path : PathBuf} {front accepted : List (WavChunk format.Carrier)} {message : AudioBytes}
    {messages : List AudioBytes}
    (streamed : Streamed start id writer path accepted (run handle after messages))
    (handled : before.handle message = (after, front.map (appendChunk path))) :
    Streamed start id writer path (front ++ accepted)
      (run handle before (message :: messages)) := by
  rw [run_cons, handled]
  constructor
  · rw [List.map_append, streamed.effects_eq]
  · exact streamed.known
  · exact streamed.spec_eq

theorem streamed_run {start : AudioHandler} (formatEq : start.spec.sampleFormat = format)
    (signed : format ≠ .u16) {id : Uuid} {writer : AudioWriter} {inner : WavWriter}
    (isOpen : writer.inner = some inner) (sent : List (Hound × WavChunk format.Carrier))
    (succeeds : ∀ pair ∈ sent, pair.1.Succeeds) (sameId : ∀ pair ∈ sent, pair.2.id = id)
    {handler : AudioHandler} (specEq : handler.spec = start.spec) {seq : UInt32}
    (known : handler.writers.lookup id = some { writer with seq := seq }) :
    ∃ accepted : List (WavChunk format.Carrier), accepted.Sublist (sent.map Prod.snd) ∧
      Streamed start id writer inner.path accepted
        (run handle handler (sent.map chunkMessage)) := by
  induction sent generalizing handler seq with
  | nil => exact ⟨[], List.Sublist.refl [], rfl, ⟨seq, known⟩, specEq⟩
  | cons pair sent ih =>
      rcases pair with ⟨hound, chunk⟩
      rcases List.forall_mem_cons.mp succeeds with ⟨succeedsHead, succeedsTail⟩
      rcases List.forall_mem_cons.mp sameId with ⟨idEq, sameIdTail⟩
      subst idEq
      have handled := handle_chunk_of_known (specEq ▸ formatEq) hound chunk known
      have stillOpen : ({ writer with seq := seq } : AudioWriter).inner = some inner := isOpen
      have continued : ∀ reached, ∃ accepted : List (WavChunk format.Carrier),
          accepted.Sublist (sent.map Prod.snd) ∧
            Streamed start chunk.id writer inner.path accepted
              (run handle (handler.put chunk.id { writer with seq := reached })
                (sent.map chunkMessage)) :=
        fun reached => ih succeedsTail sameIdTail specEq (AList.lookup_insert _)
      by_cases newer : seq < chunk.seq
      · rw [AudioWriter.write_of_lt format succeedsHead signed stillOpen newer] at handled
        rcases continued chunk.seq with ⟨accepted, sublist, streamed⟩
        exact ⟨[chunk] ++ accepted, sublist.cons_cons chunk, streamed.cons handled⟩
      · rw [AudioWriter.write_of_not_lt format stillOpen newer] at handled
        rcases continued seq with ⟨accepted, sublist, streamed⟩
        exact ⟨[] ++ accepted, sublist.cons chunk, streamed.cons handled⟩

/-- What the handler does with a whole stream: it opens the file at the first
chunk, never writes that chunk, and writes at most the others. -/
theorem run_stream {handler : AudioHandler} (formatEq : handler.spec.sampleFormat = format)
    (signed : format ≠ .u16) {id : Uuid} (unknown : handler.writers.lookup id = none)
    {first : Hound × WavChunk format.Carrier} {rest : List (Hound × WavChunk format.Carrier)}
    (numbered : Numbered id ((first :: rest).map Prod.snd))
    (succeeds : ∀ pair ∈ first :: rest, pair.1.Succeeds) {hound : Hound}
    (ends : hound.Succeeds) :
    ∃ (accepted : List (WavChunk format.Carrier)) (event : NewEvent),
      accepted.Sublist (rest.map Prod.snd) ∧
      (run handle handler ((first :: rest).map chunkMessage ++
          [.ofAudio hound (.wavEnd id : Audio format.Carrier)])).2 =
        .create (handler.wavPath id) handler.spec.toWavSpec ::
          accepted.map (appendChunk (handler.wavPath id)) ++
            [.finalize (handler.wavPath id), .send event] := by
  obtain ⟨succeedsFirst, succeedsRest⟩ := List.forall_mem_cons.mp succeeds
  obtain ⟨opening, chunk⟩ := first
  have firstSeq : ¬ (0 : UInt32) < chunk.seq := by
    rw [numbered.head_seq]
    decide
  have firstId : chunk.id = id := numbered.id_eq List.mem_cons_self
  have sameId : ∀ pair ∈ rest, pair.2.id = chunk.id := by
    intro pair member
    rw [firstId]
    exact numbered.id_eq (List.mem_cons_of_mem _ (List.mem_map_of_mem member))
  subst firstId
  have handled := handle_chunk_of_unknown formatEq opening chunk unknown succeedsFirst.create_eq
  rw [AudioWriter.write_of_not_lt format rfl firstSeq] at handled
  have putKnown : (handler.put chunk.id (handler.freshWriter opening chunk.id)).writers.lookup
      chunk.id = some { handler.freshWriter opening chunk.id with seq := 0 } :=
    AList.lookup_insert _
  obtain ⟨accepted, sublist, streamed⟩ :=
    streamed_run formatEq signed rfl rest succeedsRest sameId (put_spec _ _ _) putKnown
  obtain ⟨seq, known⟩ := streamed.known
  have ended := handle_wavEnd_of_known (streamed.spec_eq ▸ formatEq) hound known
  have stillOpen : ({ handler.freshWriter opening chunk.id with seq := seq } :
      AudioWriter).inner = some ⟨handler.wavPath chunk.id, handler.spec.toWavSpec⟩ := rfl
  obtain ⟨event, -, finalized⟩ := finalizeWriter_of_succeeds ends stillOpen
  refine ⟨accepted, event, sublist, ?_⟩
  rw [run_concat, List.map_cons, run_cons, chunkMessage, handled]
  simp only [ended, streamed.effects_eq, finalized, List.cons_append,
    List.nil_append]

theorem applyAll_appendChunk (path : PathBuf) (accepted : List (WavChunk format.Carrier))
    {files : FileSystem} {samples : List WavSample} (there : files path = some samples) :
    files.applyAll (accepted.map (appendChunk path)) path =
      some (samples ++ accepted.flatMap chunkSamples) := by
  induction accepted generalizing files samples with
  | nil => simpa using there
  | cons chunk accepted ih =>
      have appended : files.apply (appendChunk path chunk) path =
          some (samples ++ chunkSamples chunk) := by
        simp [FileSystem.apply, appendChunk, there]
      rw [List.map_cons, FileSystem.applyAll_cons, ih appended, List.flatMap_cons,
        List.append_assoc]

private theorem eq_of_split {effects before after : List Effect} {event sent : NewEvent}
    (silent : ∀ other, .send other ∉ effects)
    (split : effects ++ [.send event] = before ++ .send sent :: after) : before = effects := by
  induction after using List.reverseRecOn with
  | nil => exact (List.append_inj_left' split rfl).symm
  | append_singleton after last _ =>
      have shorter : effects ++ [.send event] = (before ++ .send sent :: after) ++ [last] := by
        rw [split, List.append_assoc, List.cons_append]
      apply absurd _ (silent sent)
      rw [List.append_inj_left' shorter rfl]
      exact List.mem_append_right _ List.mem_cons_self

/-- A file with fewer chunks than were sent is not complete. -/
theorem not_complete_of_fewer (signed : format ≠ .u16) {path : PathBuf} {id : Uuid}
    {spec : WavSpec} {event : NewEvent} {accepted chunks : List (WavChunk format.Carrier)}
    (fewer : accepted.length < chunks.length) :
    ¬ Complete path id chunks (.create path spec :: accepted.map (appendChunk path) ++
      [.finalize path, .send event]) := by
  rintro ⟨before, sent, after, split, -, written⟩
  have silent : ∀ other, .send other ∉
      .create path spec :: accepted.map (appendChunk path) ++ [.finalize path] := by
    intro other member
    simp [appendChunk] at member
  have regrouped : (.create path spec :: accepted.map (appendChunk path) ++ [.finalize path]) ++
      [.send event] = before ++ .send sent :: after := by
    rw [← split, List.append_assoc]
    rfl
  rw [eq_of_split silent regrouped] at written
  have held : FileSystem.applyAll (fun _ => none)
      (.create path spec :: accepted.map (appendChunk path) ++ [.finalize path]) path =
        some (accepted.flatMap chunkSamples) := by
    have created : FileSystem.apply (fun _ => none) (.create path spec) path = some [] := by
      simp [FileSystem.apply]
    rw [FileSystem.applyAll_append, FileSystem.applyAll_cons]
    exact applyAll_appendChunk path accepted created
  have lengths := congrArg List.length (Option.some.inj (held.symm.trans (written _)))
  rw [length_flatMap_chunkSamples signed, length_flatMap_chunkSamples signed] at lengths
  exact Nat.ne_of_lt fewer (Nat.eq_of_mul_eq_mul_left wavChunkPayloadSize_pos lengths)

/-- The first chunk of a stream is missing from the announced file. -/
theorem not_complete_cons {handler : AudioHandler} (formatEq : handler.spec.sampleFormat = format)
    (signed : format ≠ .u16) {id : Uuid} (unknown : handler.writers.lookup id = none)
    {first : Hound × WavChunk format.Carrier} {rest : List (Hound × WavChunk format.Carrier)}
    (numbered : Numbered id ((first :: rest).map Prod.snd))
    (succeeds : ∀ pair ∈ first :: rest, pair.1.Succeeds) {hound : Hound}
    (ends : hound.Succeeds) :
    ¬ Complete (handler.wavPath id) id ((first :: rest).map Prod.snd)
      (run handle handler ((first :: rest).map chunkMessage ++
        [.ofAudio hound (.wavEnd id : Audio format.Carrier)])).2 := by
  rcases run_stream formatEq signed unknown numbered succeeds ends with
    ⟨accepted, event, sublist, log⟩
  rw [log]
  apply not_complete_of_fewer signed
  calc
    accepted.length ≤ (rest.map Prod.snd).length := sublist.length_le
    _ < ((first :: rest).map Prod.snd).length := Nat.lt_succ_self _

variable (format) in
/-- However long the stream is, the announced file lacks its first chunk. -/
theorem not_complete_stream (handler : AudioHandler)
    (formatEq : handler.spec.sampleFormat = format) (signed : format ≠ .u16) (id : Uuid)
    (unknown : handler.writers.lookup id = none)
    (sent : List (Hound × WavChunk format.Carrier)) (nonempty : sent ≠ [])
    (numbered : Numbered id (sent.map Prod.snd)) (succeeds : ∀ pair ∈ sent, pair.1.Succeeds)
    (hound : Hound) (ends : hound.Succeeds) :
    ¬ Complete (handler.wavPath id) id (sent.map Prod.snd)
      (run handle handler (sent.map chunkMessage ++
        [.ofAudio hound (.wavEnd id : Audio format.Carrier)])).2 := by
  cases sent with
  | nil => exact absurd rfl nonempty
  | cons first rest => exact not_complete_cons formatEq signed unknown numbered succeeds ends

/-- The given number of default chunks as the client numbers them, all of whose
datagrams meet a working disk. -/
def silence (count : Nat) : List (Hound × WavChunk (SampleFormat.Carrier .i16)) :=
  (List.range count).map fun index =>
    (.working ⟨0, 0⟩, ⟨.ofNat 7, UInt32.ofNat index, 0, default⟩)

theorem numbered_silence (count : Nat) : Numbered (.ofNat 7) ((silence count).map Prod.snd) := by
  intro index inside
  simp [silence]

theorem succeeds_silence (count : Nat) : ∀ pair ∈ silence count, pair.1.Succeeds := by
  intro pair member
  rcases List.mem_map.mp member with ⟨index, -, rfl⟩
  exact Hound.succeeds_working _

/-- Of two chunks the first is lost. -/
theorem not_complete_stream_pair :
    ¬ Complete ((new ["wav"] ⟨1, 44100, 16, .i16⟩ (.ofNat 1)).wavPath (.ofNat 7)) (.ofNat 7)
      ((silence 2).map Prod.snd)
      (run handle (new ["wav"] ⟨1, 44100, 16, .i16⟩ (.ofNat 1)) ((silence 2).map chunkMessage ++
        [.ofAudio (.working ⟨1, 0⟩)
          (.wavEnd (.ofNat 7) : Audio (SampleFormat.Carrier .i16))])).2 :=
  not_complete_stream .i16 _ rfl (by decide) (.ofNat 7) (AList.lookup_empty _) (silence 2)
    (List.cons_ne_nil _ _) (numbered_silence 2) (succeeds_silence 2) _ (Hound.succeeds_working _)

/-- The file announced for a stream of one chunk lacks that chunk. -/
theorem announced_file_empty :
    ¬ Complete ((new ["wav"] ⟨1, 44100, 16, .i16⟩ (.ofNat 1)).wavPath (.ofNat 7)) (.ofNat 7)
      ((silence 1).map Prod.snd)
      (run handle (new ["wav"] ⟨1, 44100, 16, .i16⟩ (.ofNat 1)) ((silence 1).map chunkMessage ++
        [.ofAudio (.working ⟨1, 0⟩)
          (.wavEnd (.ofNat 7) : Audio (SampleFormat.Carrier .i16))])).2 :=
  not_complete_cons rfl (by decide) (AList.lookup_empty _) (numbered_silence 1)
    (succeeds_silence 1) (Hound.succeeds_working _)

end Stream

end AudioHandler

/-! ## What a chunk means -/

namespace AudioSink

section Meaning

variable {format : SampleFormat}

/-- Whenever the server accepts the chunk of this sink, it appends exactly the
samples recorded into it. -/
def WritesRecorded (sink : AudioSink format.Carrier) : Prop :=
  ∀ (writer : AudioWriter) (inner : WavWriter) (hound : Hound),
    writer.inner = some inner → writer.seq < sink.chunk.seq →
    (writer.write format.tryInto hound sink.chunk).2.2 = .ok () →
    ∃ samples : List WavSample,
      (writer.write format.tryInto hound sink.chunk).2.1 =
          [.append inner.path sink.chunk.seq samples] ∧
        samples.map some = sink.recorded.map format.tryInto

/-- An accepted chunk is appended with all of its payload. -/
theorem exists_append_of_write {writer : AudioWriter} {inner : WavWriter} {hound : Hound}
    {chunk : WavChunk format.Carrier} (isOpen : writer.inner = some inner)
    (newer : writer.seq < chunk.seq)
    (accepted : (writer.write format.tryInto hound chunk).2.2 = .ok ()) :
    ∃ samples : List WavSample,
      (writer.write format.tryInto hound chunk).2.1 = [.append inner.path chunk.seq samples] ∧
        samples.map some = chunk.payload.samples.map format.tryInto := by
  rw [AudioWriter.write, isOpen] at accepted ⊢
  simp only [if_pos newer] at accepted ⊢
  split at accepted
  · rename_i samples loop
    exact ⟨samples, rfl, (AudioWriter.writeSamples_eq_ok loop).symm⟩
  · cases accepted

theorem writesRecorded_of_full {sink : AudioSink format.Carrier}
    (full : sink.bufPos = wavChunkPayloadSize) : WritesRecorded sink := by
  intro writer inner hound isOpen newer accepted
  obtain ⟨samples, effect, samplesEq⟩ := exists_append_of_write isOpen newer accepted
  refine ⟨samples, effect, ?_⟩
  rw [recorded, full, ← sink.buf.length_samples, List.take_length]
  exact samplesEq

/-- A partly filled chunk is written as recorded only if it is never accepted:
it carries number zero, or it holds a sample that cannot be converted. -/
theorem writesRecorded_iff_of_room {sink : AudioSink format.Carrier}
    (room : sink.bufPos < wavChunkPayloadSize) :
    WritesRecorded sink ↔
      sink.bufIdSeq.2 = 0 ∨ ∃ sample ∈ sink.buf.samples, format.tryInto sample = none := by
  constructor
  · intro writes
    by_contra accepted
    obtain ⟨numbered, convertible⟩ := not_or.mp accepted
    obtain ⟨writer, inner, isOpen, fresh⟩ :
        ∃ (writer : AudioWriter) (inner : WavWriter), writer.inner = some inner ∧ writer.seq = 0 :=
      ⟨⟨some ⟨[], ⟨0, 0, 0, .int⟩⟩, .ofNat 0, 0, ⟨0, 0⟩, .ofNat 0⟩, _, rfl, rfl⟩
    have newer : writer.seq < sink.chunk.seq := by
      rw [fresh]
      exact UInt32.pos_iff_ne_zero.mpr numbered
    have result : (writer.write format.tryInto (.working ⟨0, 0⟩) sink.chunk).2.2 = .ok () := by
      rw [AudioWriter.write_of_convertible format (Hound.succeeds_working ⟨0, 0⟩) isOpen newer]
      intro sample member
      rw [Option.isSome_iff_ne_none]
      exact fun refused => convertible ⟨sample, member, refused⟩
    obtain ⟨samples, effect, recordedEq⟩ := writes writer inner _ isOpen newer result
    obtain ⟨appended, sameEffect, payloadEq⟩ := exists_append_of_write isOpen newer result
    cases effect.symm.trans sameEffect
    have lengths := congrArg List.length (recordedEq.symm.trans payloadEq)
    rw [List.length_map, List.length_map, recorded, List.length_take, chunk,
      sink.buf.length_samples] at lengths
    omega
  · rintro (unnumbered | ⟨sample, member, refused⟩) writer inner hound isOpen newer accepted
    · exact absurd (unnumbered ▸ newer : writer.seq < 0) UInt32.not_lt_zero
    · obtain ⟨samples, -, samplesEq⟩ := exists_append_of_write isOpen newer accepted
      have mapped : none ∈ samples.map some := by
        rw [samplesEq, ← refused]
        exact List.mem_map_of_mem member
      simp at mapped

theorem isSome_tryInto_default (format : SampleFormat) :
    (format.tryInto default).isSome := by
  cases format <;> rfl

theorem Padded.exists_refused_iff {sink : AudioSink format.Carrier} (padded : Padded sink) :
    (∃ sample ∈ sink.buf.samples, format.tryInto sample = none) ↔
      ∃ sample ∈ sink.recorded, format.tryInto sample = none := by
  rw [padded.samples_eq]
  constructor
  · rintro ⟨sample, member, refused⟩
    rcases List.mem_append.mp member with isRecorded | padding
    · exact ⟨sample, isRecorded, refused⟩
    · have converted := isSome_tryInto_default format
      rw [← List.eq_of_mem_replicate padding, refused] at converted
      cases converted
  · rintro ⟨sample, member, refused⟩
    exact ⟨sample, List.mem_append_left _ member, refused⟩

/-- What `end_of_transmission` finds must never be accepted by the server: an
empty buffer, a chunk with number zero, or a sample that cannot be converted. -/
def Unaccepted (sink : AudioSink format.Carrier) : Prop :=
  sink.bufPos = 0 ∨ sink.bufIdSeq.2 = 0 ∨ ∃ sample ∈ sink.recorded, format.tryInto sample = none

theorem unaccepted_of_writesRecorded (before : List (Call format.Carrier))
    {newV4 : Nat → Uuid} {secret : UInt64} {spec : Spec} {calls : List (Call format.Carrier)}
    (writes : ∀ sink ∈ (run (flush newV4) (new newV4 secret spec) calls).2,
      WritesRecorded sink)
    (isPrefix : (before ++ [Call.endOfTransmission]) <+: calls)
    (skipped : (run (react newV4) (new newV4 secret spec) before).1.firstPayloadIgnored = true) :
    Unaccepted (run (react newV4) (new newV4 secret spec) before).1 := by
  have padded := padded_run newV4 secret spec before
  by_cases empty : (run (react newV4) (new newV4 secret spec) before).1.bufPos = 0
  · exact Or.inl empty
  · have flushed : (run (react newV4) (new newV4 secret spec) before).1 ∈
        (run (flush newV4) (new newV4 secret spec) calls).2 := by
      refine (mem_run_iff _ _ _ _).mpr ⟨before, .endOfTransmission, isPrefix, ?_⟩
      simp [flush, flushing, run_flush_fst, skipped, empty]
    rw [Unaccepted, ← padded.exists_refused_iff]
    exact Or.inr ((writesRecorded_iff_of_room padded.room).mp (writes _ flushed))

/-- The emitted chunks are those of the flushed sinks, and over every run of
calls the accepted ones are written as they were recorded exactly when every end
of transmission but the first finds a buffer that is empty or whose chunk is
never accepted. -/
theorem writesRecorded_run_iff (newV4 : Nat → Uuid) (secret : UInt64) (spec : Spec)
    (calls : List (Call format.Carrier)) :
    (run (react newV4) (new newV4 secret spec) calls).2.filterMap chunkOf =
        (run (flush newV4) (new newV4 secret spec) calls).2.map chunk ∧
      ((∀ sink ∈ (run (flush newV4) (new newV4 secret spec) calls).2, WritesRecorded sink) ↔
        ∀ before, (before ++ [Call.endOfTransmission]) <+: calls →
          (run (react newV4) (new newV4 secret spec) before).1.firstPayloadIgnored = true →
            Unaccepted (run (react newV4) (new newV4 secret spec) before).1) := by
  constructor
  · exact filterMap_chunkOf_run newV4 _ calls
  · constructor
    · intro writes before isPrefix skipped
      exact unaccepted_of_writesRecorded before writes isPrefix skipped
    · intro unaccepted sink flushed
      obtain ⟨before, call, isPrefix, member⟩ := (mem_run_iff _ _ _ _).mp flushed
      rw [run_flush_fst] at member
      cases call with
      | record sample =>
          simp only [flush, flushing] at member
          split at member
          · rename_i full
            rw [List.mem_singleton.mp member]
            exact writesRecorded_of_full full
          · cases member
      | endOfTransmission =>
          have padded := padded_run newV4 secret spec before
          simp only [flush, flushing] at member
          split at member
          · rename_i pending
            rw [List.mem_singleton.mp member, writesRecorded_iff_of_room padded.room,
              padded.exists_refused_iff]
            exact (unaccepted before isPrefix pending.1).resolve_left pending.2
          · cases member

/-- One sample more than a payload, after the ignored first transmission. -/
def overflowing (format : SampleFormat) : List (Call format.Carrier) :=
  [.endOfTransmission] ++ (List.replicate (wavChunkPayloadSize + 1) default).map .record

/-- One sample more than a payload leaves a chunk that the server accepts. -/
theorem not_unaccepted_overflowing (signed : format ≠ .u16) (newV4 : Nat → Uuid)
    (secret : UInt64) (spec : Spec) :
    (run (react newV4) (new newV4 secret spec) (overflowing format)).1.firstPayloadIgnored = true ∧
      ¬ Unaccepted (run (react newV4) (new newV4 secret spec) (overflowing format)).1 := by
  have room : (run (react newV4) (new (S := format.Carrier) newV4 secret spec)
      [.endOfTransmission]).1.bufPos < wavChunkPayloadSize := wavChunkPayloadSize_pos
  have body := recorded_run newV4
    (List.replicate (wavChunkPayloadSize + 1) (default : format.Carrier)) room
  rw [overflowing, run_append_fst]
  refine ⟨body.skipped_eq, ?_⟩
  rw [List.length_replicate] at body
  have level : (0 + (wavChunkPayloadSize + 1)) % wavChunkPayloadSize ≠ 0 := by decide
  have number : (0 : UInt32) +
      UInt32.ofNat ((0 + (wavChunkPayloadSize + 1)) / wavChunkPayloadSize) ≠ 0 := by decide
  rintro (empty | unnumbered | ⟨sample, -, refused⟩)
  · exact level (body.bufPos_eq.symm.trans empty)
  · exact number (body.seq_eq.symm.trans unnumbered)
  · have converted := SampleFormat.isSome_tryInto signed sample
    rw [refused] at converted
    cases converted

theorem not_writesRecorded_of_overflowing (signed : format ≠ .u16) (newV4 : Nat → Uuid)
    (secret : UInt64) (spec : Spec) :
    ¬ ∀ sink ∈ (run (flush newV4) (new newV4 secret spec)
        (overflowing format ++ [.endOfTransmission])).2, WritesRecorded sink := by
  intro writes
  obtain ⟨skipped, accepted⟩ := not_unaccepted_overflowing signed newV4 secret spec
  exact accepted (unaccepted_of_writesRecorded _ writes List.prefix_rfl skipped)

/-- The second chunk of a transmission of 513 samples holds one sample, and the
server writes 512. -/
theorem not_writesRecorded_overflowing :
    ¬ ∀ sink ∈ (run (flush Uuid.ofNat) (new Uuid.ofNat 0 ⟨1, 44100, 16, .i16⟩)
        (overflowing .i16 ++ [.endOfTransmission])).2, WritesRecorded sink :=
  not_writesRecorded_of_overflowing (by decide) Uuid.ofNat 0 ⟨1, 44100, 16, .i16⟩

end Meaning

end AudioSink

end Bug
