import Bug.Audio.Framing

/-!
# What the client's chunks are made of

A chunk announces its number of samples in eight bits, while the buffer holds
512 of them.  The first end of transmission is meant to drop the samples before
it, but it only returns early: they stay in the buffer and leave it with the next
chunk.  Both are read off the sinks at the moment they are flushed, the second
with the positions of the calls that recorded each sample.
-/

namespace Bug

open Bug.Transition

namespace AudioSink

variable {S : Type} [Sample S]

/-! ## The announced size -/

section Size

variable {sink : AudioSink S}

omit [Sample S] in
theorem length_recorded (inside : sink.bufPos ≤ wavChunkPayloadSize) :
    sink.recorded.length = sink.bufPos := by
  rw [recorded, List.length_take, sink.buf.length_samples]
  exact Nat.min_eq_left inside

omit [Sample S] in
theorem flushing_of_full {sample : S} (full : sink.bufPos + 1 = wavChunkPayloadSize) :
    sink.flushing (.record sample) = [sink.push sample] :=
  if_pos full

omit [Sample S] in
theorem flushing_of_room {sample : S} (room : sink.bufPos + 1 ≠ wavChunkPayloadSize) :
    sink.flushing (.record sample) = [] :=
  if_neg room

omit [Sample S] in
theorem flushing_of_pending (skipped : sink.firstPayloadIgnored = true)
    (pending : sink.bufPos ≠ 0) : sink.flushing .endOfTransmission = [sink] :=
  if_pos ⟨skipped, pending⟩

omit [Sample S] in
theorem mem_flushing_record_iff {sample : S} {flushed : AudioSink S} :
    flushed ∈ sink.flushing (.record sample) ↔
      sink.bufPos + 1 = wavChunkPayloadSize ∧ flushed = sink.push sample := by
  by_cases full : sink.bufPos + 1 = wavChunkPayloadSize
  · simp [flushing_of_full full, full]
  · simp [flushing_of_room full, full]

omit [Sample S] in
theorem mem_flushing_endOfTransmission_iff {flushed : AudioSink S} :
    flushed ∈ sink.flushing .endOfTransmission ↔
      sink.firstPayloadIgnored = true ∧ sink.bufPos ≠ 0 ∧ flushed = sink := by
  simp only [flushing]
  split <;> simp_all

/-- A flushed buffer holds between one sample and a full payload. -/
theorem Padded.bounds_of_flushing (padded : Padded sink) {call : Call S} {flushed : AudioSink S}
    (member : flushed ∈ sink.flushing call) :
    1 ≤ flushed.bufPos ∧ flushed.bufPos ≤ wavChunkPayloadSize := by
  cases call with
  | record sample =>
      rcases mem_flushing_record_iff.mp member with ⟨full, rfl⟩
      exact ⟨Nat.le_add_left 1 _, Nat.le_of_eq full⟩
  | endOfTransmission =>
      rcases mem_flushing_endOfTransmission_iff.mp member with ⟨-, pending, rfl⟩
      exact ⟨Nat.one_le_iff_ne_zero.mpr pending, Nat.le_of_lt padded.room⟩

omit [Sample S] in
theorem toNat_size_eq_iff (flushed : AudioSink S) :
    flushed.chunk.size.toNat = flushed.bufPos ↔ flushed.bufPos < 256 := by
  rw [chunk, UInt8.toNat_ofNat']
  omega

/-- The call flushes fewer than 256 samples, if any: a sample does not fill the
buffer, and the end of a transmission finds less than half of it filled. -/
def FlushesFew (sink : AudioSink S) : Call S → Prop
  | .record _ => sink.bufPos + 1 ≠ wavChunkPayloadSize
  | .endOfTransmission => sink.firstPayloadIgnored = true → sink.bufPos < 256

theorem Padded.sized_iff (padded : Padded sink) (call : Call S) :
    (∀ flushed ∈ sink.flushing call, flushed.chunk.size.toNat = flushed.recorded.length) ↔
      sink.FlushesFew call := by
  have small : ∀ flushed ∈ sink.flushing call,
      (flushed.chunk.size.toNat = flushed.recorded.length ↔ flushed.bufPos < 256) := by
    intro flushed member
    rw [length_recorded (padded.bounds_of_flushing member).2, toNat_size_eq_iff]
  rw [forall₂_congr small]
  cases call with
  | record sample =>
      simp only [mem_flushing_record_iff, FlushesFew]
      constructor
      · intro few full
        have filled : sink.bufPos + 1 < 256 := few (sink.push sample) ⟨full, rfl⟩
        rw [full] at filled
        exact absurd filled (by decide)
      · rintro room flushed ⟨full, -⟩
        exact absurd full room
  | endOfTransmission =>
      simp only [mem_flushing_endOfTransmission_iff, FlushesFew]
      constructor
      · intro few skipped
        by_cases empty : sink.bufPos = 0
        · rw [empty]
          decide
        · exact few sink ⟨skipped, empty, rfl⟩
      · rintro few flushed ⟨skipped, -, rfl⟩
        exact few skipped

end Size

theorem bounds_of_flush {newV4 : Nat → Uuid} {secret : UInt64} {spec : Spec}
    {calls : List (Call S)} {flushed : AudioSink S}
    (member : flushed ∈ (run (flush newV4) (new newV4 secret spec) calls).2) :
    1 ≤ flushed.recorded.length ∧ flushed.recorded.length ≤ wavChunkPayloadSize := by
  rcases (mem_run_iff _ _ _ _).mp member with ⟨before, call, -, emitted⟩
  rw [run_flush_fst] at emitted
  have bounds := (padded_run newV4 secret spec before).bounds_of_flushing emitted
  rw [length_recorded bounds.2]
  exact bounds

theorem sized_run_iff (newV4 : Nat → Uuid) (secret : UInt64) (spec : Spec)
    (calls : List (Call S)) :
    (∀ flushed ∈ (run (flush newV4) (new newV4 secret spec) calls).2,
        flushed.chunk.size.toNat = flushed.recorded.length) ↔
      ∀ before call, before ++ [call] <+: calls →
        (run (react newV4) (new newV4 secret spec) before).1.FlushesFew call := by
  constructor
  · intro sized before call isPrefix
    apply ((padded_run newV4 secret spec before).sized_iff call).mp
    intro flushed emitted
    apply sized flushed
    rw [← run_flush_fst] at emitted
    exact (mem_run_iff _ _ _ _).mpr ⟨before, call, isPrefix, emitted⟩
  · intro few flushed member
    rcases (mem_run_iff _ _ _ _).mp member with ⟨before, call, isPrefix, emitted⟩
    rw [run_flush_fst] at emitted
    exact ((padded_run newV4 secret spec before).sized_iff call).mpr
      (few before call isPrefix) flushed emitted

/-- Over every run of calls, the chunks are those of the flushed sinks, each holds
between one and 512 recorded samples, and all of them announce that number
exactly when no call of the run flushes 256 samples or more. -/
theorem size_announced_iff (newV4 : Nat → Uuid) (secret : UInt64) (spec : Spec)
    (calls : List (Call S)) :
    (run (react newV4) (new newV4 secret spec) calls).2.filterMap chunkOf =
        (run (flush newV4) (new newV4 secret spec) calls).2.map chunk ∧
      (∀ flushed ∈ (run (flush newV4) (new newV4 secret spec) calls).2,
        1 ≤ flushed.recorded.length ∧ flushed.recorded.length ≤ wavChunkPayloadSize) ∧
      ((∀ flushed ∈ (run (flush newV4) (new newV4 secret spec) calls).2,
          flushed.chunk.size.toNat = flushed.recorded.length) ↔
        ∀ before call, before ++ [call] <+: calls →
          (run (react newV4) (new newV4 secret spec) before).1.FlushesFew call) := by
  constructor
  · exact filterMap_chunkOf_run newV4 _ calls
  · constructor
    · intro flushed member
      exact bounds_of_flush member
    · exact sized_run_iff newV4 secret spec calls

/-- A full payload announces no samples. -/
theorem not_size_announced_full :
    ¬ ∀ flushed ∈ (run (flush Uuid.ofNat) (new Uuid.ofNat 0 ⟨1, 44100, 16, .i16⟩)
        ((List.replicate 511 (7 : Int16)).map .record ++ [.record 7])).2,
      flushed.chunk.size.toNat = flushed.recorded.length := by
  rw [sized_run_iff]
  intro few
  have room : (new Uuid.ofNat 0 ⟨1, 44100, 16, .i16⟩ : AudioSink Int16).bufPos <
      wavChunkPayloadSize := by decide
  apply few _ _ List.prefix_rfl
  rw [(recorded_run Uuid.ofNat _ room).bufPos_eq, List.length_replicate]
  rfl

/-! ## Where the samples of a chunk come from -/

/-- The sample that the call at a position recorded. -/
def sampleAt (calls : List (Call S)) (index : Nat) : Option S :=
  calls[index]?.bind Call.sample

/-- The calls at the given positions recorded the given samples. -/
def Originate (calls : List (Call S)) (origins : List Nat) (samples : List S) : Prop :=
  origins.map (sampleAt calls) = samples.map some

omit [Sample S] in
theorem Originate.isRecord {calls : List (Call S)} {origins : List Nat} {samples : List S}
    (originate : Originate calls origins samples) {index : Nat} (member : index ∈ origins) :
    ∃ sample, sampleAt calls index = some sample := by
  have listed := List.mem_map_of_mem (f := sampleAt calls) member
  rw [originate] at listed
  rcases List.mem_map.mp listed with ⟨sample, -, found⟩
  exact ⟨sample, found.symm⟩

omit [Sample S] in
/-- Later calls change nothing about where a sample came from. -/
theorem Originate.append {calls : List (Call S)} {origins : List Nat} {samples : List S}
    (originate : Originate calls origins samples) (more : List (Call S)) :
    Originate (calls ++ more) origins samples := by
  refine Eq.trans (List.map_congr_left ?_) originate
  intro index member
  rcases originate.isRecord member with ⟨sample, found⟩
  rcases Option.bind_eq_some_iff.mp found with ⟨call, isCall, -⟩
  rw [sampleAt, sampleAt, List.getElem?_append_left (List.getElem?_eq_some_iff.mp isCall).1]

omit [Sample S] in
theorem Originate.concat {calls : List (Call S)} {origins : List Nat} {samples : List S}
    (originate : Originate calls origins samples) (sample : S) :
    Originate (calls ++ [.record sample]) (origins ++ [calls.length]) (samples ++ [sample]) := by
  rw [Originate, List.map_append, List.map_append, originate.append [.record sample]]
  simp [sampleAt, Call.sample]

/-- A sink together with the positions of the calls whose samples it holds. -/
structure Traced (S : Type) where
  sink : AudioSink S
  origins : List Nat
  /-- How many calls were made so far. -/
  position : Nat

namespace Traced

def new (newV4 : Nat → Uuid) (secret : UInt64) (spec : Spec) : Traced S where
  sink := .new newV4 secret spec
  origins := []
  position := 0

/-- The positions behind the buffer when the call may flush it. -/
def held (traced : Traced S) : Call S → List Nat
  | .record _ => traced.origins ++ [traced.position]
  | .endOfTransmission => traced.origins

/-- The calls once more: each flushed sink with the positions behind it. -/
def react (newV4 : Nat → Uuid) : Reaction (Traced S) (Call S) (AudioSink S × List Nat)
  | traced, call =>
      ({ sink := (AudioSink.react newV4 traced.sink call).1
         origins := if (traced.sink.flushing call).isEmpty then traced.held call else []
         position := traced.position + 1 },
        (traced.sink.flushing call).map fun flushed => (flushed, traced.held call))

theorem run_sink (newV4 : Nat → Uuid) (traced : Traced S) (calls : List (Call S)) :
    (run (react newV4) traced calls).2.map Prod.fst = (run (flush newV4) traced.sink calls).2 := by
  induction calls generalizing traced with
  | nil => rfl
  | cons call calls ih =>
      rw [run_cons, run_cons, List.map_append, ih]
      apply congrArg (· ++ _)
      simp only [react, List.map_map]
      exact List.map_id _

variable {newV4 : Nat → Uuid} {traced : Traced S}

theorem react_of_kept {call : Call S} (none : traced.sink.flushing call = []) :
    react newV4 traced call =
      (⟨(AudioSink.react newV4 traced.sink call).1, traced.held call, traced.position + 1⟩,
        []) := by
  rw [react, none]
  rfl

theorem react_of_flushed {call : Call S} {flushed : AudioSink S}
    (one : traced.sink.flushing call = [flushed]) :
    react newV4 traced call =
      (⟨(AudioSink.react newV4 traced.sink call).1, [], traced.position + 1⟩,
        [(flushed, traced.held call)]) := by
  rw [react, one]
  rfl

/-- A call that flushes the buffer leaves it empty. -/
theorem recorded_of_flushing {sink : AudioSink S} {call : Call S} {flushed : AudioSink S}
    (member : flushed ∈ sink.flushing call) :
    (AudioSink.react newV4 sink call).1.recorded = [] := by
  apply recorded_of_empty
  cases call with
  | record sample =>
      rcases mem_flushing_record_iff.mp member with ⟨full, -⟩
      simp only [AudioSink.react]
      rw [record_of_eq full]
      rfl
  | endOfTransmission =>
      rcases mem_flushing_endOfTransmission_iff.mp member with ⟨skipped, pending, -⟩
      simp only [AudioSink.react]
      rw [endOfTransmission_of_pending skipped pending]

omit [Sample S] in
theorem flushing_cases (sink : AudioSink S) (call : Call S) :
    sink.flushing call = [] ∨ ∃ flushed, sink.flushing call = [flushed] := by
  cases call with
  | record sample =>
      simp only [flushing]
      split
      · exact Or.inr ⟨_, rfl⟩
      · exact Or.inl rfl
  | endOfTransmission =>
      simp only [flushing]
      split
      · exact Or.inr ⟨_, rfl⟩
      · exact Or.inl rfl

/-- The samples in the buffer and in every flushed sink come from the traced
calls. -/
structure Follows (traced : Traced S) (calls : List (Call S))
    (emitted : List (AudioSink S × List Nat)) : Prop where
  padded : Padded traced.sink
  position_eq : traced.position = calls.length
  buffered : Originate calls traced.origins traced.sink.recorded
  flushed : ∀ output ∈ emitted, Originate calls output.2 output.1.recorded

theorem follows_new (secret : UInt64) (spec : Spec) :
    Follows (new (S := S) newV4 secret spec) [] [] where
  padded := padded_empty rfl rfl
  position_eq := rfl
  buffered := rfl
  flushed := nofun

variable {calls : List (Call S)} {emitted : List (AudioSink S × List Nat)}

omit [Sample S] in
theorem originate_held (position_eq : traced.position = calls.length)
    (buffered : Originate calls traced.origins traced.sink.recorded) (call : Call S) :
    Originate (calls ++ [call]) (traced.held call)
      (traced.sink.recorded ++ call.sample.toList) := by
  cases call with
  | record sample =>
      rw [held, position_eq]
      exact buffered.concat sample
  | endOfTransmission =>
      rw [held, Call.sample, Option.toList_none, List.append_nil]
      exact buffered.append _

theorem Follows.react (follows : Follows traced calls emitted) (call : Call S) :
    Follows (Traced.react newV4 traced call).1 (calls ++ [call])
      (emitted ++ (Traced.react newV4 traced call).2) := by
  have here := originate_held follows.position_eq follows.buffered call
  have earlier : ∀ output ∈ emitted, Originate (calls ++ [call]) output.2 output.1.recorded := by
    intro output member
    exact (follows.flushed output member).append [call]
  have conserved : (traced.sink.flushing call).flatMap recorded ++
      (AudioSink.react newV4 traced.sink call).1.recorded =
        traced.sink.recorded ++ call.sample.toList :=
    follows.padded.flushed_append_recorded call
  have padded := follows.padded.react newV4 call
  have position : traced.position + 1 = (calls ++ [call]).length := by
    rw [List.length_append, follows.position_eq]
    rfl
  rcases flushing_cases traced.sink call with none | ⟨flushed, one⟩
  · rw [none, List.flatMap_nil, List.nil_append] at conserved
    rw [react_of_kept none, List.append_nil]
    constructor
    · exact padded
    · exact position
    · rw [conserved]
      exact here
    · exact earlier
  · have cleared : (AudioSink.react newV4 traced.sink call).1.recorded = [] :=
      recorded_of_flushing (one ▸ List.mem_singleton_self flushed)
    rw [one, List.flatMap_singleton, cleared, List.append_nil] at conserved
    rw [react_of_flushed one]
    constructor
    · exact padded
    · exact position
    · rw [cleared]
      rfl
    · intro output member
      rcases List.mem_append.mp member with before | last
      · exact earlier output before
      · rw [List.mem_singleton.mp last, conserved]
        exact here

theorem follows_run (newV4 : Nat → Uuid) (secret : UInt64) (spec : Spec)
    (calls : List (Call S)) :
    Follows (run (Traced.react newV4) (new newV4 secret spec) calls).1 calls
      (run (Traced.react newV4) (new newV4 secret spec) calls).2 :=
  run_invariant (Traced.react newV4) (new newV4 secret spec) Follows (follows_new secret spec)
    (fun _ _ _ call follows => follows.react call) calls

end Traced

/-! ## The samples before the first end of transmission -/

def Call.isEnd : Call S → Bool
  | .record _ => false
  | .endOfTransmission => true

/-- Every sample in an emitted chunk was recorded after the first end of
transmission. -/
def Dropped (calls : List (Call S)) (emitted : List (AudioSink S × List Nat)) : Prop :=
  ∀ output ∈ emitted, ∀ index ∈ output.2, .endOfTransmission ∈ calls.take index

/-- Too few calls to flush a buffer that holds a sample. -/
def Quiet (calls : List (Call S)) : Prop :=
  (calls.filterMap Call.sample).length < wavChunkPayloadSize ∧ calls.countP Call.isEnd ≤ 1

namespace Traced

omit [Sample S] in
/-- The first call recorded nothing, so no chunk holds a sample of it. -/
theorem dropped_of_first_end {calls : List (Call S)}
    {emitted : List (AudioSink S × List Nat)}
    (flushed : ∀ output ∈ emitted, Originate (.endOfTransmission :: calls) output.2
      output.1.recorded) :
    Dropped (.endOfTransmission :: calls) emitted := by
  intro output member index isOrigin
  rcases (flushed output member).isRecord isOrigin with ⟨sample, found⟩
  cases index with
  | zero => cases found
  | succ index => exact List.mem_cons_self

/-- A run that began with a sample and has flushed nothing yet. -/
structure Silent (traced : Traced S) (calls : List (Call S))
    (emitted : List (AudioSink S × List Nat)) : Prop where
  emitted_eq : emitted = []
  first : 0 ∈ traced.origins
  pending : traced.sink.bufPos ≠ 0
  bufPos_eq : traced.sink.bufPos = (calls.filterMap Call.sample).length
  skipped_iff : traced.sink.firstPayloadIgnored = true ↔ calls.countP Call.isEnd ≠ 0
  quiet : Quiet calls

/-- A run that began with a sample and has flushed it. -/
structure Leaked (calls : List (Call S)) (emitted : List (AudioSink S × List Nat)) : Prop where
  first : ∃ output ∈ emitted, 0 ∈ output.2
  not_quiet : ¬ Quiet calls

variable {newV4 : Nat → Uuid} {traced : Traced S} {calls : List (Call S)}
  {emitted : List (AudioSink S × List Nat)}

omit [Sample S] in
theorem quiet_concat_iff (call : Call S) :
    Quiet (calls ++ [call]) ↔
      (calls.filterMap Call.sample).length + call.sample.toList.length < wavChunkPayloadSize ∧
        calls.countP Call.isEnd + call.isEnd.toNat ≤ 1 := by
  rw [Quiet, List.filterMap_append, List.length_append, List.countP_append]
  cases call with
  | record sample => rfl
  | endOfTransmission => rfl

omit [Sample S] in
theorem Leaked.append (leaked : Leaked calls emitted) (call : Call S)
    (more : List (AudioSink S × List Nat)) : Leaked (calls ++ [call]) (emitted ++ more) := by
  constructor
  · rcases leaked.first with ⟨output, member, isFirst⟩
    exact ⟨output, List.mem_append_left _ member, isFirst⟩
  · rw [quiet_concat_iff]
    intro quiet
    apply leaked.not_quiet
    constructor
    · omega
    · omega

theorem Silent.record (silent : Silent traced calls emitted) (sample : S) :
    Silent (react newV4 traced (.record sample)).1 (calls ++ [.record sample])
        (emitted ++ (react newV4 traced (.record sample)).2) ∨
      Leaked (calls ++ [.record sample])
        (emitted ++ (react newV4 traced (.record sample)).2) := by
  have held : 0 ∈ traced.held (.record sample) := List.mem_append_left _ silent.first
  have filled := silent.bufPos_eq
  have room := silent.quiet.1
  have ends := silent.quiet.2
  by_cases full : traced.sink.bufPos + 1 = wavChunkPayloadSize
  · apply Or.inr
    rw [react_of_flushed (flushing_of_full full)]
    constructor
    · exact ⟨_, List.mem_append_right _ List.mem_cons_self, held⟩
    · rw [quiet_concat_iff]
      rintro ⟨few, -⟩
      rw [← filled] at few
      exact absurd full (Nat.ne_of_lt few)
  · apply Or.inl
    rw [react_of_kept (flushing_of_room full), List.append_nil]
    have pushed : (AudioSink.react newV4 traced.sink (.record sample)).1 =
        traced.sink.push sample := congrArg Prod.fst (record_of_ne full)
    constructor
    · exact silent.emitted_eq
    · exact held
    · rw [pushed]
      exact Nat.succ_ne_zero _
    · rw [pushed, List.filterMap_append, List.length_append, ← filled]
      rfl
    · rw [pushed, List.countP_append]
      exact silent.skipped_iff
    · rw [quiet_concat_iff, ← filled]
      rw [← filled] at room
      exact ⟨Nat.lt_of_le_of_ne room full, ends⟩

theorem Silent.endOfTransmission (silent : Silent traced calls emitted) :
    Silent (react newV4 traced .endOfTransmission).1 (calls ++ [.endOfTransmission])
        (emitted ++ (react newV4 traced .endOfTransmission).2) ∨
      Leaked (calls ++ [.endOfTransmission])
        (emitted ++ (react newV4 traced .endOfTransmission).2) := by
  have skippedIff := silent.skipped_iff
  cases skipped : traced.sink.firstPayloadIgnored with
  | true =>
      apply Or.inr
      rw [react_of_flushed (flushing_of_pending skipped silent.pending)]
      constructor
      · exact ⟨_, List.mem_append_right _ List.mem_cons_self, silent.first⟩
      · rw [quiet_concat_iff]
        rintro ⟨-, once⟩
        apply skippedIff.mp skipped
        exact Nat.le_zero.mp (Nat.le_of_succ_le_succ once)
  | false =>
      apply Or.inl
      have none : traced.sink.flushing .endOfTransmission = [] := by
        simp [flushing, skipped]
      have marked : (AudioSink.react newV4 traced.sink .endOfTransmission).1 =
          { traced.sink with firstPayloadIgnored := true } :=
        congrArg Prod.fst (endOfTransmission_of_first skipped)
      have unended : calls.countP Call.isEnd = 0 := by
        by_contra ended
        cases skipped.symm.trans (skippedIff.mpr ended)
      rw [react_of_kept none, List.append_nil]
      constructor
      · exact silent.emitted_eq
      · exact silent.first
      · rw [marked]
        exact silent.pending
      · rw [marked, List.filterMap_append, List.length_append]
        exact silent.bufPos_eq
      · rw [marked, List.countP_append, unended]
        exact iff_of_true rfl (Nat.succ_ne_zero 0)
      · rw [quiet_concat_iff, unended]
        exact ⟨silent.quiet.1, Nat.le_refl 1⟩

/-- The sample of a first `record` call is in a chunk exactly when there were
enough calls to flush it. -/
theorem silent_or_leaked_run (newV4 : Nat → Uuid) (secret : UInt64) (spec : Spec) (sample : S)
    (calls : List (Call S)) :
    Silent (run (react newV4) (new newV4 secret spec) (.record sample :: calls)).1
        (.record sample :: calls)
        (run (react newV4) (new newV4 secret spec) (.record sample :: calls)).2 ∨
      Leaked (.record sample :: calls)
        (run (react newV4) (new newV4 secret spec) (.record sample :: calls)).2 := by
  have one : 1 < wavChunkPayloadSize := by decide
  have begun : react newV4 (new newV4 secret spec) (.record sample) =
      (⟨AudioSink.push (.new newV4 secret spec) sample, [0], 1⟩, []) := rfl
  rw [run_cons, begun]
  apply run_invariant (react newV4) _ (fun traced calls emitted =>
    Silent traced (.record sample :: calls) emitted ∨ Leaked (.record sample :: calls) emitted)
  · apply Or.inl
    constructor
    · rfl
    · exact List.mem_singleton_self 0
    · exact nofun
    · rfl
    · exact iff_of_false nofun (not_not.mpr rfl)
    · exact ⟨one, Nat.zero_le 1⟩
  · rintro traced calls emitted call (silent | leaked)
    · cases call with
      | record other => exact silent.record other
      | endOfTransmission => exact silent.endOfTransmission
    · exact Or.inr (leaked.append call _)

theorem dropped_iff_quiet (newV4 : Nat → Uuid) (secret : UInt64) (spec : Spec) (sample : S)
    (calls : List (Call S)) :
    Dropped (.record sample :: calls)
        (run (react newV4) (new newV4 secret spec) (.record sample :: calls)).2 ↔
      Quiet (.record sample :: calls) := by
  rcases silent_or_leaked_run newV4 secret spec sample calls with silent | leaked
  · rw [silent.emitted_eq]
    exact iff_of_true nofun silent.quiet
  · apply iff_of_false _ leaked.not_quiet
    intro dropped
    rcases leaked.first with ⟨output, member, isFirst⟩
    cases dropped output member 0 isFirst

end Traced

/-- Over every run of calls, the chunks are those of the traced sinks, their
samples were recorded by the calls at the traced positions, and none of those
calls precedes the first end of transmission exactly when no sample does, or when
the run is too short to flush a buffer at all. -/
theorem first_transmission_dropped_iff (newV4 : Nat → Uuid) (secret : UInt64) (spec : Spec)
    (calls : List (Call S)) :
    let emitted := (run (Traced.react newV4) (.new newV4 secret spec) calls).2
    (run (react newV4) (new newV4 secret spec) calls).2.filterMap chunkOf =
        emitted.map (fun output => output.1.chunk) ∧
      (∀ output ∈ emitted, Originate calls output.2 output.1.recorded) ∧
      (Dropped calls emitted ↔ (∀ sample, calls.head? ≠ some (.record sample)) ∨ Quiet calls) := by
  have follows := Traced.follows_run newV4 secret spec calls
  refine ⟨?_, follows.flushed, ?_⟩
  · have sinks := congrArg (List.map chunk) (Traced.run_sink newV4 (.new newV4 secret spec) calls)
    rw [List.map_map] at sinks
    rw [filterMap_chunkOf_run]
    exact sinks.symm
  · cases calls with
    | nil => exact iff_of_true nofun (Or.inl nofun)
    | cons call calls =>
        cases call with
        | record sample =>
            rw [Traced.dropped_iff_quiet]
            exact (or_iff_right fun unrecorded => unrecorded sample rfl).symm
        | endOfTransmission =>
            apply iff_of_true (Traced.dropped_of_first_end follows.flushed)
            exact Or.inl nofun

/-- A sample of the first transmission leaves with the second one. -/
theorem not_first_transmission_dropped :
    ¬ Dropped [.record (7 : Int16), .endOfTransmission, .record 9, .endOfTransmission]
      (run (Traced.react Uuid.ofNat) (.new Uuid.ofNat 0 ⟨1, 44100, 16, .i16⟩)
        [.record 7, .endOfTransmission, .record 9, .endOfTransmission]).2 := by
  rw [Traced.dropped_iff_quiet]
  rintro ⟨-, once⟩
  exact absurd once (by decide)

end AudioSink

end Bug
