import Bug.Audio.Handler

/-!
# Recordings over whole runs

The handler keeps every open writer on the file of its own identifier, so the
chunks written to a file since its creation have increasing numbers whatever
order the datagrams arrive in.
-/

namespace Bug

open Bug.Db
open Bug.Transition

namespace Effect

/-- The file that an effect works on. -/
def file : Effect → Option PathBuf
  | create path _ => some path
  | append path _ _ => some path
  | finalize path => some path
  | send _ => none

/-- The chunks written to a file since it was last created, after one more
effect. -/
def extend (path : PathBuf) (chunks : Option (List (UInt32 × List WavSample))) :
    Effect → Option (List (UInt32 × List WavSample))
  | create other _ => if other = path then some [] else chunks
  | append other seq samples =>
      if other = path then chunks.map (· ++ [(seq, samples)]) else chunks
  | _ => chunks

end Effect

/-- The chunks written to a file since it was last created. -/
def chunksWritten (path : PathBuf) (effects : List Effect) :
    Option (List (UInt32 × List WavSample)) :=
  effects.foldl (Effect.extend path) none

theorem chunksWritten_append (path : PathBuf) (first second : List Effect) :
    chunksWritten path (first ++ second) =
      second.foldl (Effect.extend path) (chunksWritten path first) :=
  List.foldl_append

/-- The samples in a file are those of the chunks written since its creation. -/
theorem applyAll_of_chunksWritten {path : PathBuf} {effects : List Effect}
    {chunks : List (UInt32 × List WavSample)}
    (written : chunksWritten path effects = some chunks) (files : FileSystem) :
    files.applyAll effects path = some (chunks.flatMap Prod.snd) := by
  induction effects using List.reverseRecOn generalizing chunks with
  | nil => cases written
  | append_singleton effects effect ih =>
      rw [chunksWritten_append, List.foldl_cons, List.foldl_nil] at written
      rw [FileSystem.applyAll_append, FileSystem.applyAll_cons, FileSystem.applyAll_nil]
      cases effect with
      | create other spec =>
          by_cases same : other = path
          · subst same
            simp only [Effect.extend, if_true, Option.some.injEq] at written
            simp [FileSystem.apply, ← written]
          · simp only [Effect.extend, if_neg same] at written
            simpa [FileSystem.apply, Ne.symm same] using ih written
      | append other seq samples =>
          by_cases same : other = path
          · subst same
            simp only [Effect.extend, if_true, Option.map_eq_some_iff] at written
            obtain ⟨before, writtenBefore, rfl⟩ := written
            simp [FileSystem.apply, ih writtenBefore]
          · simp only [Effect.extend, if_neg same] at written
            simpa [FileSystem.apply, Ne.symm same] using ih written
      | finalize other => exact ih written
      | send event => exact ih written

section Frame

variable {path : PathBuf} {effects : List Effect}

theorem extend_of_file_ne {effect : Effect} (elsewhere : effect.file ≠ some path)
    (chunks : Option (List (UInt32 × List WavSample))) :
    effect.extend path chunks = chunks := by
  cases effect with
  | create other spec => exact if_neg fun same => elsewhere (congrArg some same)
  | append other seq samples => exact if_neg fun same => elsewhere (congrArg some same)
  | finalize other => rfl
  | send event => rfl

theorem foldl_extend_of_file_ne (elsewhere : ∀ effect ∈ effects, effect.file ≠ some path)
    (chunks : Option (List (UInt32 × List WavSample))) :
    effects.foldl (Effect.extend path) chunks = chunks := by
  induction effects with
  | nil => rfl
  | cons effect effects ih =>
      obtain ⟨first, rest⟩ := List.forall_mem_cons.mp elsewhere
      rw [List.foldl_cons, extend_of_file_ne first, ih rest]

/-- A file is changed only by the effects that work on it. -/
theorem applyAll_of_file_ne (elsewhere : ∀ effect ∈ effects, effect.file ≠ some path)
    (files : FileSystem) : files.applyAll effects path = files path := by
  induction effects generalizing files with
  | nil => rfl
  | cons effect effects ih =>
      obtain ⟨first, rest⟩ := List.forall_mem_cons.mp elsewhere
      rw [FileSystem.applyAll_cons, ih rest]
      cases effect with
      | create other spec =>
          exact Function.update_of_ne (fun same => first (congrArg some same.symm)) _ _
      | append other seq samples =>
          exact Function.update_of_ne (fun same => first (congrArg some same.symm)) _ _
      | finalize other => rfl
      | send event => rfl

end Frame

namespace AudioHandler

/-! ## Every writer on its own file -/

/-- The writers of a handler that began as `start`: each holds the file of the
identifier it is kept under. -/
structure Kept (start handler : AudioHandler) : Prop where
  wavPath_eq : ∀ id, handler.wavPath id = start.wavPath id
  spec_eq : handler.spec = start.spec
  writer_eq : ∀ id writer, handler.writers.lookup id = some writer →
    writer.id = id ∧ writer.inner = some ⟨start.wavPath id, start.spec.toWavSpec⟩

theorem kept_new (wavDirectory : PathBuf) (spec : Spec) (deviceId : Uuid) :
    Kept (new wavDirectory spec deviceId) (new wavDirectory spec deviceId) where
  wavPath_eq _ := rfl
  spec_eq := rfl
  writer_eq := Table.forall_empty _

section Step

variable {hound : Hound} {start handler after : AudioHandler} {datagram : Datagram}
  {effects : List Effect} {id : Uuid} {seq : UInt32} {writer next : AudioWriter}

theorem Opened.holds_file (kept : Kept start handler)
    (opened : Opened hound handler id writer effects) :
    writer.id = id ∧ writer.inner = some ⟨start.wavPath id, start.spec.toWavSpec⟩ := by
  cases opened with
  | existing known => exact kept.writer_eq id writer known
  | created unknown creates =>
      simp only [freshWriter, kept.wavPath_eq, kept.spec_eq, and_self]

theorem Written.keeps_file {format : SampleFormat}
    (written : Written hound format seq writer next effects) :
    next.id = writer.id ∧ next.inner = writer.inner := by
  cases written <;> exact ⟨rfl, rfl⟩

theorem Kept.put (kept : Kept start handler) (idEq : writer.id = id)
    (innerEq : writer.inner = some ⟨start.wavPath id, start.spec.toWavSpec⟩) :
    Kept start (handler.put id writer) where
  wavPath_eq := kept.wavPath_eq
  spec_eq := kept.spec_eq
  writer_eq := Table.forall_insert kept.writer_eq ⟨idEq, innerEq⟩

theorem Kept.remove (kept : Kept start handler) (id : Uuid) :
    Kept start (handler.remove id) where
  wavPath_eq := kept.wavPath_eq
  spec_eq := kept.spec_eq
  writer_eq := Table.forall_erase kept.writer_eq id

theorem Kept.step (kept : Kept start handler)
    (step : HandlerStep hound handler datagram after effects) : Kept start after := by
  cases step with
  | ignored => exact kept
  | refused => exact kept
  | chunk opened written =>
      obtain ⟨idEq, innerEq⟩ := opened.holds_file kept
      obtain ⟨sameId, sameInner⟩ := written.keeps_file
      exact kept.put (sameId.trans idEq) (sameInner.trans innerEq)
  | ended known finalized => exact kept.remove _

/-- A datagram works on no file but that of its own identifier. -/
theorem HandlerStep.file_eq (kept : Kept start handler)
    (step : HandlerStep hound handler datagram after effects) {effect : Effect}
    (member : effect ∈ effects) {path : PathBuf} (isFile : effect.file = some path) :
    ∃ id, datagram.id = some id ∧ path = start.wavPath id := by
  cases step with
  | ignored => cases member
  | refused unknown failed creates =>
      rw [creates effect member] at isFile
      cases isFile
      exact ⟨_, rfl, kept.wavPath_eq _⟩
  | chunk opened written =>
      obtain ⟨-, innerEq⟩ := opened.holds_file kept
      refine ⟨_, rfl, ?_⟩
      rcases List.mem_append.mp member with creating | writing
      · cases opened with
        | existing known => cases creating
        | created unknown creates =>
            rw [List.mem_singleton.mp creating] at isFile
            cases isFile
            exact kept.wavPath_eq _
      · cases written with
        | stale notNewer => cases writing
        | finalized innerNone => cases writing
        | whole innerSome newer =>
            rw [List.mem_singleton.mp writing] at isFile
            cases isFile
            cases innerSome.symm.trans innerEq
            rfl
        | cut innerSome newer cause =>
            rw [List.mem_singleton.mp writing] at isFile
            cases isFile
            cases innerSome.symm.trans innerEq
            rfl
  | ended known finalized =>
      obtain ⟨-, innerEq⟩ := kept.writer_eq _ _ known
      refine ⟨_, rfl, ?_⟩
      cases finalized with
      | sent innerSome named =>
          cases innerSome.symm.trans innerEq
          simp only [List.mem_cons, List.not_mem_nil, or_false] at member
          rcases member with rfl | rfl
          · exact (Option.some.inj isFile).symm
          · cases isFile
      | failed innerSome fails =>
          cases innerSome.symm.trans innerEq
          rw [List.mem_singleton.mp member] at isFile
          exact (Option.some.inj isFile).symm
      | finalized innerNone => cases member

end Step

theorem kept_run (wavDirectory : PathBuf) (spec : Spec) (deviceId : Uuid)
    (messages : List AudioBytes) :
    Kept (new wavDirectory spec deviceId)
      (run handle (new wavDirectory spec deviceId) messages).1 :=
  run_invariant handle (new wavDirectory spec deviceId)
    (fun handler _ _ => Kept (new wavDirectory spec deviceId) handler)
    (kept_new wavDirectory spec deviceId)
    (fun handler _ _ message kept => kept.step (handlerStep_handle handler message))
    messages

/-! ## Increasing chunks -/

/-- The chunks written to the file of one identifier are in increasing order,
and none of them is newer than what its writer, if any, has reached. -/
structure Increasing (start handler : AudioHandler) (log : List Effect) (id : Uuid) : Prop where
  pairwise : ∀ chunks, chunksWritten (start.wavPath id) log = some chunks →
    chunks.Pairwise fun earlier later => earlier.1 < later.1
  reached : ∀ chunks writer, chunksWritten (start.wavPath id) log = some chunks →
    handler.writers.lookup id = some writer → ∀ chunk ∈ chunks, chunk.1 ≤ writer.seq

section IncreasingStep

variable {hound : Hound} {start handler after : AudioHandler} {datagram : Datagram}
  {log effects : List Effect} {id : Uuid} {seq : UInt32} {writer next : AudioWriter}

/-- Opening a writer leaves it level with its file. -/
theorem Increasing.put_opened (increasing : Increasing start handler log id)
    (kept : Kept start handler) (opened : Opened hound handler id writer effects) :
    Increasing start (handler.put id writer) (log ++ effects) id := by
  cases opened with
  | existing known =>
      rw [List.append_nil]
      constructor
      · exact increasing.pairwise
      · intro chunks found writtenEq putEq
        rw [put, AList.lookup_insert] at putEq
        cases putEq
        exact increasing.reached chunks writer writtenEq known
  | created unknown creates =>
      have emptied : chunksWritten (start.wavPath id)
          (log ++ [.create (handler.wavPath id) handler.spec.toWavSpec]) = some [] := by
        rw [chunksWritten_append, kept.wavPath_eq]
        exact if_pos rfl
      constructor
      · intro chunks writtenEq
        cases emptied.symm.trans writtenEq
        exact List.Pairwise.nil
      · intro chunks found writtenEq putEq chunk member
        cases emptied.symm.trans writtenEq
        cases member

/-- Writing a chunk moves the file and its writer on together. -/
theorem Increasing.put_written {format : SampleFormat}
    (increasing : Increasing start (handler.put id writer) log id)
    (innerEq : writer.inner = some ⟨start.wavPath id, start.spec.toWavSpec⟩)
    (succeeds : hound.Succeeds) (signed : format ≠ .u16)
    (written : Written hound format seq writer next effects) :
    Increasing start (handler.put id next) (log ++ effects) id := by
  have isOpen : (handler.put id writer).writers.lookup id = some writer :=
    AList.lookup_insert _
  cases written with
  | stale notNewer => simpa using increasing
  | finalized innerNone => simpa using increasing
  | cut innerSome newer cause => exact absurd (cause succeeds) signed
  | @whole inner samples innerSome newer =>
      cases innerSome.symm.trans innerEq
      have extended : ∀ chunks, chunksWritten (start.wavPath id)
            (log ++ [.append (start.wavPath id) seq samples]) = some chunks →
          ∃ before, chunksWritten (start.wavPath id) log = some before ∧
            before ++ [(seq, samples)] = chunks := by
        intro chunks writtenEq
        rw [chunksWritten_append] at writtenEq
        simpa [Effect.extend] using writtenEq
      constructor
      · intro chunks writtenEq
        obtain ⟨before, beforeEq, rfl⟩ := extended chunks writtenEq
        refine List.pairwise_append.mpr
          ⟨increasing.pairwise before beforeEq, List.pairwise_singleton _ _, ?_⟩
        intro chunk member last isLast
        rw [List.mem_singleton.mp isLast]
        exact Std.lt_of_le_of_lt
          (increasing.reached before writer beforeEq isOpen chunk member) newer
      · intro chunks found writtenEq putEq
        obtain ⟨before, beforeEq, rfl⟩ := extended chunks writtenEq
        rw [put, AList.lookup_insert] at putEq
        cases putEq
        intro chunk member
        rcases List.mem_append.mp member with early | last
        · exact Std.le_of_lt (Std.lt_of_le_of_lt
            (increasing.reached before writer beforeEq isOpen chunk early) newer)
        · rw [List.mem_singleton.mp last]
          exact Std.le_refl seq

/-- A datagram of another identifier leaves the writer of this one in place. -/
theorem HandlerStep.lookup_eq (step : HandlerStep hound handler datagram after effects)
    (elsewhere : datagram.id ≠ some id) :
    after.writers.lookup id = handler.writers.lookup id := by
  cases step with
  | ignored => rfl
  | refused => rfl
  | chunk opened written =>
      exact AList.lookup_insert_ne fun same => elsewhere (congrArg some same.symm)
  | ended known finalized =>
      exact AList.lookup_erase_ne fun same => elsewhere (congrArg some same.symm)

/-- A datagram of another identifier leaves the file of this one alone. -/
theorem HandlerStep.file_ne (kept : Kept start handler)
    (step : HandlerStep hound handler datagram after effects)
    (elsewhere : datagram.id ≠ some id) :
    ∀ effect ∈ effects, effect.file ≠ some (start.wavPath id) := by
  intro effect member isFile
  obtain ⟨other, otherId, pathEq⟩ := step.file_eq kept member isFile
  rw [start.wavPath_injective pathEq] at elsewhere
  exact elsewhere otherId

theorem Increasing.step (increasing : Increasing start handler log id)
    (kept : Kept start handler) (succeeds : hound.Succeeds)
    (signed : start.spec.sampleFormat ≠ .u16)
    (step : HandlerStep hound handler datagram after effects) :
    Increasing start after (log ++ effects) id := by
  by_cases own : datagram.id = some id
  · cases step with
    | ignored => simpa using increasing
    | refused unknown failed creates => exact absurd succeeds.create_eq failed
    | chunk opened written =>
        cases own
        obtain ⟨-, innerEq⟩ := opened.holds_file kept
        rw [← kept.spec_eq] at signed
        have written := (increasing.put_opened kept opened).put_written innerEq succeeds signed
          written
        rwa [List.append_assoc] at written
    | ended known finalized =>
        cases own
        have unwritten : chunksWritten (start.wavPath id) (log ++ effects) =
            chunksWritten (start.wavPath id) log := by
          rw [chunksWritten_append]
          cases finalized <;> rfl
        constructor
        · rw [unwritten]
          exact increasing.pairwise
        · intro chunks writer writtenEq gone
          rw [remove, AList.lookup_erase] at gone
          cases gone
  · have unwritten : chunksWritten (start.wavPath id) (log ++ effects) =
        chunksWritten (start.wavPath id) log := by
      rw [chunksWritten_append, foldl_extend_of_file_ne (step.file_ne kept own)]
    constructor
    · rw [unwritten]
      exact increasing.pairwise
    · rw [unwritten, step.lookup_eq own]
      exact increasing.reached

end IncreasingStep

theorem increasing_run {wavDirectory : PathBuf} {spec : Spec} {deviceId : Uuid}
    (signed : spec.sampleFormat ≠ .u16) (messages : List AudioBytes)
    (succeeds : ∀ message ∈ messages, message.hound.Succeeds) (id : Uuid) :
    Increasing (new wavDirectory spec deviceId)
      (run handle (new wavDirectory spec deviceId) messages).1
      (run handle (new wavDirectory spec deviceId) messages).2 id := by
  have invariant := run_invariant handle (new wavDirectory spec deviceId)
    (fun handler inputs log => Kept (new wavDirectory spec deviceId) handler ∧
      ((∀ message ∈ inputs, message.hound.Succeeds) →
        Increasing (new wavDirectory spec deviceId) handler log id))
    ⟨kept_new wavDirectory spec deviceId, fun _ => ⟨nofun, nofun⟩⟩
    (by
      rintro handler inputs log message ⟨kept, increasing⟩
      have step := handlerStep_handle handler message
      refine ⟨kept.step step, ?_⟩
      intro succeeds
      obtain ⟨earlier, last⟩ := List.forall_mem_append.mp succeeds
      exact (increasing earlier).step kept (last message List.mem_cons_self) signed step)
    messages
  exact invariant.2 succeeds

/-- Whatever datagrams arrive, the chunks written to a file since it was
created have strictly increasing numbers, they are all that the file holds, and
a datagram of another identifier does not change it. -/
theorem chunksWritten_increasing (wavDirectory : PathBuf) (spec : Spec) (deviceId : Uuid)
    (signed : spec.sampleFormat ≠ .u16) (messages : List AudioBytes)
    (succeeds : ∀ message ∈ messages, message.hound.Succeeds) (id : Uuid) :
    (∀ chunks, chunksWritten ((new wavDirectory spec deviceId).wavPath id)
          (run handle (new wavDirectory spec deviceId) messages).2 = some chunks →
        chunks.Pairwise (fun earlier later => earlier.1 < later.1) ∧
          ∀ files : FileSystem,
            files.applyAll (run handle (new wavDirectory spec deviceId) messages).2
                ((new wavDirectory spec deviceId).wavPath id) =
              some (chunks.flatMap Prod.snd)) ∧
      ∀ message : AudioBytes, (datagram spec.sampleFormat message).id ≠ some id →
        ∀ files : FileSystem,
          files.applyAll
              ((run handle (new wavDirectory spec deviceId) messages).1.handle message).2
              ((new wavDirectory spec deviceId).wavPath id) =
            files ((new wavDirectory spec deviceId).wavPath id) := by
  have kept := kept_run wavDirectory spec deviceId messages
  constructor
  · intro chunks writtenEq
    exact ⟨(increasing_run signed messages succeeds id).pairwise chunks writtenEq,
      applyAll_of_chunksWritten writtenEq⟩
  · intro message elsewhere
    have step := handlerStep_handle
      (run handle (new wavDirectory spec deviceId) messages).1 message
    rw [kept.spec_eq] at step
    exact applyAll_of_file_ne (step.file_ne kept elsewhere)

/-- A chunk whose predecessor was lost. -/
def gap : WavChunk Int16 :=
  ⟨.ofNat 7, 2, 0, default⟩

theorem chunksWritten_gap (start : AudioHandler)
    (formatEq : start.spec.sampleFormat = .i16)
    (unknown : start.writers.lookup (.ofNat 7) = none) :
    chunksWritten (start.wavPath (.ofNat 7))
        (start.handle (.ofAudio (.working ⟨0, 0⟩) (.wavChunk gap))).2 =
      some [(2, gap.payload.samples.filterMap (SampleFormat.tryInto .i16))] := by
  have newer : (0 : UInt32) < gap.seq := by decide
  rw [handle_chunk_of_unknown formatEq (.working ⟨0, 0⟩) gap unknown rfl,
    AudioWriter.write_of_lt .i16 (Hound.succeeds_working _) nofun rfl newer]
  simp [chunksWritten, Effect.extend, gap]

/-- The chunk after the gap is written to the new file. -/
theorem chunksWritten_increasing_gap :
    [((2 : UInt32), gap.payload.samples.filterMap (SampleFormat.tryInto .i16))].Pairwise
        (fun earlier later => earlier.1 < later.1) ∧
      ∀ files : FileSystem,
        files.applyAll
            (run handle (new ["wav"] ⟨1, 44100, 16, .i16⟩ (.ofNat 1))
              [.ofAudio (.working ⟨0, 0⟩) (.wavChunk gap)]).2
            ((new ["wav"] ⟨1, 44100, 16, .i16⟩ (.ofNat 1)).wavPath (.ofNat 7)) =
          some ([((2 : UInt32), gap.payload.samples.filterMap
            (SampleFormat.tryInto .i16))].flatMap Prod.snd) := by
  refine (chunksWritten_increasing ["wav"] ⟨1, 44100, 16, .i16⟩ (.ofNat 1) nofun
    [.ofAudio (.working ⟨0, 0⟩) (.wavChunk gap)]
    (List.forall_mem_singleton.mpr (Hound.succeeds_working _)) (.ofNat 7)).1 _ ?_
  rw [run_singleton]
  exact chunksWritten_gap _ rfl (AList.lookup_empty _)

end AudioHandler

end Bug
