import Bug.Audio.Delivered
import Bug.Audio.Isolation

/-!
# Datagrams that arrive in order

When the network neither reorders nor repeats, what the handler does for a
transmission is known exactly.  Every chunk that arrives is written but the one
numbered zero, and the end marker announces the recording once.
-/

namespace Bug

open Bug.Db
open Bug.Encoding
open Bug.Transition

namespace AudioHandler

variable {format : SampleFormat}

/-- A message and the outcomes that its datagram meets. -/
def toMessage (arrival : Hound × Audio format.Carrier) : AudioBytes :=
  .ofAudio arrival.1 arrival.2

/-- The order in which a client sends the messages of one identifier. -/
def InOrder : Audio format.Carrier → Audio format.Carrier → Prop
  | .wavChunk earlier, .wavChunk later => earlier.seq < later.seq
  | .wavChunk _, .wavEnd _ => True
  | _, _ => False

/-- What the end marker of an open recording leads to. -/
def announcement (start : AudioHandler) (id : Uuid) (opening : Hound) :
    Hound × Audio format.Carrier → List Effect
  | (ending, .wavEnd _) =>
      [.finalize (start.wavPath id),
        .send {
          kind := .sound
          payload := .sound (AudioWriter.wavFile id)
          startedAt := opening.now id
          endedAt := ending.now id
          deviceId := start.deviceId }]
  | _ => []

/-- The chunks among the messages that arrived, but for the one numbered zero. -/
def accepted (arrivals : List (Hound × Audio format.Carrier)) : List (WavChunk format.Carrier) :=
  (arrivals.filterMap fun arrival => AudioSink.chunkOf arrival.2).filter fun chunk => chunk.seq ≠ 0

/-- What a handler does for the messages of one identifier that arrive in order:
nothing before the first chunk. -/
def recordingLog (start : AudioHandler) (id : Uuid)
    (arrivals : List (Hound × Audio format.Carrier)) : List Effect :=
  match arrivals with
  | (opening, .wavChunk _) :: _ =>
      .create (start.wavPath id) start.spec.toWavSpec ::
        (accepted arrivals).map (appendChunk (start.wavPath id)) ++
          arrivals.flatMap (start.announcement id opening)
  | _ => []

/-- The writer of an open recording. -/
def openWriter (start : AudioHandler) (id : Uuid) (opening : Hound) (seq : UInt32) :
    AudioWriter :=
  { start.freshWriter opening id with seq := seq }

theorem accepted_cons_of_ne (hound : Hound) {chunk : WavChunk format.Carrier}
    (arrivals : List (Hound × Audio format.Carrier)) (counted : chunk.seq ≠ 0) :
    accepted ((hound, .wavChunk chunk) :: arrivals) = chunk :: accepted arrivals := by
  exact List.filter_cons_of_pos (decide_eq_true counted)

theorem accepted_cons_of_eq (hound : Hound) {chunk : WavChunk format.Carrier}
    (arrivals : List (Hound × Audio format.Carrier)) (first : chunk.seq = 0) :
    accepted ((hound, .wavChunk chunk) :: arrivals) = accepted arrivals := by
  exact List.filter_cons_of_neg (by simp [first])

/-- The end marker finalises an open recording under its name and its device. -/
theorem finalizeWriter_openWriter (format : SampleFormat) {start : AudioHandler} {id : Uuid} {opening ending : Hound}
    {seq : UInt32} (succeeds : ending.Succeeds) :
    (finalizeWriter ending (start.openWriter id opening seq)).1 =
      start.announcement id opening (ending, (.wavEnd id : Audio format.Carrier)) := by
  simp [finalizeWriter, AudioWriter.finalizeAsNewEvent, openWriter, freshWriter,
    succeeds.finalize_eq, announcement]

section Known

variable {start handler : AudioHandler} {id : Uuid} {opening : Hound} {seq : UInt32}

/-- The messages that follow the first chunk in order are all written. -/
theorem run_of_known (formatEq : start.spec.sampleFormat = format) (signed : format ≠ .u16)
    (arrivals : List (Hound × Audio format.Carrier))
    (succeeds : ∀ arrival ∈ arrivals, arrival.1.Succeeds)
    (own : ∀ arrival ∈ arrivals, arrival.2.datagram.id = some id)
    (ordered : (arrivals.map Prod.snd).Pairwise InOrder)
    (newer : ∀ chunk, .wavChunk chunk ∈ arrivals.map Prod.snd → seq < chunk.seq)
    (specEq : handler.spec = start.spec)
    (known : handler.writers.lookup id = some (start.openWriter id opening seq)) :
    (run handle handler (arrivals.map toMessage)).2 =
      (accepted arrivals).map (appendChunk (start.wavPath id)) ++
        arrivals.flatMap (start.announcement id opening) := by
  induction arrivals generalizing handler seq with
  | nil => rfl
  | cons arrival arrivals ih =>
      rcases arrival with ⟨hound, audio⟩
      rcases List.forall_mem_cons.mp succeeds with ⟨succeedsHead, succeedsTail⟩
      rcases List.forall_mem_cons.mp own with ⟨ownHead, ownTail⟩
      rw [List.map_cons, List.pairwise_cons] at ordered
      cases audio with
      | wavChunk chunk =>
          cases ownHead
          have chunkNewer : seq < chunk.seq := newer chunk List.mem_cons_self
          have handled := handle_chunk_of_known (specEq ▸ formatEq) hound chunk known
          rw [AudioWriter.write_of_lt format succeedsHead signed rfl chunkNewer] at handled
          have rest : (run handle (handler.put chunk.id
                (start.openWriter chunk.id opening chunk.seq)) (arrivals.map toMessage)).2 =
              (accepted arrivals).map (appendChunk (start.wavPath chunk.id)) ++
                arrivals.flatMap (start.announcement chunk.id opening) :=
            ih succeedsTail ownTail ordered.2 (fun other member => ordered.1 _ member) specEq
              (AList.lookup_insert _)
          have counted : chunk.seq ≠ 0 := by
            intro zero
            rw [zero] at chunkNewer
            exact UInt32.not_lt_zero chunkNewer
          rw [List.map_cons, run_cons, toMessage, handled, accepted_cons_of_ne hound arrivals counted]
          exact congrArg (appendChunk (start.wavPath chunk.id) chunk :: ·) rest
      | wavEnd other =>
          cases ownHead
          have last : arrivals = [] := by
            rw [List.eq_nil_iff_forall_not_mem]
            exact fun later member => ordered.1 _ (List.mem_map_of_mem member)
          subst last
          have handled := handle_wavEnd_of_known (specEq ▸ formatEq) hound known
          rw [finalizeWriter_openWriter format succeedsHead] at handled
          rw [List.map_singleton, run_singleton, toMessage, handled, List.flatMap_singleton]
          rfl
      | _ => cases ownHead

/-- The end marker of an unknown recording does nothing. -/
theorem handle_wavEnd_of_unknown (formatEq : start.spec.sampleFormat = format) (hound : Hound)
    (unknown : start.writers.lookup id = none) :
    start.handle (.ofAudio hound (.wavEnd id : Audio format.Carrier)) = (start, []) := by
  subst formatEq
  rw [handle_eq]
  simp only [write, AudioBytes.ofAudio, Codec.deserialize_encode, unknown]

theorem run_of_unknown (formatEq : start.spec.sampleFormat = format) (signed : format ≠ .u16)
    (unknown : start.writers.lookup id = none)
    (arrivals : List (Hound × Audio format.Carrier))
    (succeeds : ∀ arrival ∈ arrivals, arrival.1.Succeeds)
    (own : ∀ arrival ∈ arrivals, arrival.2.datagram.id = some id)
    (ordered : (arrivals.map Prod.snd).Pairwise InOrder) :
    (run handle start (arrivals.map toMessage)).2 = start.recordingLog id arrivals := by
  cases arrivals with
  | nil => rfl
  | cons arrival arrivals =>
      rcases arrival with ⟨hound, audio⟩
      rcases List.forall_mem_cons.mp succeeds with ⟨succeedsHead, succeedsTail⟩
      rcases List.forall_mem_cons.mp own with ⟨ownHead, ownTail⟩
      rw [List.map_cons, List.pairwise_cons] at ordered
      cases audio with
      | wavChunk chunk =>
          cases ownHead
          have later : ∀ other, .wavChunk other ∈ arrivals.map Prod.snd → chunk.seq < other.seq :=
            fun other member => ordered.1 _ member
          have handled := handle_chunk_of_unknown formatEq hound chunk unknown
            succeedsHead.create_eq
          have rest : (run handle (start.put chunk.id
                (start.openWriter chunk.id hound chunk.seq)) (arrivals.map toMessage)).2 =
              (accepted arrivals).map (appendChunk (start.wavPath chunk.id)) ++
                arrivals.flatMap (start.announcement chunk.id hound) :=
            run_of_known formatEq signed arrivals succeedsTail ownTail ordered.2 later rfl
              (AList.lookup_insert _)
          rw [List.map_cons, run_cons, toMessage, handled]
          by_cases first : chunk.seq = 0
          · have dropped : ¬ (start.freshWriter hound chunk.id).seq < chunk.seq := by
              rw [first]
              exact UInt32.not_lt_zero
            rw [AudioWriter.write_of_not_lt format rfl dropped]
            have same : start.openWriter chunk.id hound chunk.seq =
                start.freshWriter hound chunk.id := by
              rw [first]
              rfl
            rw [same] at rest
            rw [recordingLog, accepted_cons_of_eq hound arrivals first]
            exact congrArg (.create (start.wavPath chunk.id) start.spec.toWavSpec :: ·) rest
          · have newer : (start.freshWriter hound chunk.id).seq < chunk.seq :=
              UInt32.pos_iff_ne_zero.mpr first
            rw [AudioWriter.write_of_lt format succeedsHead signed rfl newer, recordingLog,
              accepted_cons_of_ne hound arrivals first]
            exact congrArg (.create (start.wavPath chunk.id) start.spec.toWavSpec ::
              appendChunk (start.wavPath chunk.id) chunk :: ·) rest
      | wavEnd other =>
          cases ownHead
          have last : arrivals = [] := by
            rw [List.eq_nil_iff_forall_not_mem]
            exact fun later member => ordered.1 _ (List.mem_map_of_mem member)
          subst last
          rw [List.map_singleton, run_singleton, toMessage,
            handle_wavEnd_of_unknown formatEq hound unknown]
          rfl
      | _ => cases ownHead

end Known

/-- The messages among those that arrived that name the identifier. -/
def arrivalsOf (id : Uuid) (arrivals : List (Hound × Audio format.Carrier)) :
    List (Hound × Audio format.Carrier) :=
  arrivals.filter fun arrival => arrival.2.datagram.id = some id

/-- Whatever arrives for other identifiers in between, the messages of one
identifier that arrive in order have the effects of their recording. -/
theorem filter_concerns_eq_recordingLog (wavDirectory : PathBuf) {spec : Spec} (deviceId : Uuid)
    (formatEq : spec.sampleFormat = format) (signed : format ≠ .u16)
    {arrivals : List (Hound × Audio format.Carrier)}
    (succeeds : ∀ arrival ∈ arrivals, arrival.1.Succeeds) {id : Uuid}
    (ordered : ((arrivalsOf id arrivals).map Prod.snd).Pairwise InOrder) :
    (run handle (new wavDirectory spec deviceId) (arrivals.map toMessage)).2.filter
        (Effect.concerns ((new wavDirectory spec deviceId).wavPath id) id) =
      (new wavDirectory spec deviceId).recordingLog id (arrivalsOf id arrivals) := by
  subst formatEq
  have named : (arrivals.map toMessage).filter (names spec.sampleFormat id) =
      (arrivalsOf id arrivals).map toMessage := by
    rw [List.filter_map, arrivalsOf]
    apply congrArg (List.map toMessage)
    apply List.filter_congr
    intro arrival member
    rw [Function.comp_apply, names, toMessage, datagram_ofAudio]
  rw [(alike_run wavDirectory spec deviceId (arrivals.map toMessage) id).2, named]
  apply run_of_unknown rfl signed (AList.lookup_empty _) _ _ _ ordered
  · exact fun arrival member => succeeds arrival (List.mem_of_mem_filter member)
  · exact fun arrival member => of_decide_eq_true (List.mem_filter.mp member).2

end AudioHandler

/-! ## Contents of the files -/

namespace FileSystem

theorem apply_congr {files others : FileSystem} {path : PathBuf} (same : files path = others path)
    (effect : Effect) : files.apply effect path = others.apply effect path := by
  cases effect with
  | create other spec =>
      by_cases here : path = other
      · subst here
        simp [apply]
      · simp [apply, here, same]
  | append other seq samples =>
      by_cases here : path = other
      · subst here
        simp [apply, same]
      · simp [apply, here, same]
  | finalize other => exact same
  | send event => exact same

/-- The contents of a file are a matter of the effects that concern it. -/
theorem applyAll_filter_concerns (path : PathBuf) (id : Uuid) (effects : List Effect)
    {files others : FileSystem} (same : files path = others path) :
    files.applyAll effects path =
      others.applyAll (effects.filter (Effect.concerns path id)) path := by
  induction effects generalizing files others with
  | nil => exact same
  | cons effect effects ih =>
      cases concerned : effect.concerns path id with
      | true =>
          rw [List.filter_cons_of_pos concerned, applyAll_cons, applyAll_cons]
          exact ih (apply_congr same effect)
      | false =>
          have elsewhere : effect.file ≠ some path := by
            intro isFile
            have concerns : effect.concerns path id = true :=
              Effect.concerns_eq_true_iff.mpr (Or.inl isFile)
            rw [concerned] at concerns
            cases concerns
          rw [List.filter_cons_of_neg (by simp [concerned]), applyAll_cons]
          apply ih
          have single := applyAll_of_file_ne (List.forall_mem_singleton.mpr elsewhere) files
          exact single.trans same

end FileSystem

namespace AudioHandler

variable {format : SampleFormat}

/-- An announcement leaves every file as it is. -/
theorem applyAll_announcements (start : AudioHandler) (id : Uuid) (opening : Hound)
    (arrivals : List (Hound × Audio format.Carrier)) (files : FileSystem) :
    files.applyAll (arrivals.flatMap (start.announcement id opening)) = files := by
  induction arrivals with
  | nil => rfl
  | cons arrival arrivals ih =>
      rcases arrival with ⟨hound, audio⟩
      rw [List.flatMap_cons, FileSystem.applyAll_append]
      cases audio <;> exact ih

theorem applyAll_recordingLog (start : AudioHandler) (id : Uuid) (opening : Hound)
    (chunk : WavChunk format.Carrier) (arrivals : List (Hound × Audio format.Carrier))
    (files : FileSystem) :
    files.applyAll (start.recordingLog id ((opening, .wavChunk chunk) :: arrivals))
        (start.wavPath id) =
      some ((accepted ((opening, .wavChunk chunk) :: arrivals)).flatMap chunkSamples) := by
  have created : files.apply (.create (start.wavPath id) start.spec.toWavSpec)
      (start.wavPath id) = some [] := by
    simp [FileSystem.apply]
  rw [recordingLog, FileSystem.applyAll_append, applyAll_announcements, FileSystem.applyAll_cons,
    applyAll_appendChunk _ _ created, List.nil_append]

end AudioHandler

/-! ## The order of a client's messages -/

namespace AudioSink

open AudioHandler (InOrder)

variable {format : SampleFormat}

/-- Messages of one identifier come in order. -/
def Ordered (earlier later : Audio format.Carrier) : Prop :=
  ∀ id, earlier.datagram.id = some id → later.datagram.id = some id → InOrder earlier later

theorem Counted.named {id : Uuid} {chunks : List (WavChunk format.Carrier)}
    (counted : Counted id chunks) {audio : Audio format.Carrier}
    (member : audio ∈ chunks.map .wavChunk) : audio.datagram.id = some id := by
  rcases List.mem_map.mp member with ⟨chunk, inChunks, rfl⟩
  exact congrArg some (counted.id_eq inChunks)

theorem Counted.pairwise {id : Uuid} {chunks : List (WavChunk format.Carrier)}
    (counted : Counted id chunks) (few : chunks.length < 2 ^ 32) :
    (chunks.map Audio.wavChunk).Pairwise Ordered := by
  apply List.pairwise_map.mpr
  apply (counted.consecutive few).pairwise.imp
  intro earlier later increasing other first second
  exact increasing

theorem Counted.pairwise_messages {transmission : Transmission format.Carrier}
    (counted : Counted transmission.id transmission.chunks)
    (few : transmission.chunks.length < 2 ^ 32) : transmission.messages.Pairwise Ordered := by
  rw [Transmission.messages, List.pairwise_append]
  refine ⟨counted.pairwise few, List.pairwise_singleton _ _, ?_⟩
  intro earlier inChunks later isEnd id first second
  rcases List.mem_map.mp inChunks with ⟨chunk, -, rfl⟩
  rw [List.mem_singleton.mp isEnd]
  trivial

theorem Counted.named_messages {transmission : Transmission format.Carrier}
    (counted : Counted transmission.id transmission.chunks) {audio : Audio format.Carrier}
    (member : audio ∈ transmission.messages) : audio.datagram.id = some transmission.id := by
  rcases List.mem_append.mp member with inChunks | isEnd
  · exact counted.named inChunks
  · rw [List.mem_singleton.mp isEnd]
    rfl

/-- The messages of a sink come in order. -/
theorem Framed.pairwise {newV4 : Nat → Uuid} {sink : AudioSink format.Carrier}
    {sent : List (Audio format.Carrier)} {closed : List (Transmission format.Carrier)}
    {unfinished : List (WavChunk format.Carrier)}
    (framed : Framed newV4 sink sent closed unfinished)
    (fresh : ((List.range sink.drawn).map newV4).Nodup)
    (few : ∀ transmission ∈ transmissions sink closed unfinished,
      transmission.chunks.length < 2 ^ 32) : sent.Pairwise Ordered := by
  have last : (⟨sink.bufIdSeq.1, unfinished⟩ : Transmission format.Carrier) ∈
      transmissions sink closed unfinished := List.mem_append_right _ List.mem_cons_self
  have isClosed : ∀ transmission ∈ closed, transmission ∈ transmissions sink closed unfinished :=
    fun transmission member => List.mem_append_left _ member
  rw [← framed.ids_transmissions, transmissions, List.map_append, List.nodup_append] at fresh
  rw [framed.sent_eq, List.pairwise_append]
  refine ⟨?_, framed.unfinished_counted.pairwise (few _ last), ?_⟩
  · rw [List.pairwise_flatMap]
    constructor
    · intro transmission member
      exact (framed.counted (isClosed _ member)).pairwise_messages (few _ (isClosed _ member))
    · apply (List.pairwise_map.mp fresh.1).imp_of_mem
      intro first second isFirst isSecond different earlier inFirst later inSecond id one two
      have firstId := (framed.counted (isClosed _ isFirst)).named_messages inFirst
      have secondId := (framed.counted (isClosed _ isSecond)).named_messages inSecond
      cases one.symm.trans firstId
      exact absurd (Option.some.inj (two.symm.trans secondId)) different
  · intro earlier inClosed later inUnfinished id one two
    rcases List.mem_flatMap.mp inClosed with ⟨transmission, member, inside⟩
    have firstId := (framed.counted (isClosed _ member)).named_messages inside
    have secondId := framed.unfinished_counted.named inUnfinished
    cases one.symm.trans firstId
    exact absurd (Option.some.inj (two.symm.trans secondId))
      (fresh.2.2 _ (List.mem_map_of_mem member) _ List.mem_cons_self)

end AudioSink

namespace ClientRun

open AudioHandler (InOrder arrivalsOf)
open AudioSink (Ordered)

variable {client : ClientRun}

/-- The messages of a client come in order. -/
theorem pairwise_sent (fresh : client.drawnIds.Nodup)
    (few : ∀ id, (client.recording id).length < 2 ^ 32) : client.sent.Pairwise Ordered := by
  have split := (AudioCollector.run_react_eq client.newV4 client.belowThreshold
    (AudioCollector.create client.newV4 client.serverAddress client.openThreshold
      client.releaseSampleCount client.secret client.spec) client.inputs).2
  rcases AudioSink.framed_run client.newV4 client.secret client.spec client.calls with
    ⟨closed, unfinished, framed⟩
  have ordered := framed.pairwise fresh fun transmission member =>
    (AudioSink.Counted.length_le_recording framed member).trans_lt (few _)
  have filtered : (client.sent.filter fun audio => !AudioCollector.IsSpec audio).Pairwise
      Ordered := (congrArg (List.Pairwise Ordered) split).mpr ordered
  rw [List.pairwise_filter] at filtered
  apply filtered.imp
  intro earlier later inOrder id first second
  apply inOrder _ _ id first second
  · cases earlier <;> first | rfl | cases first
  · cases later <;> first | rfl | cases second

end ClientRun

end Bug
