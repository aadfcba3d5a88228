import Bug.Audio.Announcement

/-!
# The life of a writer

Every writer is created by the first chunk of an identifier without one and
finalised once, by the end marker of the identifier or when the handler stops.
Read off the effects of a whole run, the life of the writers of one identifier
is a sequence of settled lives, followed by an open one while the identifier has
a writer.
-/

namespace Bug

open Bug.Db
open Bug.Transition

/-- What happens to the writers of one identifier. -/
inductive Life where
  /-- `AudioWriter::new` returned a writer. -/
  | created
  /-- `WavWriter::finalize` was called, with the given outcome. -/
  | finalized (succeeded : Bool)
  /-- The recording was reported to the event processor. -/
  | sent (event : NewEvent)
  deriving DecidableEq

/-- What an effect means for the writers of an identifier whose file is at the
given path. -/
def Effect.life (hound : Hound) (path : PathBuf) (id : Uuid) : Effect → Option Life
  | create other _ => if other = path ∧ hound.create = .created then some .created else none
  | append _ _ _ => none
  | finalize other => if other = path then some (.finalized (hound.finalize id)) else none
  | send event =>
      if event.payload = .sound (AudioWriter.wavFile id) then some (.sent event) else none

/-- The event that reports a recording of the given device. -/
def Reports (deviceId id : Uuid) (event : NewEvent) : Prop :=
  event.kind = .sound ∧ event.payload = .sound (AudioWriter.wavFile id) ∧
    event.deviceId = deviceId

/-- One life: a writer that was created, finalised once, and reported once if
that succeeded. -/
inductive Lived (deviceId id : Uuid) : List Life → Prop
  | reported {event : NewEvent} : Reports deviceId id event →
      Lived deviceId id [.created, .finalized true, .sent event]
  | unreported : Lived deviceId id [.created, .finalized false]

theorem Effect.life_eq_none {hound : Hound} {path : PathBuf} {id : Uuid} {effect : Effect}
    (elsewhere : effect.file ≠ some path) (silent : ¬ effect.Announces id) :
    effect.life hound path id = none := by
  cases effect with
  | create other spec => exact if_neg fun both => elsewhere (congrArg some both.1)
  | append other seq samples => rfl
  | finalize other => exact if_neg fun same => elsewhere (congrArg some same)
  | send event => exact if_neg silent

namespace AudioHandler

/-- The handler, observed for the writers of one identifier. -/
def lives (id : Uuid) : Reaction AudioHandler AudioBytes Life
  | handler, message =>
      ((handler.handle message).1,
        (handler.handle message).2.filterMap (Effect.life message.hound (handler.wavPath id) id))

/-- Observing a run does not change it. -/
theorem run_lives_fst (id : Uuid) (handler : AudioHandler) (messages : List AudioBytes) :
    (run (lives id) handler messages).1 = (run handle handler messages).1 := by
  induction messages generalizing handler with
  | nil => rfl
  | cons message messages ih =>
      rw [run_cons, run_cons]
      exact ih (handler.handle message).1

/-! ## Finalised writers -/

/-- The writer that a handler begun as `start` keeps under an identifier. -/
structure Holds (start : AudioHandler) (id : Uuid) (writer : AudioWriter) : Prop where
  id_eq : writer.id = id
  inner_eq : writer.inner = some ⟨start.wavPath id, start.spec.toWavSpec⟩
  deviceId_eq : writer.deviceId = start.deviceId

section Finalize

variable {start : AudioHandler} {id other : Uuid} {writer : AudioWriter}

/-- A finalised writer is reported if `finalize` succeeds, and only then. -/
theorem Holds.finalizeWriter_eq (holds : Holds start id writer) (hound : Hound) :
    ∃ event, Reports start.deviceId id event ∧
      (finalizeWriter hound writer).1 =
        .finalize (start.wavPath id) :: if hound.finalize id then [.send event] else [] := by
  refine ⟨⟨.sound, .sound (AudioWriter.wavFile id), writer.startedAt, hound.now id,
    start.deviceId⟩, ⟨rfl, rfl, rfl⟩, ?_⟩
  cases finalizes : hound.finalize id <;>
    simp [finalizeWriter, AudioWriter.finalizeAsNewEvent, holds.id_eq, holds.inner_eq,
      holds.deviceId_eq, finalizes]

/-- Finalising the writer of an identifier settles its life. -/
theorem Holds.lived (holds : Holds start id writer) (hound : Hound) :
    Lived start.deviceId id (.created ::
      (finalizeWriter hound writer).1.filterMap (Effect.life hound (start.wavPath id) id)) := by
  rcases holds.finalizeWriter_eq hound with ⟨event, reports, effectsEq⟩
  rw [effectsEq]
  cases finalizes : hound.finalize id with
  | true => simpa [Effect.life, finalizes, reports.2.1] using Lived.reported reports
  | false => simpa [Effect.life, finalizes] using Lived.unreported

/-- Finalising the writer of another identifier does not matter. -/
theorem Holds.life_eq_nil (holds : Holds start other writer) (different : other ≠ id)
    (hound : Hound) :
    (finalizeWriter hound writer).1.filterMap (Effect.life hound (start.wavPath id) id) = [] := by
  rcases holds.finalizeWriter_eq hound with ⟨event, reports, effectsEq⟩
  have otherPath : start.wavPath other ≠ start.wavPath id :=
    fun same => different (start.wavPath_injective same)
  have otherFile : AudioWriter.wavFile other ≠ AudioWriter.wavFile id :=
    fun same => different (AudioWriter.wavFile_injective same)
  rw [effectsEq]
  cases hound.finalize other <;> simp [Effect.life, otherPath, otherFile, reports.2.1]

end Finalize

/-! ## Writers of one device -/

/-- The writers of a handler that began as `start`: each holds the file of its
identifier and reports the device of the handler. -/
structure Owned (start handler : AudioHandler) : Prop where
  kept : Kept start handler
  deviceId_eq : handler.deviceId = start.deviceId
  writer_deviceId : ∀ id writer, handler.writers.lookup id = some writer →
    writer.deviceId = start.deviceId

theorem owned_new (wavDirectory : PathBuf) (spec : Spec) (deviceId : Uuid) :
    Owned (new wavDirectory spec deviceId) (new wavDirectory spec deviceId) where
  kept := kept_new wavDirectory spec deviceId
  deviceId_eq := rfl
  writer_deviceId := Table.forall_empty _

section OwnedStep

variable {hound : Hound} {start handler after : AudioHandler} {datagram : Datagram}
  {effects : List Effect} {id : Uuid} {writer : AudioWriter}

theorem Owned.holds (owned : Owned start handler)
    (known : handler.writers.lookup id = some writer) : Holds start id writer where
  id_eq := (owned.kept.writer_eq id writer known).1
  inner_eq := (owned.kept.writer_eq id writer known).2
  deviceId_eq := owned.writer_deviceId id writer known

theorem Opened.deviceId_eq (owned : Owned start handler)
    (opened : Opened hound handler id writer effects) : writer.deviceId = start.deviceId := by
  cases opened with
  | existing known => exact owned.writer_deviceId id writer known
  | created unknown creates => exact owned.deviceId_eq

theorem Written.deviceId_eq {format : SampleFormat} {seq : UInt32} {next : AudioWriter}
    (written : Written hound format seq writer next effects) :
    next.deviceId = writer.deviceId := by
  cases written <;> rfl

theorem Owned.step (owned : Owned start handler)
    (step : HandlerStep hound handler datagram after effects) : Owned start after := by
  have kept := owned.kept.step step
  cases step with
  | ignored => exact owned
  | refused => exact owned
  | @chunk other seq writer next opening writing opened written =>
      have nextEq : next.deviceId = start.deviceId :=
        written.deviceId_eq.trans (opened.deviceId_eq owned)
      exact ⟨kept, owned.deviceId_eq, Table.forall_insert owned.writer_deviceId nextEq⟩
  | @ended other writer effects known finalized =>
      exact ⟨kept, owned.deviceId_eq, Table.forall_erase owned.writer_deviceId other⟩

end OwnedStep

theorem owned_run (wavDirectory : PathBuf) (spec : Spec) (deviceId : Uuid)
    (messages : List AudioBytes) :
    Owned (new wavDirectory spec deviceId)
      (run handle (new wavDirectory spec deviceId) messages).1 :=
  run_invariant handle (new wavDirectory spec deviceId)
    (fun handler _ _ => Owned (new wavDirectory spec deviceId) handler)
    (owned_new wavDirectory spec deviceId)
    (fun handler _ _ message owned => owned.step (handlerStep_handle handler message))
    messages

/-! ## Lives over a run -/

/-- The lives of an identifier so far: settled ones, and one that is not while
there is a writer. -/
def Accounted (deviceId id : Uuid) (handler : AudioHandler) (lives : List Life) : Prop :=
  ∃ settled : List (List Life), (∀ life ∈ settled, Lived deviceId id life) ∧
    lives = settled.flatten ++ if id ∈ handler.writers then [.created] else []

/-- The end marker of an open recording finalises its writer. -/
theorem handle_of_wavEnd {handler : AudioHandler} {message : AudioBytes} {id : Uuid}
    {writer : AudioWriter}
    (isEnd : datagram handler.spec.sampleFormat message = .wavEnd id)
    (known : handler.writers.lookup id = some writer) :
    handler.handle message = (handler.remove id, (finalizeWriter message.hound writer).1) := by
  rw [datagram] at isEnd
  split at isEnd
  · rename_i audio decoded
    cases audio with
    | wavEnd other =>
        cases isEnd
        rw [handle_eq]
        simp only [write, decoded, known]
    | handshake => cases isEnd
    | spec secret format => cases isEnd
    | wavChunk chunk => cases isEnd
  · cases isEnd

section AccountedStep

variable {hound : Hound} {start handler after : AudioHandler} {effects : List Effect}
  {log : List Life} {id : Uuid} {seq : UInt32} {writer next : AudioWriter}

/-- Writing a chunk neither creates nor finalises anything. -/
theorem Written.life_eq_nil {format : SampleFormat}
    (written : Written hound format seq writer next effects) (path : PathBuf) (id : Uuid) :
    effects.filterMap (Effect.life hound path id) = [] := by
  cases written <;> rfl

theorem Accounted.append_nil {deviceId : Uuid} (accounted : Accounted deviceId id handler log)
    (membership : id ∈ after.writers ↔ id ∈ handler.writers) :
    Accounted deviceId id after (log ++ []) := by
  rcases accounted with ⟨settled, lived, logEq⟩
  refine ⟨settled, lived, ?_⟩
  rw [List.append_nil, logEq]
  simp only [membership]

/-- A chunk begins a life exactly when its identifier has none going on. -/
theorem Accounted.chunk (owned : Owned start handler)
    (accounted : Accounted start.deviceId id handler log)
    (step : HandlerStep hound handler (.chunk id seq) after effects) :
    Accounted start.deviceId id after
      (log ++ effects.filterMap (Effect.life hound (start.wavPath id) id)) := by
  cases step with
  | ignored noChunk => exact absurd rfl (noChunk id seq)
  | refused unknown failed creates =>
      have nothing : effects.filterMap (Effect.life hound (start.wavPath id) id) = [] := by
        rw [List.filterMap_eq_nil_iff]
        intro effect member
        rw [creates effect member]
        exact if_neg fun both => failed both.2
      rw [nothing]
      exact accounted.append_nil Iff.rfl
  | @chunk _ _ opener after opening writing opened written =>
      rw [List.filterMap_append, written.life_eq_nil, List.append_nil]
      have member : id ∈ (handler.put id after).writers := (AList.mem_insert _).mpr (Or.inl rfl)
      cases opened with
      | existing known =>
          have already : id ∈ handler.writers := Table.mem_of_lookup known
          exact accounted.append_nil (iff_of_true member already)
      | created unknown creates =>
          have fresh : id ∉ handler.writers := AList.lookup_eq_none.mp unknown
          rcases accounted with ⟨settled, lived, logEq⟩
          refine ⟨settled, lived, ?_⟩
          rw [logEq, if_neg fresh, if_pos member, List.append_nil]
          congr 1
          simp [Effect.life, owned.kept.wavPath_eq, creates]

/-- Finalising the writer of an identifier settles the life that was going on. -/
theorem Accounted.finalized (owned : Owned start handler)
    (accounted : Accounted start.deviceId id handler log)
    (known : handler.writers.lookup id = some writer) (hound : Hound) :
    ∃ settled : List (List Life), (∀ life ∈ settled, Lived start.deviceId id life) ∧
      log ++ (finalizeWriter hound writer).1.filterMap (Effect.life hound (start.wavPath id) id) =
        settled.flatten := by
  have already : id ∈ handler.writers := Table.mem_of_lookup known
  rcases accounted with ⟨settled, lived, logEq⟩
  rw [if_pos already] at logEq
  refine ⟨settled ++ [.created ::
    (finalizeWriter hound writer).1.filterMap (Effect.life hound (start.wavPath id) id)], ?_, ?_⟩
  · exact List.forall_mem_append.mpr
      ⟨lived, List.forall_mem_singleton.mpr ((owned.holds known).lived hound)⟩
  · rw [logEq, List.flatten_append, List.flatten_singleton, List.append_assoc]
    rfl

/-- A datagram of another identifier does not matter. -/
theorem HandlerStep.life_eq_nil {datagram : Datagram} (kept : Kept start handler)
    (step : HandlerStep hound handler datagram after effects)
    (elsewhere : datagram.id ≠ some id) :
    effects.filterMap (Effect.life hound (start.wavPath id) id) = [] := by
  rw [List.filterMap_eq_nil_iff]
  intro effect member
  apply Effect.life_eq_none (step.file_ne kept elsewhere effect member)
  intro announces
  rw [(step.announces kept member announces).1] at elsewhere
  exact elsewhere rfl

theorem Accounted.step (owned : Owned start handler)
    (accounted : Accounted start.deviceId id handler log) (message : AudioBytes) :
    Accounted start.deviceId id (handler.lives id message).1
      (log ++ (handler.lives id message).2) := by
  have step := handlerStep_handle handler message
  rw [lives, owned.kept.wavPath_eq]
  by_cases own : (datagram handler.spec.sampleFormat message).id = some id
  · cases kind : datagram handler.spec.sampleFormat message with
    | other =>
        rw [kind] at own
        cases own
    | chunk other seq =>
        rw [kind] at own step
        cases own
        exact accounted.chunk owned step
    | wavEnd other =>
        rw [kind] at own
        cases own
        cases known : handler.writers.lookup id with
        | some writer =>
            rw [handle_of_wavEnd kind known]
            rcases accounted.finalized owned known message.hound with ⟨settled, lived, logEq⟩
            have gone : id ∉ (handler.remove id).writers :=
              fun still => (AList.mem_erase.mp still).1 rfl
            refine ⟨settled, lived, ?_⟩
            rw [if_neg gone, List.append_nil, logEq]
        | none =>
            rw [kind] at step
            generalize handler.handle message = outcome at step ⊢
            rcases outcome with ⟨after, effects⟩
            cases step with
            | ignored => exact accounted.append_nil Iff.rfl
            | ended found finalized => cases known.symm.trans found
  · rw [step.life_eq_nil owned.kept own]
    apply accounted.append_nil
    rw [← AList.lookup_isSome, ← AList.lookup_isSome, step.lookup_eq own]

end AccountedStep

theorem accounted_run (wavDirectory : PathBuf) (spec : Spec) (deviceId : Uuid)
    (messages : List AudioBytes) (id : Uuid) :
    Accounted deviceId id (run handle (new wavDirectory spec deviceId) messages).1
      (run (lives id) (new wavDirectory spec deviceId) messages).2 := by
  have invariant := run_invariant (lives id) (new wavDirectory spec deviceId)
    (fun handler _ log => Owned (new wavDirectory spec deviceId) handler ∧
      Accounted deviceId id handler log)
    ⟨owned_new wavDirectory spec deviceId, [], List.forall_mem_nil _, rfl⟩
    (by
      rintro handler past log message ⟨owned, accounted⟩
      exact ⟨owned.step (handlerStep_handle handler message), accounted.step owned message⟩)
    messages
  rw [run_lives_fst] at invariant
  exact invariant.2

/-! ## Stopping -/

section Stopping

variable {start : AudioHandler} {drained : List (Σ _ : Uuid, AudioWriter)} {id : Uuid}

theorem life_finalizeAll_of_notMem (holds : ∀ entry ∈ drained, Holds start entry.1 entry.2)
    (absent : id ∉ drained.keys) (hound : Hound) :
    (finalizeAll hound drained).filterMap (Effect.life hound (start.wavPath id) id) = [] := by
  induction drained with
  | nil => rfl
  | cons entry rest ih =>
      rw [List.keys_cons, List.mem_cons, not_or] at absent
      rcases List.forall_mem_cons.mp holds with ⟨holdsEntry, holdsRest⟩
      rw [finalizeAll, List.flatMap_cons, List.filterMap_append,
        holdsEntry.life_eq_nil (Ne.symm absent.1)]
      exact ih holdsRest absent.2

/-- Whatever order the writers are drained in, that of an identifier is finalised
once. -/
theorem life_finalizeAll (holds : ∀ entry ∈ drained, Holds start entry.1 entry.2)
    (nodup : drained.NodupKeys) {writer : AudioWriter}
    (known : drained.dlookup id = some writer) (hound : Hound) :
    (finalizeAll hound drained).filterMap (Effect.life hound (start.wavPath id) id) =
      (finalizeWriter hound writer).1.filterMap
        (Effect.life hound (start.wavPath id) id) := by
  induction drained with
  | nil => cases known
  | cons entry rest ih =>
      rcases entry with ⟨other, found⟩
      rcases List.nodupKeys_cons.mp nodup with ⟨absent, nodupRest⟩
      rcases List.forall_mem_cons.mp holds with ⟨holdsEntry, holdsRest⟩
      rw [finalizeAll, List.flatMap_cons, List.filterMap_append, ← finalizeAll]
      by_cases same : id = other
      · subst same
        rw [List.dlookup_cons_eq] at known
        cases known
        rw [life_finalizeAll_of_notMem holdsRest absent, List.append_nil]
      · rw [List.dlookup_cons_ne _ _ same] at known
        rw [holdsEntry.life_eq_nil (Ne.symm same), List.nil_append]
        exact ih holdsRest nodupRest known

/-- Stopping settles every life that is still going on. -/
theorem Accounted.stopped {handler : AudioHandler} {log : List Life}
    (owned : Owned start handler) (accounted : Accounted start.deviceId id handler log)
    (order : drained.Perm handler.writers.entries) (hound : Hound) :
    ∃ settled : List (List Life), (∀ life ∈ settled, Lived start.deviceId id life) ∧
      log ++ (finalizeAll hound drained).filterMap (Effect.life hound (start.wavPath id) id) =
        settled.flatten := by
  have nodup : drained.NodupKeys :=
    (List.perm_nodupKeys order).mpr handler.writers.nodupKeys
  have lookupEq : drained.dlookup id = handler.writers.lookup id :=
    List.perm_dlookup id nodup order
  have holds : ∀ entry ∈ drained, Holds start entry.1 entry.2 :=
    fun entry member => owned.holds (AList.mem_lookup_iff.mpr (order.mem_iff.mp member))
  cases known : handler.writers.lookup id with
  | some writer =>
      rw [life_finalizeAll holds nodup (lookupEq.trans known)]
      exact accounted.finalized owned known hound
  | none =>
      rw [life_finalizeAll_of_notMem holds (List.dlookup_eq_none.mp (lookupEq.trans known)),
        List.append_nil]
      rcases accounted with ⟨settled, lived, logEq⟩
      rw [if_neg (AList.lookup_eq_none.mp known), List.append_nil] at logEq
      exact ⟨settled, lived, logEq⟩

end Stopping

/-! ## What finalises and what reports -/

section Reported

variable {hound : Hound} {start handler after : AudioHandler} {datagram : Datagram}
  {effects : List Effect} {effect : Effect} {id : Uuid}

theorem Holds.reports {writer : AudioWriter} (holds : Holds start id writer) {event : NewEvent}
    (member : .send event ∈ (finalizeWriter hound writer).1) :
    Reports start.deviceId id event := by
  rcases holds.finalizeWriter_eq hound with ⟨reported, reports, effectsEq⟩
  rw [effectsEq] at member
  split at member
  · simp only [List.mem_cons, reduceCtorEq, Effect.send.injEq, List.not_mem_nil, or_false,
      false_or] at member
    rw [member]
    exact reports
  · cases List.mem_singleton.mp member

/-- Every event that a datagram makes the handler send reports a recording of its
device. -/
theorem Owned.reports (owned : Owned start handler) {message : AudioBytes} {event : NewEvent}
    (member : .send event ∈ (handler.handle message).2) :
    ∃ id, Reports start.deviceId id event := by
  have step := handlerStep_handle handler message
  rcases step.of_settling member nofun nofun with ⟨id, writer, isEnd, known⟩
  rw [handle_of_wavEnd isEnd known] at member
  exact ⟨id, (owned.holds known).reports member⟩

/-- A datagram that finalises the writer of an identifier is its end marker. -/
theorem Owned.wavEnd_of_finalized (owned : Owned start handler) {message : AudioBytes}
    {succeeded : Bool} (member : .finalized succeeded ∈ (handler.lives id message).2) :
    AudioHandler.datagram handler.spec.sampleFormat message = .wavEnd id := by
  have step := handlerStep_handle handler message
  rcases List.mem_filterMap.mp member with ⟨effect, present, lifeEq⟩
  cases effect with
  | create path spec =>
      simp only [Effect.life] at lifeEq
      split at lifeEq <;> cases lifeEq
  | append path seq samples => cases lifeEq
  | send event =>
      simp only [Effect.life] at lifeEq
      split at lifeEq <;> cases lifeEq
  | finalize path =>
      simp only [Effect.life] at lifeEq
      split at lifeEq
      · rename_i pathEq
        rcases step.of_settling present nofun nofun with ⟨other, writer, isEnd, -⟩
        rcases step.file_eq owned.kept present rfl with ⟨named, namedId, namedPath⟩
        rw [isEnd] at namedId
        cases namedId
        rw [pathEq, owned.kept.wavPath_eq] at namedPath
        rw [isEnd, start.wavPath_injective namedPath]
      · cases lifeEq

end Reported

/-- A datagram that cannot be decoded, or whose writer cannot be created, changes
nothing. -/
theorem handle_of_failed {handler : AudioHandler} {message : AudioBytes}
    (failed : Audio.codec.deserialize (α := Audio handler.spec.sampleFormat.Carrier)
          message.buf = none ∨
      ∃ chunk, Audio.codec.deserialize (α := Audio handler.spec.sampleFormat.Carrier)
          message.buf = some (.wavChunk chunk) ∧
        chunk.id ∉ handler.writers ∧ message.hound.create ≠ .created) :
    (handler.handle message).1 = handler := by
  rw [handle_eq]
  rcases failed with undecoded | ⟨chunk, decoded, unknown, failed⟩
  · simp only [write, undecoded]
  · simp only [write, decoded, AList.lookup_eq_none.mpr unknown, AudioWriter.new]
    cases creates : message.hound.create with
    | created => exact absurd creates failed
    | refused => rfl
    | headerFailed => rfl

/-- Over every run and the stopping of the handler, for every identifier: the
writers live one after the other, each is finalised once, by its end marker or at
the end, and reported once if that succeeded; nothing else is reported; and a
datagram that fails leaves the writers alone. -/
theorem writers_settled (wavDirectory : PathBuf) (spec : Spec) (deviceId : Uuid)
    (messages : List AudioBytes) (handler : AudioHandler)
    (reached : (run handle (new wavDirectory spec deviceId) messages).1 = handler)
    (stop : Hound) (drained : List (Σ _ : Uuid, AudioWriter))
    (order : drained.Perm handler.writers.entries) :
    (∀ id, Accounted deviceId id handler
        (run (lives id) (new wavDirectory spec deviceId) messages).2) ∧
      (∀ id, ∃ settled : List (List Life), (∀ life ∈ settled, Lived deviceId id life) ∧
        (run (lives id) (new wavDirectory spec deviceId) messages).2 ++
            (finalizeAll stop drained).filterMap (Effect.life stop (handler.wavPath id) id) =
          settled.flatten) ∧
      (∀ event, .send event ∈
          (run handle (new wavDirectory spec deviceId) messages).2 ++ finalizeAll stop drained →
        ∃ id, Reports deviceId id event) ∧
      (∀ id message succeeded, .finalized succeeded ∈ (handler.lives id message).2 →
        datagram handler.spec.sampleFormat message = .wavEnd id) ∧
      ∀ message : AudioBytes,
        (Audio.codec.deserialize (α := Audio handler.spec.sampleFormat.Carrier)
              message.buf = none ∨
          ∃ chunk, Audio.codec.deserialize (α := Audio handler.spec.sampleFormat.Carrier)
              message.buf = some (.wavChunk chunk) ∧
            chunk.id ∉ handler.writers ∧ message.hound.create ≠ .created) →
        (handler.handle message).1.writers = handler.writers := by
  subst reached
  have owned := owned_run wavDirectory spec deviceId messages
  have accounted := accounted_run wavDirectory spec deviceId messages
  refine ⟨accounted, ?_, ?_, ?_, ?_⟩
  · intro id
    rw [owned.kept.wavPath_eq]
    exact (accounted id).stopped owned order stop
  · intro event member
    rcases List.mem_append.mp member with running | stopping
    · rcases (mem_run_iff _ _ _ _).mp running with ⟨before, message, -, sent⟩
      exact (owned_run wavDirectory spec deviceId before).reports sent
    · rcases List.mem_flatMap.mp stopping with ⟨entry, isDrained, sent⟩
      have known := AList.mem_lookup_iff.mpr (order.mem_iff.mp isDrained)
      exact ⟨entry.1, (owned.holds known).reports sent⟩
  · intro id message succeeded member
    exact owned.wavEnd_of_finalized member
  · intro message failed
    rw [handle_of_failed failed]

/-- A recording that is still open when the handler stops is finalised then. -/
theorem writers_settled_gap :
    ∃ settled : List (List Life), (∀ life ∈ settled, Lived (.ofNat 1) (.ofNat 7) life) ∧
      (run (lives (.ofNat 7)) (new ["wav"] ⟨1, 44100, 16, .i16⟩ (.ofNat 1))
            [.ofAudio (.working ⟨0, 0⟩) (.wavChunk gap)]).2 ++
          (finalizeAll (.working ⟨1, 0⟩)
              (run handle (new ["wav"] ⟨1, 44100, 16, .i16⟩ (.ofNat 1))
                [.ofAudio (.working ⟨0, 0⟩) (.wavChunk gap)]).1.writers.entries).filterMap
            (Effect.life (.working ⟨1, 0⟩)
              ((run handle (new ["wav"] ⟨1, 44100, 16, .i16⟩ (.ofNat 1))
                [.ofAudio (.working ⟨0, 0⟩) (.wavChunk gap)]).1.wavPath (.ofNat 7)) (.ofNat 7)) =
        settled.flatten :=
  (writers_settled ["wav"] ⟨1, 44100, 16, .i16⟩ (.ofNat 1)
    [.ofAudio (.working ⟨0, 0⟩) (.wavChunk gap)] _ rfl (.working ⟨1, 0⟩) _
    (List.Perm.refl _)).2.1 (.ofNat 7)

end AudioHandler

end Bug
