import Bug.Audio.Recording

/-!
# Announced recordings

A recording is announced when its writer is finalised.  The announcement is
final exactly as long as no chunk arrives after the end marker: the handler
forgets an identifier with its writer, so a late chunk creates the file again.
-/

namespace Bug

open Bug.Db
open Bug.Transition

namespace Effect

/-- The effect reports the recording of an identifier. -/
def Announces (id : Uuid) : Effect → Prop
  | send event => event.payload = .sound (AudioWriter.wavFile id)
  | _ => False

/-- The effect creates the file, or empties it when it is there already. -/
def Creates (path : PathBuf) : Effect → Prop
  | create other _ => other = path
  | _ => False

end Effect

/-- No recording is created again or reported again after it was reported. -/
def Sealed (wavPath : Uuid → PathBuf) (log : List Effect) : Prop :=
  log.Pairwise fun earlier later => ∀ id, earlier.Announces id →
    ¬ later.Creates (wavPath id) ∧ ¬ later.Announces id

/-- A chunk of the identifier arrives after an end marker that had a chunk of
the identifier before it. -/
def Revived (datagrams : List Datagram) (id : Uuid) : Prop :=
  ∃ first late, List.Sublist [.chunk id first, .wavEnd id, .chunk id late] datagrams

namespace AudioHandler

section AnnouncedStep

variable {hound : Hound} {start handler after : AudioHandler} {datagram : Datagram}
  {effects : List Effect} {effect : Effect} {id : Uuid} {seq : UInt32} {writer : AudioWriter}

/-- Only the end marker of an open recording does more than create and append. -/
theorem HandlerStep.of_settling (step : HandlerStep hound handler datagram after effects)
    (member : effect ∈ effects) (notCreate : ∀ path spec, effect ≠ .create path spec)
    (notAppend : ∀ path seq samples, effect ≠ .append path seq samples) :
    ∃ id writer, datagram = .wavEnd id ∧ handler.writers.lookup id = some writer := by
  cases step with
  | ignored => cases member
  | refused unknown failed creates => exact absurd (creates effect member) (notCreate _ _)
  | chunk opened written =>
      rcases List.mem_append.mp member with creating | writing
      · cases opened with
        | existing known => cases creating
        | created unknown creates =>
            exact absurd (List.mem_singleton.mp creating) (notCreate _ _)
      · cases written with
        | stale notNewer => cases writing
        | finalized innerNone => cases writing
        | whole innerSome newer => exact absurd (List.mem_singleton.mp writing) (notAppend _ _ _)
        | cut innerSome newer cause =>
            exact absurd (List.mem_singleton.mp writing) (notAppend _ _ _)
  | ended known finalized => exact ⟨_, _, rfl, known⟩

/-- A finalised writer announces no recording but its own. -/
theorem Finalized.announces (finalized : Finalized hound writer effects)
    (member : effect ∈ effects) (announces : effect.Announces id) : writer.id = id := by
  cases finalized with
  | sent innerSome named =>
      simp only [List.mem_cons, List.not_mem_nil, or_false] at member
      rcases member with rfl | rfl
      · cases announces
      · exact AudioWriter.wavFile_injective
          (Db.EventPayload.sound.inj (named.symm.trans announces))
  | failed innerSome fails =>
      rw [List.mem_singleton.mp member] at announces
      cases announces
  | finalized innerNone => cases member

theorem Finalized.not_creates (finalized : Finalized hound writer effects)
    (member : effect ∈ effects) (path : PathBuf) : ¬ effect.Creates path := by
  cases finalized with
  | sent innerSome named =>
      simp only [List.mem_cons, List.not_mem_nil, or_false] at member
      rcases member with rfl | rfl <;> exact fun created => created
  | failed innerSome fails =>
      rw [List.mem_singleton.mp member]
      exact fun created => created
  | finalized innerNone => cases member

theorem Finalized.sealed (finalized : Finalized hound writer effects)
    (wavPath : Uuid → PathBuf) : Sealed wavPath effects := by
  cases finalized <;> simp [Sealed, Effect.Announces]

/-- Only the end marker of an open recording announces it, and closes it. -/
theorem HandlerStep.announces (kept : Kept start handler)
    (step : HandlerStep hound handler datagram after effects) (member : effect ∈ effects)
    (announces : effect.Announces id) :
    datagram = .wavEnd id ∧ id ∈ handler.writers ∧ id ∉ after.writers := by
  have notCreate : ∀ path spec, effect ≠ .create path spec := by
    rintro path spec rfl
    cases announces
  have notAppend : ∀ path seq samples, effect ≠ .append path seq samples := by
    rintro path seq samples rfl
    cases announces
  rcases step.of_settling member notCreate notAppend with ⟨other, -, rfl, -⟩
  cases step with
  | ignored => cases member
  | ended known finalized =>
      have nameEq := (kept.writer_eq _ _ known).1
      have sameId : other = id := nameEq.symm.trans (finalized.announces member announces)
      subst sameId
      refine ⟨rfl, Table.mem_of_lookup known, ?_⟩
      exact fun still => (AList.mem_erase.mp still).1 rfl

/-- Only a chunk of an unknown identifier creates a file. -/
theorem HandlerStep.creates (kept : Kept start handler)
    (step : HandlerStep hound handler datagram after effects) (member : effect ∈ effects)
    (creates : effect.Creates (start.wavPath id)) : ∃ seq, datagram = .chunk id seq := by
  have isFile : effect.file = some (start.wavPath id) := by
    cases effect with
    | create path spec => exact congrArg some creates
    | append path seq samples => cases creates
    | finalize path => cases creates
    | send event => cases creates
  obtain ⟨other, otherId, pathEq⟩ := step.file_eq kept member isFile
  cases start.wavPath_injective pathEq
  cases step with
  | ignored => cases member
  | refused => exact ⟨_, congrArg (Datagram.chunk · _) (Option.some.inj otherId)⟩
  | chunk => exact ⟨_, congrArg (Datagram.chunk · _) (Option.some.inj otherId)⟩
  | ended known finalized => exact absurd creates (finalized.not_creates member _)

/-- One datagram announces at most once. -/
theorem HandlerStep.sealed (kept : Kept start handler)
    (step : HandlerStep hound handler datagram after effects) :
    Sealed start.wavPath effects := by
  by_cases ends : ∃ id, datagram = .wavEnd id
  · obtain ⟨id, rfl⟩ := ends
    cases step with
    | ignored => exact List.Pairwise.nil
    | ended known finalized => exact finalized.sealed _
  · apply List.pairwise_of_forall_mem_list
    intro earlier isEarlier later isLater id announces
    exact absurd ⟨id, (step.announces kept isEarlier announces).1⟩ ends

/-- A writer is opened by a chunk and stays until an end marker. -/
theorem HandlerStep.mem_writers (step : HandlerStep hound handler datagram after effects)
    (member : id ∈ after.writers) : id ∈ handler.writers ∨ ∃ seq, datagram = .chunk id seq := by
  cases step with
  | ignored => exact Or.inl member
  | refused => exact Or.inl member
  | chunk opened written =>
      rcases (AList.mem_insert _).mp member with rfl | known
      · exact Or.inr ⟨_, rfl⟩
      · exact Or.inl known
  | ended known finalized => exact Or.inl (AList.mem_erase.mp member).2

theorem HandlerStep.mem_writers_after (step : HandlerStep hound handler datagram after effects)
    (member : id ∈ handler.writers) : id ∈ after.writers ∨ datagram = .wavEnd id := by
  cases step with
  | ignored => exact Or.inl member
  | refused => exact Or.inl member
  | chunk opened written => exact Or.inl ((AList.mem_insert _).mpr (Or.inr member))
  | @ended other writer effects known finalized =>
      by_cases same : id = other
      · exact Or.inr (congrArg Datagram.wavEnd same.symm)
      · exact Or.inl (AList.mem_erase.mpr ⟨same, member⟩)

/-- When `hound` does its part, a chunk has its writer afterwards, and its file
is created if there was none. -/
theorem HandlerStep.of_chunk (kept : Kept start handler) (succeeds : hound.Succeeds)
    (step : HandlerStep hound handler (.chunk id seq) after effects) :
    id ∈ after.writers ∧
      (id ∉ handler.writers → ∃ effect ∈ effects, effect.Creates (start.wavPath id)) := by
  cases step with
  | ignored noChunk => exact absurd rfl (noChunk id seq)
  | refused unknown failed => exact absurd succeeds.create_eq failed
  | chunk opened written =>
      constructor
      · exact (AList.mem_insert _).mpr (Or.inl rfl)
      · intro unknown
        cases opened with
        | existing known => exact absurd (Table.mem_of_lookup known) unknown
        | created => exact ⟨_, List.mem_cons_self, kept.wavPath_eq id⟩

/-- When `hound` does its part, the end marker of an open recording announces
it. -/
theorem HandlerStep.of_wavEnd (kept : Kept start handler) (succeeds : hound.Succeeds)
    (member : id ∈ handler.writers)
    (step : HandlerStep hound handler (.wavEnd id) after effects) :
    ∃ effect ∈ effects, effect.Announces id := by
  cases step with
  | ignored noChunk noWriter =>
      exact absurd member (AList.lookup_eq_none.mp (noWriter id rfl))
  | ended known finalized =>
      obtain ⟨nameEq, innerEq⟩ := kept.writer_eq _ _ known
      cases finalized with
      | sent innerSome named =>
          refine ⟨_, List.mem_cons_of_mem _ List.mem_cons_self, ?_⟩
          rw [← nameEq]
          exact named
      | failed innerSome fails => exact absurd succeeds fails
      | finalized innerNone => cases innerNone.symm.trans innerEq

end AnnouncedStep

/-! ## Quiet runs -/

/-- The recording of the identifier has been reported. -/
def Announced (id : Uuid) (log : List Effect) : Prop :=
  ∃ effect ∈ log, effect.Announces id

section Run

variable {hound : Hound} {start handler after : AudioHandler} {datagram : Datagram}
  {datagrams : List Datagram} {log effects : List Effect} {id : Uuid}

private theorem concat_sublist_concat {α : Type} (inner : List α) {outer : List α} {last final : α}
    (sublist : List.Sublist (inner ++ [last]) (outer ++ [final])) :
    List.Sublist (inner ++ [last]) outer ∨ last = final ∧ List.Sublist inner outer := by
  have reversed := sublist.reverse
  rw [List.reverse_concat, List.reverse_concat, List.cons_sublist_cons'] at reversed
  rcases reversed with earlier | ⟨same, earlier⟩
  · exact Or.inl (List.reverse_sublist.mp (by rwa [List.reverse_concat]))
  · exact Or.inr ⟨same, List.reverse_sublist.mp earlier⟩

/-- What the datagrams so far say about the writers and the announcements. -/
structure Quiet (start handler : AudioHandler) (datagrams : List Datagram)
    (log : List Effect) : Prop where
  opened : ∀ id ∈ handler.writers, ∃ seq, .chunk id seq ∈ datagrams
  announced : ∀ id, Announced id log →
    ∃ seq, List.Sublist [.chunk id seq, .wavEnd id] datagrams
  closed : (∀ id, ¬ Revived datagrams id) → ∀ id, Announced id log → id ∉ handler.writers
  isSealed : (∀ id, ¬ Revived datagrams id) → Sealed start.wavPath log

theorem Quiet.revived (quiet : Quiet start handler datagrams log) (announced : Announced id log)
    (late : UInt32) : Revived (datagrams ++ [.chunk id late]) id := by
  obtain ⟨first, ended⟩ := quiet.announced id announced
  exact ⟨first, late, ended.append (List.Sublist.refl [Datagram.chunk id late])⟩

theorem Quiet.step (quiet : Quiet start handler datagrams log) (kept : Kept start handler)
    (step : HandlerStep hound handler datagram after effects) :
    Quiet start after (datagrams ++ [datagram]) (log ++ effects) := by
  have calmBefore : (∀ id, ¬ Revived (datagrams ++ [datagram]) id) →
      ∀ id, ¬ Revived datagrams id := by
    rintro calm id ⟨first, late, sublist⟩
    exact calm id ⟨first, late, sublist.trans (List.sublist_append_left _ _)⟩
  constructor
  · intro id member
    rcases step.mem_writers member with known | ⟨seq, rfl⟩
    · obtain ⟨seq, seen⟩ := quiet.opened id known
      exact ⟨seq, List.mem_append_left _ seen⟩
    · exact ⟨seq, List.mem_append_right _ List.mem_cons_self⟩
  · rintro id ⟨effect, member, announces⟩
    rcases List.mem_append.mp member with early | late
    · obtain ⟨seq, seen⟩ := quiet.announced id ⟨effect, early, announces⟩
      exact ⟨seq, seen.trans (List.sublist_append_left _ _)⟩
    · obtain ⟨rfl, known, -⟩ := step.announces kept late announces
      obtain ⟨seq, seen⟩ := quiet.opened id known
      exact ⟨seq, (List.singleton_sublist.mpr seen).append
        (List.Sublist.refl [Datagram.wavEnd id])⟩
  · rintro calm id ⟨effect, member, announces⟩ still
    rcases List.mem_append.mp member with early | late
    · rcases step.mem_writers still with known | ⟨seq, rfl⟩
      · exact quiet.closed (calmBefore calm) id ⟨effect, early, announces⟩ known
      · exact calm id (quiet.revived ⟨effect, early, announces⟩ seq)
    · exact (step.announces kept late announces).2.2 still
  · intro calm
    refine List.pairwise_append.mpr ⟨quiet.isSealed (calmBefore calm), step.sealed kept, ?_⟩
    intro earlier isEarlier later isLater id announces
    constructor
    · intro creates
      obtain ⟨seq, rfl⟩ := step.creates kept isLater creates
      exact calm id (quiet.revived ⟨earlier, isEarlier, announces⟩ seq)
    · intro again
      exact quiet.closed (calmBefore calm) id ⟨earlier, isEarlier, announces⟩
        (step.announces kept isLater again).2.1

/-- What a sealed log says about the datagrams so far when `hound` does its
part. -/
structure Settled (start handler : AudioHandler) (datagrams : List Datagram)
    (log : List Effect) (id : Uuid) : Prop where
  opened : ∀ seq, .chunk id seq ∈ datagrams → id ∈ handler.writers ∨ Announced id log
  announced : ∀ seq, List.Sublist [.chunk id seq, .wavEnd id] datagrams → Announced id log
  closed : Sealed start.wavPath log → Announced id log → id ∉ handler.writers
  calm : Sealed start.wavPath log → ¬ Revived datagrams id

/-- A chunk of an announced recording breaks the seal. -/
theorem Settled.not_sealed (settled : Settled start handler datagrams log id)
    (kept : Kept start handler) (succeeds : hound.Succeeds) {seq : UInt32}
    (step : HandlerStep hound handler (.chunk id seq) after effects)
    (announced : Announced id log) : ¬ Sealed start.wavPath (log ++ effects) := by
  intro sealed
  obtain ⟨sealedBefore, -, across⟩ := List.pairwise_append.mp sealed
  obtain ⟨effect, member, creates⟩ :=
    (step.of_chunk kept succeeds).2 (settled.closed sealedBefore announced)
  obtain ⟨earlier, isEarlier, announces⟩ := announced
  exact (across earlier isEarlier effect member id announces).1 creates

theorem Settled.step (settled : Settled start handler datagrams log id)
    (kept : Kept start handler) (succeeds : hound.Succeeds)
    (step : HandlerStep hound handler datagram after effects) :
    Settled start after (datagrams ++ [datagram]) (log ++ effects) id := by
  have announcedAfter : Announced id log → Announced id (log ++ effects) := by
    rintro ⟨effect, member, announces⟩
    exact ⟨effect, List.mem_append_left _ member, announces⟩
  have announcedNow : id ∈ handler.writers → datagram = .wavEnd id →
      Announced id (log ++ effects) := by
    rintro known rfl
    obtain ⟨effect, member, announces⟩ := step.of_wavEnd kept succeeds known
    exact ⟨effect, List.mem_append_right _ member, announces⟩
  constructor
  · intro seq member
    rcases List.mem_append.mp member with early | last
    · rcases settled.opened seq early with known | announced
      · rcases step.mem_writers_after known with still | ends
        · exact Or.inl still
        · exact Or.inr (announcedNow known ends)
      · exact Or.inr (announcedAfter announced)
    · cases List.mem_singleton.mp last
      exact Or.inl (step.of_chunk kept succeeds).1
  · intro seq sublist
    rcases concat_sublist_concat [Datagram.chunk id seq] sublist with early | ⟨ends, opened⟩
    · exact announcedAfter (settled.announced seq early)
    · rcases settled.opened seq (List.singleton_sublist.mp opened) with known | announced
      · exact announcedNow known ends.symm
      · exact announcedAfter announced
  · rintro sealed ⟨effect, member, announces⟩ still
    rcases List.mem_append.mp member with early | late
    · have announced : Announced id log := ⟨effect, early, announces⟩
      rcases step.mem_writers still with known | ⟨seq, rfl⟩
      · exact settled.closed (List.pairwise_append.mp sealed).1 announced known
      · exact settled.not_sealed kept succeeds step announced sealed
    · exact (step.announces kept late announces).2.2 still
  · rintro sealed ⟨first, late, sublist⟩
    rcases concat_sublist_concat [Datagram.chunk id first, .wavEnd id] sublist with
      early | ⟨rfl, ended⟩
    · exact settled.calm (List.pairwise_append.mp sealed).1 ⟨first, late, early⟩
    · exact settled.not_sealed kept succeeds step (settled.announced first ended) sealed

end Run

/-! ## Whole lives -/

theorem quiet_run (wavDirectory : PathBuf) (spec : Spec) (deviceId : Uuid)
    (messages : List AudioBytes) :
    Quiet (new wavDirectory spec deviceId)
      (run handle (new wavDirectory spec deviceId) messages).1
      (messages.map (datagram spec.sampleFormat))
      (run handle (new wavDirectory spec deviceId) messages).2 := by
  have invariant := run_invariant handle (new wavDirectory spec deviceId)
    (fun handler inputs log => Kept (new wavDirectory spec deviceId) handler ∧
      Quiet (new wavDirectory spec deviceId) handler (inputs.map (datagram spec.sampleFormat)) log)
    ⟨kept_new wavDirectory spec deviceId, nofun, nofun, nofun, fun _ => List.Pairwise.nil⟩
    (by
      rintro handler inputs log message ⟨kept, quiet⟩
      have step := handlerStep_handle handler message
      rw [kept.spec_eq] at step
      rw [List.map_append]
      exact ⟨kept.step step, quiet.step kept step⟩)
    messages
  exact invariant.2

theorem settled_run (wavDirectory : PathBuf) (spec : Spec) (deviceId : Uuid)
    (messages : List AudioBytes) (succeeds : ∀ message ∈ messages, message.hound.Succeeds)
    (id : Uuid) :
    Settled (new wavDirectory spec deviceId)
      (run handle (new wavDirectory spec deviceId) messages).1
      (messages.map (datagram spec.sampleFormat))
      (run handle (new wavDirectory spec deviceId) messages).2 id := by
  have invariant := run_invariant handle (new wavDirectory spec deviceId)
    (fun handler inputs log => Kept (new wavDirectory spec deviceId) handler ∧
      ((∀ message ∈ inputs, message.hound.Succeeds) →
        Settled (new wavDirectory spec deviceId) handler
          (inputs.map (datagram spec.sampleFormat)) log id))
    ⟨kept_new wavDirectory spec deviceId,
      fun _ => ⟨nofun, nofun, nofun, fun _ ⟨_, _, sublist⟩ => nomatch sublist⟩⟩
    (by
      rintro handler inputs log message ⟨kept, settled⟩
      have step := handlerStep_handle handler message
      rw [kept.spec_eq] at step
      refine ⟨kept.step step, ?_⟩
      intro succeeds
      obtain ⟨earlier, last⟩ := List.forall_mem_append.mp succeeds
      rw [List.map_append]
      exact (settled earlier).step kept (last message List.mem_cons_self) step)
    messages
  exact invariant.2 succeeds

section Stop

variable {start handler : AudioHandler} {drained : List (Σ _ : Uuid, AudioWriter)}

theorem mem_finalizeAll {hound : Hound} (kept : Kept start handler)
    (isDrain : drained.Perm handler.writers.entries) {effect : Effect}
    (member : effect ∈ finalizeAll hound drained) :
    (∀ path, ¬ effect.Creates path) ∧ ∀ id, effect.Announces id → id ∈ handler.writers := by
  obtain ⟨⟨key, writer⟩, isEntry, member⟩ := List.mem_flatMap.mp member
  have finalized := finalized_finalizeWriter hound writer
  have known := AList.mem_lookup_iff.mpr (isDrain.mem_iff.mp isEntry)
  constructor
  · exact finalized.not_creates member
  · intro id announces
    rw [← finalized.announces member announces, (kept.writer_eq key writer known).1]
    exact AList.lookup_isSome.mp (Option.isSome_of_mem known)

/-- The writers left at the stop are announced once each. -/
theorem sealed_finalizeAll (hound : Hound) (kept : Kept start handler)
    (isDrain : drained.Perm handler.writers.entries) :
    Sealed start.wavPath (finalizeAll hound drained) := by
  refine List.pairwise_flatMap.mpr ⟨?_, ?_⟩
  · exact fun entry _ => (finalized_finalizeWriter hound entry.2).sealed _
  · have distinct := List.nodupKeys_iff_pairwise.mp
      ((List.perm_nodupKeys isDrain).mpr handler.writers.nodupKeys)
    apply distinct.imp_of_mem
    intro first second isFirst isSecond different earlier isEarlier later isLater id announces
    have firstKnown := AList.mem_lookup_iff.mpr (isDrain.mem_iff.mp isFirst)
    have secondKnown := AList.mem_lookup_iff.mpr (isDrain.mem_iff.mp isSecond)
    have firstFinalized := finalized_finalizeWriter hound first.2
    have secondFinalized := finalized_finalizeWriter hound second.2
    constructor
    · exact secondFinalized.not_creates isLater _
    · intro again
      apply different
      calc
        first.1 = first.2.id := (kept.writer_eq _ _ firstKnown).1.symm
        _ = id := firstFinalized.announces isEarlier announces
        _ = second.2.id := (secondFinalized.announces isLater again).symm
        _ = second.1 := (kept.writer_eq _ _ secondKnown).1

end Stop

/-- Over the whole life of a handler, its stop included, an announced recording
stays as it is and is announced once if no chunk of it arrives after the end
marker that closed it.  When `hound` does its part, every such chunk breaks
this. -/
theorem sealed_life_iff (wavDirectory : PathBuf) (spec : Spec) (deviceId : Uuid)
    (messages : List AudioBytes) (hound : Hound) (drained : List (Σ _ : Uuid, AudioWriter))
    (isDrain : drained.Perm
      (run handle (new wavDirectory spec deviceId) messages).1.writers.entries) :
    ((∀ id, ¬ Revived (messages.map (datagram spec.sampleFormat)) id) →
        Sealed (new wavDirectory spec deviceId).wavPath
          ((run handle (new wavDirectory spec deviceId) messages).2 ++
            finalizeAll hound drained)) ∧
      ((∀ message ∈ messages, message.hound.Succeeds) →
        Sealed (new wavDirectory spec deviceId).wavPath
          ((run handle (new wavDirectory spec deviceId) messages).2 ++
            finalizeAll hound drained) →
        ∀ id, ¬ Revived (messages.map (datagram spec.sampleFormat)) id) := by
  have kept := kept_run wavDirectory spec deviceId messages
  have quiet := quiet_run wavDirectory spec deviceId messages
  constructor
  · intro calm
    refine List.pairwise_append.mpr
      ⟨quiet.isSealed calm, sealed_finalizeAll hound kept isDrain, ?_⟩
    intro earlier isEarlier later isLater id announces
    have stop := mem_finalizeAll kept isDrain isLater
    constructor
    · exact stop.1 _
    · intro again
      exact quiet.closed calm id ⟨earlier, isEarlier, announces⟩ (stop.2 id again)
  · intro succeeds sealed id
    exact (settled_run wavDirectory spec deviceId messages succeeds id).calm
      (List.pairwise_append.mp sealed).1

/-- A chunk, its end marker, and the same chunk delivered once more. -/
def duplicated : List AudioBytes :=
  [.ofAudio (.working ⟨0, 0⟩) (.wavChunk ⟨.ofNat 7, 1, 0, default⟩ : Audio Int16),
    .ofAudio (.working ⟨0, 0⟩) (.wavEnd (.ofNat 7) : Audio Int16),
    .ofAudio (.working ⟨0, 0⟩) (.wavChunk ⟨.ofNat 7, 1, 0, default⟩ : Audio Int16)]

theorem map_datagram_duplicated :
    duplicated.map (datagram .i16) =
      [.chunk (.ofNat 7) 1, .wavEnd (.ofNat 7), .chunk (.ofNat 7) 1] := by
  simp only [duplicated, List.map_cons, List.map_nil]
  rw [datagram_ofAudio .i16, datagram_ofAudio .i16]
  rfl

theorem succeeds_duplicated : ∀ message ∈ duplicated, message.hound.Succeeds := by
  simp only [duplicated, List.forall_mem_cons]
  exact ⟨Hound.succeeds_working _, Hound.succeeds_working _, Hound.succeeds_working _, nofun⟩

/-- Without the duplicate, the recording stays sealed until the handler stops. -/
theorem sealed_life_single :
    Sealed (new ["wav"] ⟨1, 44100, 16, .i16⟩ (.ofNat 1)).wavPath
      ((run handle (new ["wav"] ⟨1, 44100, 16, .i16⟩ (.ofNat 1)) (duplicated.take 2)).2 ++
        finalizeAll (.working ⟨1, 0⟩)
          (run handle (new ["wav"] ⟨1, 44100, 16, .i16⟩ (.ofNat 1))
            (duplicated.take 2)).1.writers.entries) := by
  refine (sealed_life_iff ["wav"] ⟨1, 44100, 16, .i16⟩ (.ofNat 1) (duplicated.take 2) _ _
    (List.Perm.refl _)).1 ?_
  rintro id ⟨first, late, sublist⟩
  have short := sublist.length_le
  rw [List.map_take, map_datagram_duplicated] at short
  simp at short

/-- The duplicate creates the announced file again. -/
theorem not_sealed_duplicated :
    ¬ Sealed (new ["wav"] ⟨1, 44100, 16, .i16⟩ (.ofNat 1)).wavPath
      ((run handle (new ["wav"] ⟨1, 44100, 16, .i16⟩ (.ofNat 1)) duplicated).2 ++
        finalizeAll (.working ⟨1, 0⟩)
          (run handle (new ["wav"] ⟨1, 44100, 16, .i16⟩ (.ofNat 1))
            duplicated).1.writers.entries) := by
  intro sealed
  have settled := settled_run ["wav"] ⟨1, 44100, 16, .i16⟩ (.ofNat 1) duplicated
    succeeds_duplicated (.ofNat 7)
  apply settled.calm (List.pairwise_append.mp sealed).1
  rw [map_datagram_duplicated]
  exact ⟨1, 1, List.Sublist.refl _⟩

end AudioHandler

end Bug
