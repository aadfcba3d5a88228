import Bug.Audio.Framing
import Bug.Audio.Handshake
import Bug.Transition.Pipe

/-!
# The audio client as one actor

The collector feeds the payloads of the sound card to its noise gate, whose calls
drive the sink, and it announces its format when it starts and whenever the
server asks.  The samples it sends are samples of the sound card in their order.
-/

namespace Bug

open Bug.Encoding
open Bug.Transition

namespace AudioCollector

open AudioSink (Call)

variable {S : Type} [Sample S]

def create (newV4 : Nat → Uuid) (serverAddress : SocketAddr) (openThreshold : S)
    (releaseSampleCount : Nat) (secret : UInt64) (spec : Spec) : AudioCollector S where
  serverAddress := serverAddress
  noiseGate := NoiseGate.new openThreshold releaseSampleCount
  sink := AudioSink.new newV4 secret spec

/-- What the actor is called with. -/
inductive Input (S : Type) where
  | started
  | payload (payload : WavChunkPayload S)
  | item (item : Except AudioCodec.Error (Audio S × SocketAddr))
  /-- The stream of payloads is over. -/
  | finished

/-- The samples that an input brings from the sound card. -/
def Input.samples : Input S → List S
  | payload received => received.samples
  | _ => []

variable (newV4 : Nat → Uuid) (belowThreshold : S → S → Bool)

/-- The calls that an input makes on the sink. -/
def gate : Reaction (NoiseGate S) (Input S) (Call S)
  | noiseGate, .payload payload => noiseGate.process belowThreshold payload.samples
  | noiseGate, .finished => (noiseGate, [.endOfTransmission])
  | noiseGate, _ => (noiseGate, [])

/-- The handlers of the actor, and the messages they send.  The gate does not
look at the sink, so its calls may be made after it has seen the whole payload. -/
def react : Reaction (AudioCollector S) (Input S) (Audio S)
  | collector, .started =>
      let (sink, sent) := collector.sink.writeSpec
      ({ collector with sink := sink }, sent)
  | collector, .payload payload =>
      let (noiseGate, calls) := collector.noiseGate.process belowThreshold payload.samples
      let (sink, sent) := run (AudioSink.react newV4) collector.sink calls
      ({ collector with noiseGate := noiseGate, sink := sink }, sent)
  | collector, .item item => collector.handle item
  | collector, .finished =>
      let (sink, sent) := collector.sink.endOfTransmission newV4
      ({ collector with sink := sink }, sent)

/-- A message announces a format. -/
def IsSpec : Audio S → Bool
  | .spec _ _ => true
  | _ => false

/-! ## The actor as a gate before a sink -/

section Pipe

variable {newV4} {belowThreshold}

/-- A sink never sends a format of its own accord. -/
theorem not_isSpec_react (sink : AudioSink S) (call : Call S) :
    ∀ audio ∈ (AudioSink.react newV4 sink call).2, IsSpec audio = false := by
  cases call with
  | record sample =>
      simp only [AudioSink.react, AudioSink.record]
      split
      · exact List.forall_mem_singleton.mpr rfl
      · exact List.forall_mem_nil _
  | endOfTransmission =>
      simp only [AudioSink.react]
      cases skipped : sink.firstPayloadIgnored with
      | false =>
          rw [AudioSink.endOfTransmission_of_first skipped]
          exact List.forall_mem_nil _
      | true =>
          by_cases empty : sink.bufPos = 0
          · rw [AudioSink.endOfTransmission_of_empty skipped empty]
            exact List.forall_mem_nil _
          · rw [AudioSink.endOfTransmission_of_pending skipped empty]
            simp [IsSpec]

variable (newV4) in
theorem filter_isSpec_run (sink : AudioSink S) (calls : List (Call S)) :
    (run (AudioSink.react newV4) sink calls).2.filter (fun audio => !IsSpec audio) =
      (run (AudioSink.react newV4) sink calls).2 := by
  rw [List.filter_eq_self]
  intro audio member
  rcases (mem_run_iff _ _ _ _).mp member with ⟨before, call, -, sent⟩
  rw [not_isSpec_react _ call audio sent]
  rfl

variable (newV4 belowThreshold) in
/-- Announcements apart, one input is handled by the gate and then the sink. -/
theorem react_eq_pipe (collector : AudioCollector S) (input : Input S) :
    let after := react newV4 belowThreshold collector input
    let piped := pipe (gate belowThreshold) (AudioSink.react newV4)
      (collector.noiseGate, collector.sink) input
    (after.1.noiseGate, after.1.sink) = piped.1 ∧
      after.2.filter (fun audio => !IsSpec audio) = piped.2 := by
  cases input with
  | started => exact ⟨rfl, rfl⟩
  | payload received => exact ⟨rfl, filter_isSpec_run newV4 _ _⟩
  | item item =>
      simp only [react, handle]
      split
      · split
        · exact ⟨rfl, rfl⟩
        · split <;> exact ⟨rfl, rfl⟩
      · exact ⟨rfl, rfl⟩
  | finished =>
      have single := filter_isSpec_run newV4 collector.sink [.endOfTransmission]
      rw [run_singleton] at single
      simp only [react, pipe, gate, run_singleton]
      exact ⟨rfl, single⟩

variable (newV4 belowThreshold) in
/-- Announcements apart, a run of the actor is a run of its sink on the calls of
its gate. -/
theorem run_react_eq (collector : AudioCollector S) (inputs : List (Input S)) :
    (run (react newV4 belowThreshold) collector inputs).1.sink =
        (run (AudioSink.react newV4) collector.sink
          (run (gate belowThreshold) collector.noiseGate inputs).2).1 ∧
      (run (react newV4 belowThreshold) collector inputs).2.filter
          (fun audio => !IsSpec audio) =
        (run (AudioSink.react newV4) collector.sink
          (run (gate belowThreshold) collector.noiseGate inputs).2).2 := by
  have piped : ∀ collector : AudioCollector S,
      ((run (react newV4 belowThreshold) collector inputs).1.noiseGate,
          (run (react newV4 belowThreshold) collector inputs).1.sink) =
        (run (pipe (gate belowThreshold) (AudioSink.react newV4))
          (collector.noiseGate, collector.sink) inputs).1 ∧
      (run (react newV4 belowThreshold) collector inputs).2.filter
          (fun audio => !IsSpec audio) =
        (run (pipe (gate belowThreshold) (AudioSink.react newV4))
          (collector.noiseGate, collector.sink) inputs).2 := by
    induction inputs with
    | nil => exact fun _ => ⟨rfl, rfl⟩
    | cons input inputs ih =>
        intro collector
        rcases react_eq_pipe newV4 belowThreshold collector input with ⟨stateEq, sentEq⟩
        rcases ih (react newV4 belowThreshold collector input).1 with ⟨stateRest, sentRest⟩
        rw [run_cons, run_cons, List.filter_append, ← stateEq]
        exact ⟨stateRest, congrArg₂ _ sentEq sentRest⟩
  rcases piped collector with ⟨stateEq, sentEq⟩
  rw [run_pipe] at stateEq sentEq
  exact ⟨congrArg Prod.snd stateEq, sentEq⟩

/-! ## Announcements -/

/-- What a sink announces stays the same. -/
def SameSpec (first second : AudioSink S) : Prop :=
  first.secret = second.secret ∧ first.spec = second.spec

theorem sameSpec_react (sink : AudioSink S) (call : Call S) :
    SameSpec (AudioSink.react newV4 sink call).1 sink := by
  cases call with
  | record sample =>
      simp only [AudioSink.react, AudioSink.record]
      split <;> exact ⟨rfl, rfl⟩
  | endOfTransmission =>
      simp only [AudioSink.react, AudioSink.endOfTransmission]
      split
      · exact ⟨rfl, rfl⟩
      · split <;> exact ⟨rfl, rfl⟩

theorem sameSpec_run (sink : AudioSink S) (calls : List (Call S)) :
    SameSpec (run (AudioSink.react newV4) sink calls).1 sink :=
  run_invariant (AudioSink.react newV4) sink (fun after _ _ => SameSpec after sink)
    ⟨rfl, rfl⟩
    (fun after _ _ call kept =>
      ⟨(sameSpec_react after call).1.trans kept.1,
        (sameSpec_react after call).2.trans kept.2⟩)
    calls

variable (newV4 belowThreshold) in
/-- The actor keeps its secret and its format, and announces nothing else. -/
theorem react_announces (collector : AudioCollector S) (input : Input S) :
    SameSpec (react newV4 belowThreshold collector input).1.sink collector.sink ∧
      ∀ audio ∈ (react newV4 belowThreshold collector input).2, IsSpec audio = true →
        audio = .spec collector.sink.secret collector.sink.spec := by
  have silent : ∀ calls audio, audio ∈ (run (AudioSink.react newV4) collector.sink calls).2 →
      IsSpec audio = true → audio = .spec collector.sink.secret collector.sink.spec := by
    intro calls audio member isSpec
    rw [← filter_isSpec_run newV4] at member
    simp [isSpec] at member
  cases input with
  | started => exact ⟨⟨rfl, rfl⟩, fun audio member _ => List.mem_singleton.mp member⟩
  | payload received => exact ⟨sameSpec_run _ _, silent _⟩
  | item item =>
      simp only [react, handle]
      split
      · split
        · exact ⟨⟨rfl, rfl⟩, List.forall_mem_nil _⟩
        · split
          · exact ⟨⟨rfl, rfl⟩, fun audio member _ => List.mem_singleton.mp member⟩
          · exact ⟨⟨rfl, rfl⟩, List.forall_mem_nil _⟩
      · exact ⟨⟨rfl, rfl⟩, List.forall_mem_nil _⟩
  | finished =>
      have single := silent [.endOfTransmission]
      rw [run_singleton] at single
      exact ⟨sameSpec_react collector.sink .endOfTransmission, single⟩

theorem run_announces (collector : AudioCollector S) (inputs : List (Input S))
    {secret : UInt64} {spec : Spec}
    (member : .spec secret spec ∈ (run (react newV4 belowThreshold) collector inputs).2) :
    secret = collector.sink.secret ∧ spec = collector.sink.spec := by
  have kept := run_invariant (react newV4 belowThreshold) collector
    (fun after _ sent => SameSpec after.sink collector.sink ∧
      ∀ audio ∈ sent, IsSpec audio = true →
        audio = .spec collector.sink.secret collector.sink.spec)
    ⟨⟨rfl, rfl⟩, List.forall_mem_nil _⟩
    (by
      rintro after inputs sent input ⟨⟨secretEq, specEq⟩, before⟩
      rcases react_announces newV4 belowThreshold after input with
        ⟨same, now⟩
      refine ⟨⟨same.1.trans secretEq, same.2.trans specEq⟩, ?_⟩
      intro audio inSent isSpec
      rcases List.mem_append.mp inSent with earlier | last
      · exact before audio earlier isSpec
      · rw [now audio last isSpec, secretEq, specEq])
    inputs
  cases kept.2 _ member rfl
  exact ⟨rfl, rfl⟩

/-! ## Recorded samples come from the sound card -/

omit [Sample S] in
/-- The gate passes on a sample or drops it, and never changes it. -/
theorem sublist_processSample (noiseGate : NoiseGate S) (sample : S) :
    ((noiseGate.processSample belowThreshold sample).2.filterMap Call.sample).Sublist
      [sample] := by
  simp only [NoiseGate.processSample]
  split
  · exact List.Sublist.refl _
  · split <;> exact List.nil_sublist _

omit [Sample S] in
theorem sublist_process (noiseGate : NoiseGate S) (samples : List S) :
    ((noiseGate.process belowThreshold samples).2.filterMap Call.sample).Sublist samples := by
  induction samples generalizing noiseGate with
  | nil => exact List.Sublist.refl _
  | cons sample samples ih =>
      rw [NoiseGate.process, run_cons, List.filterMap_append]
      exact (sublist_processSample noiseGate sample).append (ih _)

omit [Sample S] in
theorem sublist_gate (noiseGate : NoiseGate S) (input : Input S) :
    ((gate belowThreshold noiseGate input).2.filterMap Call.sample).Sublist input.samples := by
  cases input with
  | payload received => exact sublist_process noiseGate received.samples
  | _ => exact List.nil_sublist _

omit [Sample S] in
theorem sublist_run_gate (noiseGate : NoiseGate S) (inputs : List (Input S)) :
    ((run (gate belowThreshold) noiseGate inputs).2.filterMap Call.sample).Sublist
      (inputs.flatMap Input.samples) :=
  run_relates (gate belowThreshold)
    (fun inputs calls => (calls.filterMap Call.sample).Sublist (inputs.flatMap Input.samples))
    (List.Sublist.refl _)
    (by
      intro inputs calls input sent before now
      rw [List.filterMap_append, List.flatMap_append]
      exact before.append now)
    (by
      intro noiseGate input
      rw [List.flatMap_singleton]
      exact sublist_gate noiseGate input)
    noiseGate inputs

end Pipe

end AudioCollector

namespace AudioSink

/-! ## The order of the flushed buffers -/

section Order

variable {S : Type}

theorem filterMap_chunkOf_messages (transmission : Transmission S) :
    transmission.messages.filterMap chunkOf = transmission.chunks := by
  rw [Transmission.messages, List.filterMap_append, List.filterMap_map]
  have kept : (chunkOf ∘ Audio.wavChunk : WavChunk S → Option (WavChunk S)) = some := rfl
  rw [kept, List.filterMap_some]
  exact List.append_nil _

/-- The transmissions of a history, the unfinished one last. -/
def transmissions (sink : AudioSink S) (closed : List (Transmission S))
    (unfinished : List (WavChunk S)) : List (Transmission S) :=
  closed ++ [{ id := sink.bufIdSeq.1, chunks := unfinished }]

section Framed

variable {newV4 : Nat → Uuid} {sink : AudioSink S} {sent : List (Audio S)}
  {closed : List (Transmission S)} {unfinished : List (WavChunk S)}

theorem Framed.filterMap_chunkOf (framed : Framed newV4 sink sent closed unfinished) :
    sent.filterMap chunkOf =
      (transmissions sink closed unfinished).flatMap Transmission.chunks := by
  have kept : (chunkOf ∘ Audio.wavChunk : WavChunk S → Option (WavChunk S)) = some := rfl
  rw [framed.sent_eq, List.filterMap_append, List.filterMap_flatMap, List.filterMap_map, kept,
    List.filterMap_some, transmissions, List.flatMap_append, List.flatMap_singleton]
  simp only [filterMap_chunkOf_messages]

theorem Framed.ids_transmissions (framed : Framed newV4 sink sent closed unfinished) :
    (transmissions sink closed unfinished).map Transmission.id =
      (List.range sink.drawn).map newV4 := by
  rw [transmissions, List.map_append]
  exact framed.ids_eq

theorem Framed.counted (framed : Framed newV4 sink sent closed unfinished)
    {transmission : Transmission S} (member : transmission ∈ transmissions sink closed unfinished) :
    Counted transmission.id transmission.chunks := by
  rcases List.mem_append.mp member with isClosed | last
  · exact (framed.closed_counted transmission isClosed).2
  · rw [List.mem_singleton.mp last]
    exact framed.unfinished_counted

end Framed

theorem Consecutive.pairwise {id : Uuid} {chunks : List (WavChunk S)}
    (consecutive : Consecutive id chunks) :
    chunks.Pairwise fun earlier later => earlier.seq < later.seq := by
  have numbers := congrArg (List.map Prod.snd) consecutive
  rw [List.map_map, List.map_map] at numbers
  have increasing : (chunks.map fun chunk => chunk.seq.toNat).Pairwise (· < ·) := by
    have range : (chunks.map fun chunk => chunk.seq.toNat) = List.range chunks.length :=
      numbers.trans (List.map_id _)
    rw [range]
    exact List.pairwise_lt_range
  exact (List.pairwise_map.mp increasing).imp UInt32.lt_iff_toNat_lt.mpr

/-- In a history with different identifiers, chunks of one identifier have
increasing numbers. -/
theorem pairwise_flatMap_chunks {transmissions : List (Transmission S)}
    (fresh : (transmissions.map Transmission.id).Nodup)
    (counted : ∀ transmission ∈ transmissions,
      Counted transmission.id transmission.chunks ∧ transmission.chunks.length < 2 ^ 32) :
    (transmissions.flatMap Transmission.chunks).Pairwise fun earlier later =>
      earlier.id = later.id → earlier.seq < later.seq := by
  rw [List.pairwise_flatMap]
  constructor
  · intro transmission member
    rcases counted transmission member with ⟨numbered, few⟩
    apply (numbered.consecutive few).pairwise.imp
    intro earlier later increasing same
    exact increasing
  · apply (List.pairwise_map.mp fresh).imp_of_mem
    intro first second isFirst isSecond different chunk inFirst other inSecond same
    rw [(counted first isFirst).1.id_eq inFirst, (counted second isSecond).1.id_eq inSecond] at same
    exact absurd same different

end Order

section Flushed

variable {S : Type} [Sample S] (newV4 : Nat → Uuid) (secret : UInt64) (spec : Spec)
  (calls : List (Call S))

/-- The buffers flushed under an identifier. -/
def recording (id : Uuid) : List (AudioSink S) :=
  (run (flush newV4) (new newV4 secret spec) calls).2.filter fun flushed => flushed.bufIdSeq.1 = id

/-- The identifiers drawn during a run of calls. -/
def drawnIds : List Uuid :=
  (List.range (run (react newV4) (new (S := S) newV4 secret spec) calls).1.drawn).map newV4

variable {newV4 secret spec calls}

/-- The chunks of a transmission are among those flushed under its identifier. -/
theorem Counted.length_le_recording {closed : List (Transmission S)}
    {unfinished : List (WavChunk S)}
    (framed : Framed newV4 (run (react newV4) (new newV4 secret spec) calls).1
      (run (react newV4) (new newV4 secret spec) calls).2 closed unfinished)
    {transmission : Transmission S}
    (member : transmission ∈ transmissions
      (run (react newV4) (new newV4 secret spec) calls).1 closed unfinished) :
    transmission.chunks.length ≤ (recording newV4 secret spec calls transmission.id).length := by
  have counted := framed.counted member
  have flushed := framed.filterMap_chunkOf
  rw [filterMap_chunkOf_run] at flushed
  have kept : transmission.chunks.filter (fun chunk => chunk.id = transmission.id) =
      transmission.chunks := by
    rw [List.filter_eq_self]
    intro chunk inside
    exact decide_eq_true (counted.id_eq inside)
  have own : transmission.chunks.Sublist
      (((run (flush newV4) (new newV4 secret spec) calls).2.map chunk).filter
        fun chunk => chunk.id = transmission.id) := by
    rw [flushed, ← kept]
    exact (List.sublist_flatten_of_mem (List.mem_map_of_mem member)).filter _
  have lengths := own.length_le
  rwa [List.filter_map, List.length_map] at lengths

/-- Buffers flushed under one identifier carry increasing numbers. -/
theorem pairwise_flushed (fresh : (drawnIds newV4 secret spec calls).Nodup)
    (few : ∀ id, (recording newV4 secret spec calls id).length < 2 ^ 32) :
    (run (flush newV4) (new newV4 secret spec) calls).2.Pairwise fun earlier later =>
      earlier.bufIdSeq.1 = later.bufIdSeq.1 → earlier.bufIdSeq.2 < later.bufIdSeq.2 := by
  rcases framed_run newV4 secret spec calls with ⟨closed, unfinished, framed⟩
  have flushed := framed.filterMap_chunkOf
  rw [filterMap_chunkOf_run] at flushed
  have increasing := pairwise_flatMap_chunks (framed.ids_transmissions ▸ fresh)
    fun transmission member => ⟨framed.counted member,
      (Counted.length_le_recording framed member).trans_lt (few _)⟩
  rw [← flushed, List.pairwise_map] at increasing
  exact increasing

/-- The flushed samples are recorded ones, in their order. -/
theorem sublist_flatMap_recorded :
    ((run (flush newV4) (new newV4 secret spec) calls).2.flatMap recorded).Sublist
      (calls.filterMap Call.sample) := by
  have conserved := run_invariant (flush newV4) (new (S := S) newV4 secret spec)
    (fun sink calls flushes => Padded sink ∧
      flushes.flatMap recorded ++ sink.recorded = calls.filterMap Call.sample)
    ⟨padded_empty rfl rfl, rfl⟩
    (by
      rintro sink calls flushes call ⟨padded, balance⟩
      refine ⟨padded.react newV4 call, ?_⟩
      calc
        (flushes ++ sink.flushing call).flatMap recorded ++
            (AudioSink.react newV4 sink call).1.recorded =
          flushes.flatMap recorded ++ (sink.recorded ++ call.sample.toList) := by
            rw [List.flatMap_append, List.append_assoc, padded.flushed_append_recorded]
        _ = (calls ++ [call]).filterMap Call.sample := by
            rw [← List.append_assoc, balance, List.filterMap_append]
            cases call <;> rfl)
    calls
  rw [← conserved.2]
  exact List.sublist_append_left _ _

/-- A flushed buffer holds what was recorded into it, and default values behind. -/
theorem samples_of_flushed {flushed : AudioSink S}
    (member : flushed ∈ (run (flush newV4) (new newV4 secret spec) calls).2) :
    flushed.buf.samples =
      flushed.recorded ++ List.replicate (wavChunkPayloadSize - flushed.bufPos) default := by
  rcases (mem_run_iff _ _ _ _).mp member with ⟨before, call, -, now⟩
  have padded := padded_run newV4 secret spec before
  rw [← run_flush_fst] at padded
  exact padded.flushed_samples_eq now

/-- A message names no identifier but a drawn one. -/
theorem id_mem_drawnIds {audio : Audio S}
    (member : audio ∈ (run (react newV4) (new newV4 secret spec) calls).2) {id : Uuid}
    (named : audio.datagram.id = some id) : id ∈ drawnIds newV4 secret spec calls := by
  rcases framed_run newV4 secret spec calls with ⟨closed, unfinished, framed⟩
  have ids := framed.ids_transmissions
  rw [framed.sent_eq] at member
  rw [drawnIds, ← ids, transmissions, List.map_append]
  rcases List.mem_append.mp member with isClosed | isLast
  · rcases List.mem_flatMap.mp isClosed with ⟨transmission, isSent, inside⟩
    apply List.mem_append_left
    have own : id = transmission.id := by
      rcases List.mem_append.mp inside with isChunk | isEnd
      · rcases List.mem_map.mp isChunk with ⟨chunk, inChunks, rfl⟩
        cases named
        exact (framed.closed_counted transmission isSent).2.id_eq inChunks
      · cases List.mem_singleton.mp isEnd
        exact (Option.some.inj named).symm
    rw [own]
    exact List.mem_map_of_mem isSent
  · rcases List.mem_map.mp isLast with ⟨chunk, inChunks, rfl⟩
    cases named
    apply List.mem_append_right
    exact List.mem_singleton.mpr (framed.unfinished_counted.id_eq inChunks)

end Flushed

end AudioSink

end Bug
