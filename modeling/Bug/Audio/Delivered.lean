import Bug.Audio.Client
import Bug.Audio.Routing
import Bug.Audio.Stream
import Mathlib.Data.List.Flatten
import Mathlib.Data.List.Sort

/-!
# From the sound card to the files, over any network

Several clients stream to one server.  The network may lose, repeat and reorder
their datagrams, and the actors of the server take their turns in any order.  The
file of a transmission is still a selection of the buffers that its client
flushed, in their order and each at most once.
-/

namespace Bug

open Bug.Db
open Bug.Encoding
open Bug.Transition

/-- Entries in increasing order, each of which stands for a member of an
increasing list, stand for a selection of it. -/
theorem exists_sublist_map_eq {α β κ : Type} (less : κ → κ → Prop)
    (asymm : ∀ first second, less first second → ¬ less second first) {key : β → κ} {entry : α → β}
    {entries : List β} {members : List α}
    (increasing : entries.Pairwise fun earlier later => less (key earlier) (key later))
    (ordered : members.Pairwise fun earlier later =>
      less (key (entry earlier)) (key (entry later)))
    (stands : ∀ value ∈ entries, ∃ member ∈ members, entry member = value) :
    ∃ chosen : List α, chosen.Sublist members ∧ entries = chosen.map entry := by
  have irrefl : Std.Irrefl fun earlier later : β => less (key earlier) (key later) :=
    ⟨fun value below => asymm _ _ below below⟩
  have antisymm : Std.Antisymm fun earlier later : β => less (key earlier) (key later) :=
    ⟨fun first second below above => absurd above (asymm _ _ below)⟩
  have subset : entries ⊆ members.map entry :=
    fun value member => List.mem_map.mpr (stands value member)
  exact List.sublist_map_iff.mp (List.sublist_of_subperm_of_pairwise
    (List.subperm_of_subset increasing.nodup subset) increasing (List.pairwise_map.mpr ordered))

/-! ## What the handler appends -/

namespace AudioHandler

variable {format : SampleFormat} {start handler : AudioHandler}

/-- A writer appends nothing but a newer chunk, as a whole. -/
theorem write_appends (signed : format ≠ .u16) {hound : Hound} (succeeds : hound.Succeeds)
    {writer : AudioWriter} {inner : WavWriter} (isOpen : writer.inner = some inner)
    {chunk : WavChunk format.Carrier} {effect : Effect}
    (member : effect ∈ (writer.write format.tryInto hound chunk).2.1) :
    chunk.seq ≠ 0 ∧ effect = appendChunk inner.path chunk := by
  by_cases newer : writer.seq < chunk.seq
  · rw [AudioWriter.write_of_lt format succeeds signed isOpen newer] at member
    refine ⟨?_, List.mem_singleton.mp member⟩
    intro zero
    rw [zero] at newer
    exact UInt32.not_lt_zero newer
  · rw [AudioWriter.write_of_not_lt format isOpen newer] at member
    cases member

/-- Only a chunk is appended to a file. -/
theorem HandlerStep.of_append {hound : Hound} {after : AudioHandler} {datagram : Datagram}
    {effects : List Effect} {path : PathBuf} {seq : UInt32} {samples : List WavSample}
    (step : HandlerStep hound handler datagram after effects)
    (member : .append path seq samples ∈ effects) : ∃ id seq, datagram = .chunk id seq := by
  cases step with
  | ignored => cases member
  | refused unknown failed creates => exact ⟨_, _, rfl⟩
  | chunk opened written => exact ⟨_, _, rfl⟩
  | ended known finalized => cases finalized <;> simp at member

/-- A message appends nothing but its own chunk, to the file of its identifier. -/
theorem handle_appends (kept : Kept start handler) (formatEq : start.spec.sampleFormat = format)
    (signed : format ≠ .u16) {hound : Hound} (succeeds : hound.Succeeds)
    {audio : Audio format.Carrier} {path : PathBuf} {seq : UInt32} {samples : List WavSample}
    (member : .append path seq samples ∈ (handler.handle (.ofAudio hound audio)).2) :
    ∃ chunk, audio = .wavChunk chunk ∧ chunk.seq ≠ 0 ∧
      .append path seq samples = appendChunk (start.wavPath chunk.id) chunk := by
  rw [← kept.spec_eq] at formatEq
  have step := handlerStep_handle handler (.ofAudio hound audio)
  rw [formatEq, datagram_ofAudio] at step
  rcases step.of_append member with ⟨id, number, isChunk⟩
  cases audio with
  | wavChunk chunk =>
      refine ⟨chunk, rfl, ?_⟩
      cases known : handler.writers.lookup chunk.id with
      | some writer =>
          rw [handle_chunk_of_known formatEq hound chunk known] at member
          exact write_appends signed succeeds (kept.writer_eq chunk.id writer known).2 member
      | none =>
          rw [handle_chunk_of_unknown formatEq hound chunk known succeeds.create_eq] at member
          rcases List.mem_cons.mp member with creates | written
          · cases creates
          · rw [← kept.wavPath_eq]
            exact write_appends signed succeeds rfl written
  | _ => cases isChunk

/-- The chunks written to a file were appended to it. -/
theorem mem_of_chunksWritten {path : PathBuf} {effects : List Effect}
    {chunks : List (UInt32 × List WavSample)}
    (written : chunksWritten path effects = some chunks) :
    ∀ chunk ∈ chunks, .append path chunk.1 chunk.2 ∈ effects := by
  induction effects using List.reverseRecOn generalizing chunks with
  | nil => cases written
  | append_singleton effects effect ih =>
      rw [chunksWritten_append, List.foldl_cons, List.foldl_nil] at written
      have earlier : chunksWritten path effects = some chunks →
          ∀ chunk ∈ chunks, .append path chunk.1 chunk.2 ∈ effects ++ [effect] :=
        fun before chunk member => List.mem_append_left _ (ih before chunk member)
      cases effect with
      | create other spec =>
          simp only [Effect.extend] at written
          split at written
          · cases written
            exact List.forall_mem_nil _
          · exact earlier written
      | append other seq samples =>
          simp only [Effect.extend] at written
          split at written
          · rename_i same
            subst same
            rcases Option.map_eq_some_iff.mp written with ⟨before, beforeEq, rfl⟩
            intro chunk member
            rcases List.mem_append.mp member with old | new
            · exact List.mem_append_left _ (ih beforeEq chunk old)
            · rw [List.mem_singleton.mp new]
              exact List.mem_append_right _ List.mem_cons_self
          · exact earlier written
      | finalize other => exact earlier written
      | send event => exact earlier written

/-- Over a run on messages of one client, whatever became of the others, a file
holds chunks of its identifier in increasing order and none that was not sent. -/
theorem chunksWritten_of_messages {wavDirectory : PathBuf} {spec : Spec} {deviceId : Uuid}
    (formatEq : spec.sampleFormat = format) (signed : format ≠ .u16)
    {sent : List (Audio format.Carrier)} {messages : List AudioBytes}
    (fromClient : ∀ message ∈ messages, message.hound.Succeeds ∧
      ∃ audio ∈ sent, message.buf = Audio.codec.encode audio)
    {id : Uuid} {chunks : List (UInt32 × List WavSample)}
    (written : chunksWritten ((new wavDirectory spec deviceId).wavPath id)
      (run handle (new wavDirectory spec deviceId) messages).2 = some chunks) :
    chunks.Pairwise (fun earlier later => earlier.1 < later.1) ∧
      ∀ entry ∈ chunks, ∃ chunk, .wavChunk chunk ∈ sent ∧ chunk.id = id ∧ chunk.seq ≠ 0 ∧
        entry = (chunk.seq, chunkSamples chunk) := by
  constructor
  · exact (increasing_run (formatEq ▸ signed) messages
      (fun message member => (fromClient message member).1) id).pairwise chunks written
  · intro entry member
    rcases (mem_run_iff _ _ _ _).mp (mem_of_chunksWritten written entry member) with
      ⟨before, message, isPrefix, appended⟩
    have inside : message ∈ messages := isPrefix.subset (List.mem_append_right _ List.mem_cons_self)
    rcases fromClient message inside with ⟨succeeds, audio, isSent, encoded⟩
    have sentEq : message = .ofAudio message.hound audio := by
      rw [AudioBytes.ofAudio, ← encoded]
    rw [sentEq] at appended
    rcases handle_appends (kept_run wavDirectory spec deviceId before) formatEq signed succeeds
      appended with ⟨chunk, rfl, numbered, same⟩
    rw [appendChunk] at same
    injection same with pathEq seqEq samplesEq
    exact ⟨chunk, isSent, ((new wavDirectory spec deviceId).wavPath_injective pathEq).symm,
      numbered, Prod.ext seqEq samplesEq⟩

/-- Such a run works on no file but those of the identifiers in its messages. -/
theorem file_of_messages {wavDirectory : PathBuf} {spec : Spec} {deviceId : Uuid}
    (formatEq : spec.sampleFormat = format) {sent : List (Audio format.Carrier)}
    {messages : List AudioBytes}
    (fromClient : ∀ message ∈ messages, message.hound.Succeeds ∧
      ∃ audio ∈ sent, message.buf = Audio.codec.encode audio)
    {effect : Effect}
    (member : effect ∈ (run handle (new wavDirectory spec deviceId) messages).2)
    {path : PathBuf} (isFile : effect.file = some path) :
    ∃ audio ∈ sent, ∃ id, audio.datagram.id = some id ∧
      path = (new wavDirectory spec deviceId).wavPath id := by
  rcases (mem_run_iff _ _ _ _).mp member with ⟨before, message, isPrefix, now⟩
  have inside : message ∈ messages := isPrefix.subset (List.mem_append_right _ List.mem_cons_self)
  rcases fromClient message inside with ⟨-, audio, isSent, encoded⟩
  have sentEq : message = .ofAudio message.hound audio := by
    rw [AudioBytes.ofAudio, ← encoded]
  have kept := kept_run wavDirectory spec deviceId before
  rcases (handlerStep_handle _ message).file_eq kept now isFile with ⟨id, named, pathEq⟩
  rw [sentEq, kept.spec_eq] at named
  have format_eq : (new wavDirectory spec deviceId).spec.sampleFormat = format := formatEq
  rw [format_eq, datagram_ofAudio] at named
  exact ⟨audio, isSent, id, named, pathEq⟩

end AudioHandler

/-- A chunk is never read as an announcement. -/
theorem Audio.deserialize_wavChunk_ne_spec (format : SampleFormat)
    (chunk : WavChunk format.Carrier) {secret : UInt64} {spec : Bug.Spec} :
    codec.deserialize (α := Audio F32) (codec.encode (.wavChunk chunk)) ≠
      some (.spec secret spec) := by
  by_cases narrow : format = .f32
  · subst narrow
    rw [Codec.deserialize_encode]
    exact nofun
  · rw [deserialize_wavChunk_of_lt format.hasWidth_codec (SampleFormat.hasWidth_codec .f32)
      (SampleFormat.width_lt narrow)]
    exact nofun

/-! ## The clients -/

/-- A client: what its sound card and its settings are, and what its collector
was called with. -/
structure ClientRun where
  newV4 : Nat → Uuid
  serverAddress : SocketAddr
  secret : UInt64
  spec : Spec
  openThreshold : spec.sampleFormat.Carrier
  releaseSampleCount : Nat
  belowThreshold : spec.sampleFormat.Carrier → spec.sampleFormat.Carrier → Bool
  inputs : List (AudioCollector.Input spec.sampleFormat.Carrier)

namespace ClientRun

open AudioSink (Call)

variable (client : ClientRun)

/-- The samples of the sound card. -/
def microphone : List client.spec.sampleFormat.Carrier :=
  client.inputs.flatMap AudioCollector.Input.samples

/-- Every message that the client sends. -/
def sent : List (Audio client.spec.sampleFormat.Carrier) :=
  (run (AudioCollector.react client.newV4 client.belowThreshold)
    (AudioCollector.create client.newV4 client.serverAddress client.openThreshold
      client.releaseSampleCount client.secret client.spec) client.inputs).2

def calls : List (Call client.spec.sampleFormat.Carrier) :=
  (run (AudioCollector.gate client.belowThreshold)
    (NoiseGate.new client.openThreshold client.releaseSampleCount) client.inputs).2

/-- The buffers that the client flushed under an identifier. -/
def recording (id : Uuid) : List (AudioSink client.spec.sampleFormat.Carrier) :=
  AudioSink.recording client.newV4 client.secret client.spec client.calls id

def drawnIds : List Uuid :=
  AudioSink.drawnIds client.newV4 client.secret client.spec client.calls

/-- The contents of a file are the buffers of a selection of those flushed under
the identifier, in their order, each at most once and never the first.  What was
recorded into them was heard by the sound card in that order, and the rest of a
buffer is default values. -/
def Selects (id : Uuid) (contents : List WavSample) : Prop :=
  ∃ flushed : List (AudioSink client.spec.sampleFormat.Carrier),
    flushed.Sublist (client.recording id) ∧ (∀ sink ∈ flushed, sink.bufIdSeq.2 ≠ 0) ∧
      (flushed.flatMap AudioSink.recorded).Sublist client.microphone ∧
      contents = flushed.flatMap fun sink =>
        (sink.recorded ++ List.replicate (wavChunkPayloadSize - sink.bufPos) default).filterMap
          client.spec.sampleFormat.tryInto

variable {client}

theorem mem_sink_of_sent {audio : Audio client.spec.sampleFormat.Carrier}
    (member : audio ∈ client.sent) (noSpec : AudioCollector.IsSpec audio = false) :
    audio ∈ (run (AudioSink.react client.newV4)
      (AudioSink.new client.newV4 client.secret client.spec) client.calls).2 := by
  have split := (AudioCollector.run_react_eq client.newV4 client.belowThreshold
    (AudioCollector.create client.newV4 client.serverAddress client.openThreshold
      client.releaseSampleCount client.secret client.spec) client.inputs).2
  have inside : audio ∈ client.sent.filter fun audio => !AudioCollector.IsSpec audio := by
    rw [List.mem_filter, noSpec]
    exact ⟨member, rfl⟩
  exact (congrArg (audio ∈ ·) split).mp inside

/-- A message names no identifier but a drawn one. -/
theorem id_mem_drawnIds {audio : Audio client.spec.sampleFormat.Carrier}
    (member : audio ∈ client.sent) {id : Uuid} (named : audio.datagram.id = some id) :
    id ∈ client.drawnIds := by
  have noSpec : AudioCollector.IsSpec audio = false := by
    cases audio with
    | spec secret spec => cases named
    | _ => rfl
  exact AudioSink.id_mem_drawnIds (mem_sink_of_sent member noSpec) named

/-- A chunk that was sent is that of a flushed buffer. -/
theorem exists_recording_of_sent {chunk : WavChunk client.spec.sampleFormat.Carrier}
    (member : .wavChunk chunk ∈ client.sent) :
    ∃ flushed ∈ client.recording chunk.id, flushed.chunk = chunk := by
  have inside := List.mem_filterMap.mpr
    ⟨_, mem_sink_of_sent member rfl, (rfl : AudioSink.chunkOf (.wavChunk chunk) = some chunk)⟩
  rw [AudioSink.filterMap_chunkOf_run] at inside
  rcases List.mem_map.mp inside with ⟨flushed, isFlushed, rfl⟩
  exact ⟨flushed, List.mem_filter.mpr ⟨isFlushed, decide_eq_true rfl⟩, rfl⟩

/-- Under one identifier the flushed buffers carry increasing numbers. -/
theorem pairwise_recording (fresh : client.drawnIds.Nodup)
    (few : ∀ id, (client.recording id).length < 2 ^ 32) (id : Uuid) :
    (client.recording id).Pairwise fun earlier later => earlier.bufIdSeq.2 < later.bufIdSeq.2 := by
  have ordered := (AudioSink.pairwise_flushed fresh few).filter fun flushed =>
    flushed.bufIdSeq.1 = id
  apply List.Pairwise.imp_of_mem _ ordered
  intro earlier later isEarlier isLater increasing
  have first := of_decide_eq_true (List.mem_filter.mp isEarlier).2
  have second := of_decide_eq_true (List.mem_filter.mp isLater).2
  exact increasing (first.trans second.symm)

theorem sublist_recorded {flushed : List (AudioSink client.spec.sampleFormat.Carrier)} {id : Uuid}
    (selected : flushed.Sublist (client.recording id)) :
    (flushed.flatMap AudioSink.recorded).Sublist client.microphone := by
  have inside := (selected.trans List.filter_sublist).flatMap AudioSink.recorded
  exact (inside.trans AudioSink.sublist_flatMap_recorded).trans
    (AudioCollector.sublist_run_gate _ _)

/-- Chunks in increasing order, each of which was sent under the identifier, are
those of a selection. -/
theorem selects_of_chunks (fresh : client.drawnIds.Nodup)
    (few : ∀ id, (client.recording id).length < 2 ^ 32) {id : Uuid}
    {chunks : List (UInt32 × List WavSample)}
    (increasing : chunks.Pairwise fun earlier later => earlier.1 < later.1)
    (fromClient : ∀ entry ∈ chunks, ∃ chunk, .wavChunk chunk ∈ client.sent ∧ chunk.id = id ∧
      chunk.seq ≠ 0 ∧ entry = (chunk.seq, AudioHandler.chunkSamples chunk)) :
    client.Selects id (chunks.flatMap Prod.snd) := by
  have stands : ∀ entry ∈ chunks, ∃ flushed ∈ client.recording id,
      (flushed.chunk.seq, AudioHandler.chunkSamples flushed.chunk) = entry := by
    intro entry member
    rcases fromClient entry member with ⟨chunk, isSent, rfl, -, rfl⟩
    rcases exists_recording_of_sent isSent with ⟨flushed, isFlushed, rfl⟩
    exact ⟨flushed, isFlushed, rfl⟩
  rcases exists_sublist_map_eq (fun first second : UInt32 => first < second)
      (fun _ _ => UInt32.lt_asymm) increasing (pairwise_recording fresh few id) stands with
    ⟨flushed, selected, rfl⟩
  refine ⟨flushed, selected, ?_, sublist_recorded selected, ?_⟩
  · intro sink member zero
    rcases fromClient _ (List.mem_map_of_mem member) with ⟨chunk, -, -, numbered, same⟩
    exact numbered ((congrArg Prod.fst same).symm.trans zero)
  · rw [List.flatMap_map]
    apply List.flatMap_congr
    intro sink member
    have isFlushed := List.mem_of_mem_filter (selected.subset member)
    rw [← AudioSink.samples_of_flushed isFlushed]
    rfl

/-- A started client has announced itself. -/
theorem spec_mem_sent {inputs : List (AudioCollector.Input client.spec.sampleFormat.Carrier)}
    (started : client.inputs = .started :: inputs) :
    .spec client.secret client.spec ∈ client.sent := by
  rw [sent, started, run_cons]
  exact List.mem_append_left _ List.mem_cons_self

/-- The server reads an announcement of a client as such, and nothing else that
the client sends. -/
theorem eq_spec_of_deserialize {audio : Audio client.spec.sampleFormat.Carrier}
    (member : audio ∈ client.sent) {secret : UInt64} {spec : Spec}
    (decoded : Audio.codec.deserialize (α := Audio F32) (Audio.codec.encode audio) =
      some (.spec secret spec)) :
    secret = client.secret ∧ spec = client.spec := by
  cases audio with
  | handshake =>
      rw [Audio.encode_handshake_eq (T := F32), Codec.deserialize_encode] at decoded
      cases decoded
  | spec ownSecret ownSpec =>
      rw [Audio.encode_spec_eq (T := F32), Codec.deserialize_encode] at decoded
      cases decoded
      exact AudioCollector.run_announces _ _ member
  | wavChunk chunk => exact absurd decoded (Audio.deserialize_wavChunk_ne_spec _ chunk)
  | wavEnd id =>
      rw [Audio.encode_wavEnd_eq (T := F32), Codec.deserialize_encode] at decoded
      cases decoded

end ClientRun

/-! ## The files of the server -/

namespace AudioServer

/-- What any of the handlers does to the world outside. -/
def Output.anyEffect : Output → Option Effect
  | effect _ done => some done
  | _ => none

/-- What the run of a server owes to its surroundings: the datagrams of the bound
addresses were sent by their clients, in whatever order and number they arrive,
and the disk works. -/
structure Delivered (clients : SocketAddr → ClientRun) (final : AudioServer)
    (inputs : List Input) : Prop where
  sent : ∀ packet : UdpStream, .udpStream packet ∈ inputs → packet.clientAddr ∈ final.writers →
    ∃ audio ∈ (clients packet.clientAddr).sent, packet.buf = Audio.codec.encode audio
  disk : ∀ writer hound, .work writer hound ∈ inputs → hound.Succeeds
  signed : ∀ clientAddr ∈ final.writers, (clients clientAddr).spec.sampleFormat ≠ .u16

/-- The bound clients draw different identifiers, and no counter of chunks
overflows. -/
structure Distinct (clients : SocketAddr → ClientRun) (final : AudioServer) : Prop where
  fresh : ∀ clientAddr ∈ final.writers, (clients clientAddr).drawnIds.Nodup
  apart : ∀ clientAddr ∈ final.writers, ∀ other ∈ final.writers, clientAddr ≠ other →
    (clients clientAddr).drawnIds.Disjoint (clients other).drawnIds
  few : ∀ clientAddr ∈ final.writers, ∀ id,
    ((clients clientAddr).recording id).length < 2 ^ 32

section Files

variable {clients : SocketAddr → ClientRun} {final : AudioServer} {inputs : List Input}
  {outputs : List Output} {clientAddr : SocketAddr} {writer : Nat} {wavDirectory : PathBuf}

theorem Input.eq_work_of_houndOf {input : Input} {hound : Hound}
    (met : input.houndOf writer = some hound) : input = .work writer hound := by
  cases input with
  | work other outcomes =>
      simp only [houndOf, Option.ite_none_right_eq_some, Option.some.injEq] at met
      rw [met.1, met.2]
  | _ => cases met

theorem Input.eq_udpStream_of_bufFrom {input : Input} {buf : Bytes}
    (brought : input.bufFrom clientAddr = some buf) : input = .udpStream ⟨buf, clientAddr⟩ := by
  cases input with
  | udpStream packet =>
      simp only [bufFrom, Option.ite_none_right_eq_some, Option.some.injEq] at brought
      rw [← brought.1, ← brought.2]
  | _ => cases brought

/-- The run of a bound handler is one on messages of its client, in the format of
its client. -/
theorem Routed.exists_run (routed : Routed final inputs outputs clientAddr writer)
    (delivered : Delivered clients final inputs) (bound : clientAddr ∈ final.writers) :
    ∃ (deviceId : Uuid) (messages : List AudioBytes),
      (run AudioHandler.handle
          (AudioHandler.new final.wavDirectory (clients clientAddr).spec deviceId)
          messages).2 = outputs.filterMap (Output.effectOf writer) ∧
        ∀ message ∈ messages, message.hound.Succeeds ∧
          ∃ audio ∈ (clients clientAddr).sent, message.buf = Audio.codec.encode audio := by
  rcases routed with ⟨spec, device, before, after, messages, actor, split, pending, found, taken,
    queued, turns⟩
  have fromClient : ∀ buf, .udpStream ⟨buf, clientAddr⟩ ∈ inputs →
      ∃ audio ∈ (clients clientAddr).sent, buf = Audio.codec.encode audio :=
    fun buf received => delivered.sent ⟨buf, clientAddr⟩ received bound
  have specEq : spec = (clients clientAddr).spec := by
    rcases pending with ⟨front, buf, secret, last, decoded, selected⟩
    have asked : .udpStream ⟨buf, clientAddr⟩ ∈ before.filter Input.isOwn := by
      rw [last]
      exact List.mem_append_right _ List.mem_cons_self
    have received : .udpStream ⟨buf, clientAddr⟩ ∈ inputs := by
      rw [split]
      exact List.mem_append_left _ (List.mem_of_mem_filter asked)
    rcases fromClient buf received with ⟨audio, isSent, rfl⟩
    exact (ClientRun.eq_spec_of_deserialize isSent decoded).2
  subst specEq
  refine ⟨device.id, messages, congrArg Prod.snd taken, ?_⟩
  intro message member
  have later : ∀ input ∈ after, input ∈ inputs := by
    intro input inside
    rw [split]
    exact List.mem_append_right _ (List.mem_cons_of_mem _ inside)
  constructor
  · have turn := List.mem_map_of_mem (f := AudioBytes.hound) member
    rw [turns] at turn
    rcases List.mem_filterMap.mp turn with ⟨input, inside, met⟩
    rw [Input.eq_work_of_houndOf met] at inside
    exact delivered.disk writer message.hound (later _ inside)
  · have taken := List.mem_append_left actor.mailbox
      (List.mem_map_of_mem (f := AudioBytes.buf) member)
    rw [queued] at taken
    rcases List.mem_filterMap.mp taken with ⟨input, inside, brought⟩
    rw [Input.eq_udpStream_of_bufFrom brought] at inside
    exact fromClient message.buf (later _ inside)

/-- A bound handler works on no file but those of its client's identifiers. -/
theorem file_of_effectOf (routed : Routed final inputs outputs clientAddr writer)
    (delivered : Delivered clients final inputs) (bound : clientAddr ∈ final.writers)
    {effect : Effect} (member : .effect writer effect ∈ outputs) {path : PathBuf}
    (isFile : effect.file = some path) :
    ∃ id ∈ (clients clientAddr).drawnIds,
      path = final.wavDirectory ++ [AudioWriter.wavFile id] := by
  rcases routed.exists_run delivered bound with ⟨deviceId, messages, effectsEq, fromClient⟩
  have own : effect ∈ outputs.filterMap (Output.effectOf writer) :=
    List.mem_filterMap.mpr ⟨_, member, if_pos rfl⟩
  rw [← effectsEq] at own
  rcases AudioHandler.file_of_messages rfl fromClient own isFile with
    ⟨audio, isSent, id, named, pathEq⟩
  refine ⟨id, ClientRun.id_mem_drawnIds isSent named, ?_⟩
  rw [pathEq, AudioHandler.wavPath_eq]
  rfl

/-- What one handler alone writes to a file is what all of them do. -/
theorem foldl_extend_anyEffect {path : PathBuf}
    (elsewhere : ∀ other effect, .effect other effect ∈ outputs → other ≠ writer →
      effect.file ≠ some path) (chunks : Option (List (UInt32 × List WavSample))) :
    (outputs.filterMap Output.anyEffect).foldl (Effect.extend path) chunks =
      (outputs.filterMap (Output.effectOf writer)).foldl (Effect.extend path) chunks := by
  induction outputs generalizing chunks with
  | nil => rfl
  | cons output outputs ih =>
      have rest := ih fun other effect member =>
        elsewhere other effect (List.mem_cons_of_mem _ member)
      cases output with
      | effect other done =>
          by_cases same : other = writer
          · have own : Output.effectOf writer (.effect other done) = some done := if_pos same
            rw [List.filterMap_cons_some own,
              List.filterMap_cons_some (rfl : Output.anyEffect (.effect other done) = some done)]
            exact rest _
          · have foreign : Output.effectOf writer (.effect other done) = none := if_neg same
            rw [List.filterMap_cons_none foreign,
              List.filterMap_cons_some (rfl : Output.anyEffect (.effect other done) = some done),
              List.foldl_cons, extend_of_file_ne (elsewhere other done List.mem_cons_self same)]
            exact rest _
      | _ => exact rest chunks

end Files

/-- A client that hears two payloads of loud samples. -/
def desk : ClientRun where
  newV4 := Uuid.ofNat
  serverAddress := .v4 2130706433 3003
  secret := 1
  spec := ⟨1, 44100, 16, .i16⟩
  openThreshold := (100 : Int16)
  releaseSampleCount := 0
  belowThreshold sample threshold := decide ((sample : Int16) < threshold)
  inputs := [.started,
    .payload ⟨List.replicate wavChunkPayloadSize (200 : Int16), List.length_replicate⟩,
    .payload ⟨List.replicate wavChunkPayloadSize (300 : Int16), List.length_replicate⟩]

/-- The client announces itself, and one of its chunks arrives. -/
def deskRun (chunk : WavChunk (SampleFormat.Carrier .i16)) : List Input :=
  [.udpStream ⟨Audio.codec.encode (.spec desk.secret desk.spec : Audio Int16), .v4 1 3003⟩,
    .reply (.ok (.ok ⟨.ofNat 1, "desk", ""⟩)),
    .udpStream ⟨Audio.codec.encode (.wavChunk chunk), .v4 1 3003⟩,
    .work 0 (.working ⟨0, 0⟩)]

/-- The server after the first two inputs. -/
def deskBound : AudioServer :=
  (new ["wav"]).insert (.v4 1 3003) (AudioHandler.new ["wav"] desk.spec (.ofNat 1))

theorem guardedRun_deskRun {chunk : WavChunk (SampleFormat.Carrier .i16)}
    (numbered : chunk.seq = 1) :
    ∃ final outputs, guardedRun serve (new ["wav"]) (deskRun chunk) = some (final, outputs) ∧
      final.writers = deskBound.writers ∧
      chunksWritten (["wav"] ++ [AudioWriter.wavFile chunk.id])
          (outputs.filterMap Output.anyEffect) =
        some [(1, AudioHandler.chunkSamples chunk)] := by
  have decoded : Audio.codec.deserialize (α := Audio F32)
      (Audio.codec.encode (.spec desk.secret desk.spec : Audio Int16)) =
        some (.spec desk.secret desk.spec) := by
    rw [Audio.encode_spec_eq (T := F32), Codec.deserialize_encode]
  have newer : (0 : UInt32) < chunk.seq := by
    rw [numbered]
    decide
  have unknown : (AudioHandler.new ["wav"] desk.spec (.ofNat 1)).writers.lookup chunk.id = none :=
    AList.lookup_empty _
  have formatEq : (AudioHandler.new ["wav"] desk.spec (.ofNat 1)).spec.sampleFormat = .i16 := rfl
  have handled := AudioHandler.handle_chunk_of_unknown formatEq (.working ⟨0, 0⟩) chunk unknown
    rfl
  rw [AudioWriter.write_of_lt .i16 (Hound.succeeds_working _) nofun rfl newer] at handled
  have announced : serve (new ["wav"])
      (.udpStream ⟨Audio.codec.encode (.spec desk.secret desk.spec : Audio Int16),
        .v4 1 3003⟩) =
      some ({ new ["wav"] with waiting := some (.v4 1 3003, desk.spec) },
        [.select desk.secret]) := by
    simp [serve, handle, new, decoded]
  have resolved : serve { new ["wav"] with waiting := some (.v4 1 3003, desk.spec) }
      (.reply (.ok (.ok ⟨.ofNat 1, "desk", ""⟩))) =
      some (deskBound, [.start (.v4 1 3003) 0]) := rfl
  have forwarded : serve deskBound
      (.udpStream ⟨Audio.codec.encode (.wavChunk chunk), .v4 1 3003⟩) =
      some (deskBound.doSend 0 (Audio.codec.encode (.wavChunk chunk)),
        [.doSend 0 (Audio.codec.encode (.wavChunk chunk))]) := rfl
  have worked : serve (deskBound.doSend 0 (Audio.codec.encode (.wavChunk chunk)))
      (.work 0 (.working ⟨0, 0⟩)) =
      some
        ({ deskBound with
            handlers := [⟨((AudioHandler.new ["wav"] desk.spec (.ofNat 1)).handle
              (.ofAudio (.working ⟨0, 0⟩) (.wavChunk chunk))).1, []⟩] },
          ((AudioHandler.new ["wav"] desk.spec (.ofNat 1)).handle
            (.ofAudio (.working ⟨0, 0⟩) (.wavChunk chunk))).2.map (.effect 0)) := rfl
  generalize (AudioHandler.new ["wav"] desk.spec (.ofNat 1)).handle
    (.ofAudio (.working ⟨0, 0⟩) (.wavChunk chunk)) = taken at handled worked
  have reached : guardedRun serve (new ["wav"]) (deskRun chunk) =
      some ({ deskBound with handlers := [⟨taken.1, []⟩] },
        [.select desk.secret, .start (.v4 1 3003) 0,
          .doSend 0 (Audio.codec.encode (.wavChunk chunk))] ++
            taken.2.map (.effect 0)) := by
    simp [deskRun, guardedRun, announced, resolved, forwarded, worked]
  refine ⟨_, _, reached, rfl, ?_⟩
  rw [handled]
  simp [Output.anyEffect, chunksWritten, List.filterMap_cons, Effect.extend,
    AudioHandler.wavPath_eq, numbered, AudioHandler.new, AudioHandler.chunkSamples]

/-- The second chunk of the client. -/
theorem exists_chunk_desk :
    ∃ chunk, .wavChunk chunk ∈ desk.sent ∧ chunk.id = .ofNat 0 ∧ chunk.seq = 1 := by
  have computed : desk.sent.map Audio.datagram =
      [.other, .chunk (.ofNat 0) 0, .chunk (.ofNat 0) 1] := by
    decide +kernel
  have member : Datagram.chunk (.ofNat 0) 1 ∈ desk.sent.map Audio.datagram := by
    rw [computed]
    decide
  rcases List.mem_map.mp member with ⟨audio, isSent, isChunk⟩
  cases audio with
  | wavChunk chunk =>
      injection isChunk with idEq numbered
      exact ⟨chunk, isSent, idEq, numbered⟩
  | _ => cases isChunk

/-- The client has closed no transmission, so it has drawn one identifier. -/
theorem drawnIds_desk : desk.drawnIds = [.ofNat 0] := by
  have computed : (run (AudioSink.react desk.newV4)
      (AudioSink.new desk.newV4 desk.secret desk.spec) desk.calls).2.countP Audio.isWavEnd = 0 := by
    decide +kernel
  rcases AudioSink.framed_run desk.newV4 desk.secret desk.spec desk.calls with
    ⟨closed, unfinished, framed⟩
  have noneClosed : closed = [] := by
    cases closed with
    | nil => rfl
    | cons transmission closed =>
        have ended := framed.sent_eq ▸ List.countP_eq_zero.mp computed
        apply absurd rfl (ended (.wavEnd transmission.id) _)
        simp [Transmission.messages]
  have ids := framed.ids_eq
  rw [noneClosed] at ids
  have count := congrArg List.length ids
  simp only [List.map_nil, List.nil_append, List.length_singleton, List.length_map,
    List.length_range] at count
  rw [ClientRun.drawnIds, AudioSink.drawnIds, ← count]
  rfl

theorem length_recording_desk (id : Uuid) : (desk.recording id).length < 2 ^ 32 :=
  calc
    (desk.recording id).length ≤ _ := List.length_filter_le _ _
    _ < 2 ^ 32 := by decide +kernel

end AudioServer

end Bug
