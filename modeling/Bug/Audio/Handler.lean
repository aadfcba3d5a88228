import Bug.Audio.Codec
import Bug.Audio.Writer
import Bug.Primitive.Table
import Bug.Transition.Run

/-!
# The audio handler of one device

The handler decodes every datagram of its device, opens a writer at the first
chunk of an unknown identifier, appends chunks in increasing sequence order and
turns the writer into a sound event at the end marker.  `HandlerStep` lists
everything that one datagram can do; the invariants of whole runs are derived
from it.
-/

namespace Bug

open Bug.Db
open Bug.Encoding
open Bug.Transition

structure AudioHandler where
  writers : AList fun _ : Uuid => AudioWriter
  wavDirectory : PathBuf
  spec : Spec
  deviceId : Uuid

/-- One datagram and the outcomes its handling meets. -/
structure AudioBytes where
  buf : Bytes
  hound : Hound

/-- The datagram that carries a message. -/
def AudioBytes.ofAudio {S : Type} [Sample S] (hound : Hound) (audio : Audio S) : AudioBytes where
  buf := Audio.codec.encode audio
  hound := hound

/-- The stem of a file name: what stands before its last dot, unless nothing
does. -/
def fileStem (name : List Char) : List Char :=
  let stem := ((name.reverse.dropWhile (· ≠ '.')).drop 1).reverse
  if '.' ∉ name ∨ stem = [] ∨ name = ['.', '.'] then name else stem

namespace AudioHandler

def new (wavDirectory : PathBuf) (spec : Spec) (deviceId : Uuid) : AudioHandler where
  writers := ∅
  wavDirectory := wavDirectory
  spec := spec
  deviceId := deviceId

/-- The directory, the identifier, and the extension set on it. -/
def wavPath (handler : AudioHandler) (id : Uuid) : PathBuf :=
  handler.wavDirectory ++ [String.ofList (fileStem (toString id).toList) ++ ".wav"]

def put (handler : AudioHandler) (id : Uuid) (writer : AudioWriter) : AudioHandler :=
  { handler with writers := handler.writers.insert id writer }

def remove (handler : AudioHandler) (id : Uuid) : AudioHandler :=
  { handler with writers := handler.writers.erase id }

def finalizeWriter (hound : Hound) (writer : AudioWriter) :
    List Effect × Except WriteError Unit :=
  match writer.finalizeAsNewEvent hound with
  | (effects, .ok event) => (effects ++ [.send event], .ok ())
  | (effects, .error error) => (effects, .error error)

variable {S : Type} [Sample S]

def write (tryInto : S → Option WavSample) (hound : Hound) (handler : AudioHandler)
    (buf : Bytes) : AudioHandler × List Effect × Except WriteError Unit :=
  match Audio.codec.deserialize (α := Audio S) buf with
  | none => (handler, [], .error .deserialize)
  | some (.wavChunk wavChunk) =>
      let opened : AudioHandler × List Effect × Except WriteError AudioWriter :=
        match handler.writers.lookup wavChunk.id with
        | some writer => (handler, [], .ok writer)
        | none =>
            match AudioWriter.new hound wavChunk.id (handler.wavPath wavChunk.id)
                handler.spec.toWavSpec handler.deviceId with
            | (effects, .ok writer) => (handler.put wavChunk.id writer, effects, .ok writer)
            | (effects, .error error) => (handler, effects, .error error)
      match opened with
      | (handler, effects, .ok writer) =>
          let (writer, written, result) := writer.write tryInto hound wavChunk
          (handler.put wavChunk.id writer, effects ++ written, result)
      | (handler, effects, .error error) => (handler, effects, .error error)
  | some (.wavEnd id) =>
      match handler.writers.lookup id with
      | some writer =>
          let (effects, result) := finalizeWriter hound writer
          (handler.remove id, effects, result)
      | none => (handler, [], .ok ())
  | some _ => (handler, [], .ok ())

/-- The message handler: dispatch on the announced format and drop the error
after logging it. -/
def handle : Reaction AudioHandler AudioBytes Effect
  | handler, message =>
      let outcome :=
        match handler.spec.sampleFormat with
        | .u16 => handler.write (SampleFormat.tryInto .u16) message.hound message.buf
        | .i16 => handler.write (SampleFormat.tryInto .i16) message.hound message.buf
        | .f32 => handler.write (SampleFormat.tryInto .f32) message.hound message.buf
      (outcome.1, outcome.2.1)

/-- The effects of `finalize_all` when the writers are drained in the given
order. -/
def finalizeAll (hound : Hound) (drained : List (Σ _ : Uuid, AudioWriter)) : List Effect :=
  drained.flatMap fun entry => (finalizeWriter hound entry.2).1

theorem handle_eq (handler : AudioHandler) (message : AudioBytes) :
    handler.handle message =
      let outcome := handler.write handler.spec.sampleFormat.tryInto message.hound message.buf
      (outcome.1, outcome.2.1) := by
  rcases handler with ⟨writers, wavDirectory, ⟨channels, sampleRate, bits, format⟩, deviceId⟩
  cases format <;> rfl

/-! ## Paths -/

/-- An identifier has no dot, so setting the extension only appends it, and a
recording lies under the name that its event reports. -/
theorem wavPath_eq (handler : AudioHandler) (id : Uuid) :
    handler.wavPath id = handler.wavDirectory ++ [AudioWriter.wavFile id] := by
  have chars : (toString id).toList = id.toChars := String.toList_ofList
  have undotted : '.' ∉ (toString id).toList := by
    rw [chars]
    exact id.dot_notMem_toChars
  rw [wavPath, fileStem, if_pos (Or.inl undotted), String.ofList_toList]
  rfl

theorem wavPath_injective (handler : AudioHandler) : Function.Injective handler.wavPath := by
  intro left right equal
  rw [wavPath_eq, wavPath_eq] at equal
  exact AudioWriter.wavFile_injective (List.singleton_inj.mp (List.append_cancel_left equal))

/-! ## What one datagram can do -/

@[simp]
theorem put_spec (handler : AudioHandler) (id : Uuid) (writer : AudioWriter) :
    (handler.put id writer).spec = handler.spec :=
  rfl

@[simp]
theorem put_put (handler : AudioHandler) (id : Uuid) (first second : AudioWriter) :
    (handler.put id first).put id second = handler.put id second := by
  simp [put, AList.insert_insert]

end AudioHandler

/-- The identifier and the number under which a datagram asks for work. -/
inductive Datagram where
  | chunk (id : Uuid) (seq : UInt32)
  | wavEnd (id : Uuid)
  | other
  deriving DecidableEq

namespace Datagram

def id : Datagram → Option Uuid
  | chunk id _ => some id
  | wavEnd id => some id
  | other => none

end Datagram

def Audio.datagram {S : Type} : Audio S → Datagram
  | .wavChunk chunk => .chunk chunk.id chunk.seq
  | .wavEnd id => .wavEnd id
  | _ => .other

namespace AudioHandler

/-- What a datagram is to a handler of the given sample format. -/
def datagram (format : SampleFormat) (message : AudioBytes) : Datagram :=
  match Audio.codec.deserialize (α := Audio format.Carrier) message.buf with
  | some audio => audio.datagram
  | none => .other

theorem datagram_ofAudio (format : SampleFormat) (hound : Hound)
    (audio : Audio format.Carrier) : datagram format (.ofAudio hound audio) = audio.datagram := by
  rw [datagram, AudioBytes.ofAudio, Codec.deserialize_encode]

/-- The writer that `AudioWriter::new` returns when the file was created. -/
def freshWriter (hound : Hound) (handler : AudioHandler) (id : Uuid) : AudioWriter where
  inner := some ⟨handler.wavPath id, handler.spec.toWavSpec⟩
  id := id
  seq := 0
  startedAt := hound.now id
  deviceId := handler.deviceId

/-- The writer that a chunk is handed to, and the effects of opening it. -/
inductive Opened (hound : Hound) (handler : AudioHandler) (id : Uuid) :
    AudioWriter → List Effect → Prop
  | existing {writer : AudioWriter} : handler.writers.lookup id = some writer →
      Opened hound handler id writer []
  | created : handler.writers.lookup id = none → hound.create = .created →
      Opened hound handler id (handler.freshWriter hound id)
        [.create (handler.wavPath id) handler.spec.toWavSpec]

/-- What `AudioWriter::write` does with the chunk numbered `seq`. -/
inductive Written (hound : Hound) (format : SampleFormat) (seq : UInt32)
    (writer : AudioWriter) : AudioWriter → List Effect → Prop
  | stale : ¬ writer.seq < seq → Written hound format seq writer writer []
  | finalized : writer.inner = none → Written hound format seq writer writer []
  | whole {inner : WavWriter} {samples : List WavSample} : writer.inner = some inner →
      writer.seq < seq →
      Written hound format seq writer { writer with seq := seq }
        [.append inner.path seq samples]
  | cut {inner : WavWriter} {samples : List WavSample} : writer.inner = some inner →
      writer.seq < seq → (hound.Succeeds → format = .u16) →
      Written hound format seq writer writer [.append inner.path seq samples]

/-- What the finalisation of a writer does. -/
inductive Finalized (hound : Hound) (writer : AudioWriter) : List Effect → Prop
  | sent {inner : WavWriter} {event : NewEvent} : writer.inner = some inner →
      event.payload = .sound (AudioWriter.wavFile writer.id) →
      Finalized hound writer [.finalize inner.path, .send event]
  | failed {inner : WavWriter} : writer.inner = some inner → ¬ hound.Succeeds →
      Finalized hound writer [.finalize inner.path]
  | finalized : writer.inner = none → Finalized hound writer []

/-- Everything that one datagram can do to the handler and to the world. -/
inductive HandlerStep (hound : Hound) (handler : AudioHandler) :
    Datagram → AudioHandler → List Effect → Prop
  | ignored {datagram : Datagram} : (∀ id seq, datagram ≠ .chunk id seq) →
      (∀ id, datagram = .wavEnd id → handler.writers.lookup id = none) →
      HandlerStep hound handler datagram handler []
  | refused {id : Uuid} {seq : UInt32} {effects : List Effect} :
      handler.writers.lookup id = none → hound.create ≠ .created →
      (∀ effect ∈ effects, effect = .create (handler.wavPath id) handler.spec.toWavSpec) →
      HandlerStep hound handler (.chunk id seq) handler effects
  | chunk {id : Uuid} {seq : UInt32} {writer after : AudioWriter}
      {opened written : List Effect} :
      Opened hound handler id writer opened →
      Written hound handler.spec.sampleFormat seq writer after written →
      HandlerStep hound handler (.chunk id seq) (handler.put id after) (opened ++ written)
  | ended {id : Uuid} {writer : AudioWriter} {effects : List Effect} :
      handler.writers.lookup id = some writer → Finalized hound writer effects →
      HandlerStep hound handler (.wavEnd id) (handler.remove id) effects

theorem written_write (hound : Hound) (format : SampleFormat) (writer : AudioWriter)
    (chunk : WavChunk format.Carrier) :
    Written hound format chunk.seq writer (writer.write format.tryInto hound chunk).1
      (writer.write format.tryInto hound chunk).2.1 := by
  unfold AudioWriter.write
  split
  · rename_i inner innerEq
    split
    · rename_i newer
      split
      · exact .whole innerEq newer
      · rename_i samples error loop
        refine .cut innerEq newer fun succeeds => ?_
        by_contra signed
        rw [AudioWriter.writeSamples_of_accepts succeeds.writeSample_eq 0 _
          fun sample _ => SampleFormat.isSome_tryInto signed sample] at loop
        cases loop
    · rename_i notNewer
      exact .stale notNewer
  · rename_i innerEq
    exact .finalized innerEq

theorem finalized_finalizeWriter (hound : Hound) (writer : AudioWriter) :
    Finalized hound writer (finalizeWriter hound writer).1 := by
  unfold finalizeWriter AudioWriter.finalizeAsNewEvent
  cases innerEq : writer.inner with
  | none => exact .finalized innerEq
  | some inner =>
      cases finalizes : hound.finalize writer.id with
      | true => exact .sent innerEq rfl
      | false =>
          refine .failed innerEq fun succeeds => ?_
          rw [succeeds.finalize_eq] at finalizes
          cases finalizes

/-- An open writer is announced when `hound` does its part. -/
theorem finalizeWriter_of_succeeds {hound : Hound} (succeeds : hound.Succeeds)
    {writer : AudioWriter} {inner : WavWriter} (isOpen : writer.inner = some inner) :
    ∃ event : NewEvent, event.payload = .sound (AudioWriter.wavFile writer.id) ∧
      (finalizeWriter hound writer).1 = [.finalize inner.path, .send event] := by
  have finalized := finalized_finalizeWriter hound writer
  generalize (finalizeWriter hound writer).1 = effects at finalized ⊢
  cases finalized with
  | sent innerSome named =>
      cases innerSome.symm.trans isOpen
      exact ⟨_, named, rfl⟩
  | failed innerSome fails => exact absurd succeeds fails
  | finalized innerNone => cases innerNone.symm.trans isOpen

/-! ## Single messages -/

section Messages

variable {handler : AudioHandler} {format : SampleFormat}
  (formatEq : handler.spec.sampleFormat = format) (hound : Hound)
  (chunk : WavChunk format.Carrier)

include formatEq

/-- The first chunk of an unknown identifier opens its writer. -/
theorem handle_chunk_of_unknown (unknown : handler.writers.lookup chunk.id = none)
    (creates : hound.create = .created) :
    handler.handle (.ofAudio hound (.wavChunk chunk)) =
      let outcome := (handler.freshWriter hound chunk.id).write format.tryInto hound chunk
      (handler.put chunk.id outcome.1,
        .create (handler.wavPath chunk.id) handler.spec.toWavSpec :: outcome.2.1) := by
  subst formatEq
  rw [handle_eq]
  simp only [write, AudioBytes.ofAudio, Codec.deserialize_encode, unknown, AudioWriter.new,
    creates, put_put]
  rfl

theorem handle_chunk_of_known {writer : AudioWriter}
    (known : handler.writers.lookup chunk.id = some writer) :
    handler.handle (.ofAudio hound (.wavChunk chunk)) =
      let outcome := writer.write format.tryInto hound chunk
      (handler.put chunk.id outcome.1, outcome.2.1) := by
  subst formatEq
  rw [handle_eq]
  simp only [write, AudioBytes.ofAudio, Codec.deserialize_encode, known, List.nil_append]

theorem handle_wavEnd_of_known {id : Uuid} {writer : AudioWriter}
    (known : handler.writers.lookup id = some writer) :
    handler.handle (.ofAudio hound (.wavEnd id : Audio format.Carrier)) =
      (handler.remove id, (finalizeWriter hound writer).1) := by
  subst formatEq
  rw [handle_eq]
  simp only [write, AudioBytes.ofAudio, Codec.deserialize_encode, known]

end Messages

/-- One datagram does nothing but what `HandlerStep` lists. -/
theorem handlerStep_handle (handler : AudioHandler) (message : AudioBytes) :
    HandlerStep message.hound handler (datagram handler.spec.sampleFormat message)
      (handler.handle message).1 (handler.handle message).2 := by
  rw [handle_eq]
  cases decoded : Audio.codec.deserialize (α := Audio handler.spec.sampleFormat.Carrier)
      message.buf with
  | none =>
      simp only [write, datagram, decoded]
      exact .ignored (by simp) (by simp)
  | some audio =>
      simp only [write, datagram, decoded]
      cases audio with
      | handshake => exact .ignored (by simp [Audio.datagram]) (by simp [Audio.datagram])
      | spec secret spec => exact .ignored (by simp [Audio.datagram]) (by simp [Audio.datagram])
      | wavChunk chunk =>
          cases known : handler.writers.lookup chunk.id with
          | some writer =>
              simp only [known]
              exact .chunk (.existing known) (written_write message.hound _ writer chunk)
          | none =>
              cases creates : message.hound.create with
              | created =>
                  simp only [known, AudioWriter.new, creates, put_put]
                  exact .chunk (.created known creates) (written_write message.hound _ _ chunk)
              | refused =>
                  simp only [known, AudioWriter.new, creates]
                  exact .refused known (fun created => nomatch creates.symm.trans created) nofun
              | headerFailed =>
                  simp only [known, AudioWriter.new, creates]
                  exact .refused known (fun created => nomatch creates.symm.trans created)
                    fun effect member => List.mem_singleton.mp member
      | wavEnd id =>
          cases known : handler.writers.lookup id with
          | some writer =>
              simp only [known]
              exact .ended known (finalized_finalizeWriter message.hound writer)
          | none =>
              simp only [known]
              refine .ignored nofun ?_
              intro other isEnd
              cases isEnd
              exact known

/-- No message changes the format or the device of a handler. -/
theorem HandlerStep.keeps {hound : Hound} {handler after : AudioHandler} {datagram : Datagram}
    {effects : List Effect} (step : HandlerStep hound handler datagram after effects) :
    after.spec = handler.spec ∧ after.deviceId = handler.deviceId := by
  cases step with
  | ignored => exact ⟨rfl, rfl⟩
  | refused => exact ⟨rfl, rfl⟩
  | chunk opened written => exact ⟨rfl, rfl⟩
  | ended known finalized => exact ⟨rfl, rfl⟩

end AudioHandler

end Bug
