import Bug.Audio.Message
import Bug.Db.Event

/-!
# Recordings on disk

An `AudioWriter` owns the WAV file of one transmission.  What it does to the
file system and to the event processor is a list of effects, and the contents
of the files are the meaning of those effects.  The outcomes of the `hound`
calls are inputs: each message is handled against the outcomes that its own
calls meet.
-/

namespace Bug

open Bug.Db

/-- A path as its components. -/
abbrev PathBuf := List String

/-- The sample types of `hound` that the server writes. -/
inductive WavSample where
  | int (value : Int16)
  | float (value : F32)
  deriving DecidableEq

inductive WavSampleFormat where
  | int
  | float
  deriving DecidableEq

structure WavSpec where
  channels : UInt16
  sampleRate : UInt32
  bitsPerSample : UInt16
  sampleFormat : WavSampleFormat
  deriving DecidableEq

namespace SampleFormat

def toWavSampleFormat : SampleFormat → WavSampleFormat
  | u16 => .int
  | i16 => .int
  | f32 => .float

/-- The `try_into` of the pair of sample types that each format is written
with: unsigned samples are narrowed to `i16`, the others are kept. -/
def tryInto : (format : SampleFormat) → format.Carrier → Option WavSample
  | u16, sample => if sample ≤ 32767 then some (.int sample.toInt16) else none
  | i16, sample => some (.int sample)
  | f32, sample => some (.float sample)

theorem isSome_tryInto {format : SampleFormat} (signed : format ≠ u16)
    (sample : format.Carrier) : (format.tryInto sample).isSome := by
  cases format with
  | u16 => exact absurd rfl signed
  | i16 => rfl
  | f32 => rfl

end SampleFormat

def Spec.toWavSpec (spec : Spec) : WavSpec where
  channels := spec.channels
  sampleRate := spec.sampleRate
  bitsPerSample := spec.bitsPerSample
  sampleFormat := spec.sampleFormat.toWavSampleFormat

/-- How `WavWriter::create` can end: the file is truncated before the header is
written, so a failure may or may not have touched it. -/
inductive CreateOutcome where
  | created
  | refused
  | headerFailed
  deriving DecidableEq

/-- The outcomes that the calls to `hound` and to the clock meet while one
message is handled. -/
structure Hound where
  create : CreateOutcome
  /-- Whether the given `write_sample` call of the message succeeds. -/
  writeSample : Nat → Bool
  finalize : Uuid → Bool
  now : Uuid → DateTime

/-- Every call to `hound` succeeds. -/
structure Hound.Succeeds (hound : Hound) : Prop where
  create_eq : hound.create = .created
  writeSample_eq : ∀ index, hound.writeSample index = true
  finalize_eq : ∀ id, hound.finalize id = true

/-- The `hound` of a host with a working disk. -/
def Hound.working (now : DateTime) : Hound where
  create := .created
  writeSample _ := true
  finalize _ := true
  now _ := now

theorem Hound.succeeds_working (now : DateTime) : (Hound.working now).Succeeds :=
  ⟨rfl, fun _ => rfl, fun _ => rfl⟩

inductive WriteError where
  | deserialize
  | create
  | tryInto
  | writeSample
  | finalize
  | finalized
  deriving DecidableEq

/-- What the audio handler does to the world outside. -/
inductive Effect where
  | create (path : PathBuf) (spec : WavSpec)
  /-- The samples of the chunk `seq` that were accepted by `write_sample`. -/
  | append (path : PathBuf) (seq : UInt32) (samples : List WavSample)
  | finalize (path : PathBuf)
  | send (event : NewEvent)
  deriving DecidableEq

/-- The samples in each WAV file. -/
abbrev FileSystem := PathBuf → Option (List WavSample)

namespace FileSystem

def apply (files : FileSystem) : Effect → FileSystem
  | .create path _ => Function.update files path (some [])
  | .append path _ samples => Function.update files path ((files path).map (· ++ samples))
  | _ => files

def applyAll (files : FileSystem) (effects : List Effect) : FileSystem :=
  effects.foldl apply files

@[simp]
theorem applyAll_nil (files : FileSystem) : files.applyAll [] = files :=
  rfl

@[simp]
theorem applyAll_cons (files : FileSystem) (effect : Effect) (effects : List Effect) :
    files.applyAll (effect :: effects) = (files.apply effect).applyAll effects :=
  rfl

@[simp]
theorem applyAll_append (files : FileSystem) (first second : List Effect) :
    files.applyAll (first ++ second) = (files.applyAll first).applyAll second :=
  List.foldl_append

end FileSystem

structure WavWriter where
  path : PathBuf
  spec : WavSpec
  deriving DecidableEq

structure AudioWriter where
  inner : Option WavWriter
  id : Uuid
  seq : UInt32
  startedAt : DateTime
  deviceId : Uuid
  deriving DecidableEq

namespace AudioWriter

variable {S : Type}

def new (hound : Hound) (id : Uuid) (filepath : PathBuf) (spec : WavSpec) (deviceId : Uuid) :
    List Effect × Except WriteError AudioWriter :=
  match hound.create with
  | .created =>
      ([.create filepath spec],
        .ok {
          inner := some ⟨filepath, spec⟩
          id := id
          seq := 0
          startedAt := hound.now id
          deviceId := deviceId })
  | .refused => ([], .error .create)
  | .headerFailed => ([.create filepath spec], .error .create)

/-- The sample loop of `write`, from the given `write_sample` call on: the
samples accepted before the loop ended, and how it ended. -/
def writeSamples (tryInto : S → Option WavSample) (accepts : Nat → Bool) :
    Nat → List S → List WavSample × Except WriteError Unit
  | _, [] => ([], .ok ())
  | index, sample :: samples =>
      match tryInto sample with
      | none => ([], .error .tryInto)
      | some value =>
          if accepts index then
            let (values, result) := writeSamples tryInto accepts (index + 1) samples
            (value :: values, result)
          else
            ([], .error .writeSample)

def write (tryInto : S → Option WavSample) (hound : Hound) (writer : AudioWriter)
    (wavChunk : WavChunk S) : AudioWriter × List Effect × Except WriteError Unit :=
  match writer.inner with
  | some inner =>
      if writer.seq < wavChunk.seq then
        match writeSamples tryInto hound.writeSample 0 wavChunk.payload.samples with
        | (samples, .ok ()) =>
            ({ writer with seq := wavChunk.seq },
              [.append inner.path wavChunk.seq samples], .ok ())
        | (samples, .error error) =>
            (writer, [.append inner.path wavChunk.seq samples], .error error)
      else
        (writer, [], .ok ())
  | none => (writer, [], .error .finalized)

/-- The name under which a recording is reported. -/
def wavFile (id : Uuid) : String :=
  toString id ++ ".wav"

theorem wavFile_injective : Function.Injective wavFile := by
  intro left right equal
  have chars := congrArg String.toList equal
  rw [wavFile, wavFile, String.toList_append, String.toList_append] at chars
  exact Uuid.toString_injective (String.toList_injective (List.append_cancel_right chars))

def finalizeAsNewEvent (hound : Hound) (writer : AudioWriter) :
    List Effect × Except WriteError NewEvent :=
  match writer.inner with
  | some inner =>
      if hound.finalize writer.id then
        ([.finalize inner.path],
          .ok {
            kind := .sound
            payload := .sound (wavFile writer.id)
            startedAt := writer.startedAt
            endedAt := hound.now writer.id
            deviceId := writer.deviceId })
      else
        ([.finalize inner.path], .error .finalize)
  | none => ([], .error .finalized)

/-! ## The sample loop -/

/-- A loop that ends well has converted and written every sample. -/
theorem writeSamples_eq_ok {tryInto : S → Option WavSample} {accepts : Nat → Bool}
    {index : Nat} {samples : List S} {values : List WavSample}
    (written : writeSamples tryInto accepts index samples = (values, .ok ())) :
    samples.map tryInto = values.map some := by
  induction samples generalizing index values with
  | nil =>
      cases written
      rfl
  | cons sample samples ih =>
      rw [writeSamples] at written
      split at written
      · cases written
      · rename_i value converted
        split at written
        · cases rest : writeSamples tryInto accepts (index + 1) samples with
          | mk tail result =>
              rw [rest] at written
              cases written
              rw [List.map_cons, List.map_cons, converted, ih rest]
        · cases written

/-- Convertible samples are all written when every call succeeds. -/
theorem writeSamples_of_accepts {tryInto : S → Option WavSample} {accepts : Nat → Bool}
    (accepted : ∀ index, accepts index = true) (index : Nat) (samples : List S)
    (convertible : ∀ sample ∈ samples, (tryInto sample).isSome) :
    writeSamples tryInto accepts index samples = (samples.filterMap tryInto, .ok ()) := by
  induction samples generalizing index with
  | nil => rfl
  | cons sample samples ih =>
      obtain ⟨value, converted⟩ := Option.isSome_iff_exists.mp
        (convertible sample List.mem_cons_self)
      rw [writeSamples, converted, List.filterMap_cons_some converted]
      simp only [accepted, if_true]
      rw [ih (index + 1) fun other member => convertible other (List.mem_cons_of_mem _ member)]

/-! ## Writing a chunk -/

section Write

variable {hound : Hound} (format : SampleFormat) {writer : AudioWriter} {inner : WavWriter}
  {chunk : WavChunk format.Carrier}

/-- A newer chunk of convertible samples is appended as a whole. -/
theorem write_of_convertible (succeeds : hound.Succeeds) (isOpen : writer.inner = some inner)
    (newer : writer.seq < chunk.seq)
    (convertible : ∀ sample ∈ chunk.payload.samples, (format.tryInto sample).isSome) :
    writer.write format.tryInto hound chunk =
      ({ writer with seq := chunk.seq },
        [.append inner.path chunk.seq (chunk.payload.samples.filterMap format.tryInto)],
        .ok ()) := by
  rw [write, isOpen]
  simp only [if_pos newer]
  rw [writeSamples_of_accepts succeeds.writeSample_eq 0 _ convertible]

theorem write_of_lt (succeeds : hound.Succeeds) (signed : format ≠ .u16)
    (isOpen : writer.inner = some inner) (newer : writer.seq < chunk.seq) :
    writer.write format.tryInto hound chunk =
      ({ writer with seq := chunk.seq },
        [.append inner.path chunk.seq (chunk.payload.samples.filterMap format.tryInto)],
        .ok ()) :=
  write_of_convertible format succeeds isOpen newer
    fun sample _ => SampleFormat.isSome_tryInto signed sample

/-- A chunk that is not newer than the last one written is dropped. -/
theorem write_of_not_lt (isOpen : writer.inner = some inner) (notNewer : ¬ writer.seq < chunk.seq) :
    writer.write format.tryInto hound chunk = (writer, [], .ok ()) := by
  rw [write, isOpen]
  exact if_neg notNewer

end Write

end AudioWriter

end Bug
