import Bug.Audio.Handler

/-!
# The samples of one chunk

`AudioWriter::write` converts and writes one sample after the other.  A sample
that cannot be converted, or that `hound` refuses, ends the loop with an error
while everything before it is in the file already.  Unsigned samples are
converted as numbers: their midpoint is not silence but out of range.
-/

namespace Bug

open Bug.Encoding

namespace FileSystem

/-- An append to an existing file is visible unless it is empty. -/
theorem apply_append_eq_self_iff {files : FileSystem} {path : PathBuf}
    (present : (files path).isSome = true) (seq : UInt32) (samples : List WavSample) :
    files.apply (.append path seq samples) = files ↔ samples = [] := by
  rcases Option.isSome_iff_exists.mp present with ⟨contents, found⟩
  rw [apply, Function.update_eq_self_iff, found]
  simp

end FileSystem

namespace AudioWriter

variable {S : Type} {tryInto : S → Option WavSample} {accepts : Nat → Bool}

/-- The sample of the given `write_sample` call is converted and accepted. -/
def Writable (tryInto : S → Option WavSample) (accepts : Nat → Bool) (index : Nat)
    (sample : S) : Prop :=
  (tryInto sample).isSome = true ∧ accepts index = true

/-- Every sample, from the given `write_sample` call on, is converted and
accepted. -/
def AllWritable (tryInto : S → Option WavSample) (accepts : Nat → Bool) : Nat → List S → Prop
  | _, [] => True
  | index, sample :: samples =>
      Writable tryInto accepts index sample ∧ AllWritable tryInto accepts (index + 1) samples

theorem writeSamples_of_writable {index : Nat} {sample : S}
    (writable : Writable tryInto accepts index sample) (samples : List S) :
    ∃ value, tryInto sample = some value ∧
      writeSamples tryInto accepts index (sample :: samples) =
        (value :: (writeSamples tryInto accepts (index + 1) samples).1,
          (writeSamples tryInto accepts (index + 1) samples).2) := by
  rcases Option.isSome_iff_exists.mp writable.1 with ⟨value, converted⟩
  refine ⟨value, converted, ?_⟩
  rw [writeSamples, converted]
  exact if_pos writable.2

/-- The loop ends at a sample that cannot be written, without it. -/
theorem writeSamples_of_not_writable {index : Nat} {sample : S}
    (refused : ¬ Writable tryInto accepts index sample) (samples : List S) :
    ∃ error, writeSamples tryInto accepts index (sample :: samples) = ([], .error error) := by
  rw [writeSamples]
  split
  · exact ⟨_, rfl⟩
  · rename_i value converted
    have unaccepted : ¬ accepts index = true := by
      intro accepted
      exact refused ⟨Option.isSome_of_eq_some converted, accepted⟩
    rw [if_neg unaccepted]
    exact ⟨_, rfl⟩

theorem writeSamples_ok_iff (index : Nat) (samples : List S) :
    (writeSamples tryInto accepts index samples).2 = .ok () ↔
      AllWritable tryInto accepts index samples := by
  induction samples generalizing index with
  | nil => exact iff_of_true rfl trivial
  | cons sample samples ih =>
      rw [AllWritable]
      by_cases writable : Writable tryInto accepts index sample
      · rcases writeSamples_of_writable writable samples with ⟨value, -, loop⟩
        rw [loop, ih, and_iff_right writable]
      · rcases writeSamples_of_not_writable writable samples with ⟨error, loop⟩
        rw [loop]
        exact iff_of_false nofun fun all => writable all.1

theorem writeSamples_eq_nil_iff (index : Nat) (sample : S) (samples : List S) :
    (writeSamples tryInto accepts index (sample :: samples)).1 = [] ↔
      ¬ Writable tryInto accepts index sample := by
  by_cases writable : Writable tryInto accepts index sample
  · rcases writeSamples_of_writable writable samples with ⟨value, -, loop⟩
    rw [loop]
    exact iff_of_false nofun (not_not.mpr writable)
  · rcases writeSamples_of_not_writable writable samples with ⟨error, loop⟩
    rw [loop]
    exact iff_of_true rfl writable

/-! ## Atomic writes -/

/-- A failed write leaves the files and the sequence number as they were. -/
def Atomic (files : FileSystem) (tryInto : S → Option WavSample) (hound : Hound)
    (writer : AudioWriter) (wavChunk : WavChunk S) : Prop :=
  ∀ error, (writer.write tryInto hound wavChunk).2.2 = .error error →
    files.applyAll (writer.write tryInto hound wavChunk).2.1 = files ∧
      (writer.write tryInto hound wavChunk).1.seq = writer.seq

variable {writer : AudioWriter} {inner : WavWriter} {wavChunk : WavChunk S}

/-- What a newer chunk does to an open writer. -/
theorem write_of_newer (tryInto : S → Option WavSample) (hound : Hound)
    (isOpen : writer.inner = some inner) (newer : writer.seq < wavChunk.seq) :
    let loop := writeSamples tryInto hound.writeSample 0 wavChunk.payload.samples
    (writer.write tryInto hound wavChunk).2 =
        ([.append inner.path wavChunk.seq loop.1], loop.2) ∧
      (loop.2 ≠ .ok () → (writer.write tryInto hound wavChunk).1 = writer) := by
  rw [write, isOpen]
  simp only [if_pos newer]
  split
  · rename_i samples loop
    rw [loop]
    exact ⟨rfl, fun failed => absurd rfl failed⟩
  · rename_i samples error loop
    rw [loop]
    exact ⟨rfl, fun _ => rfl⟩

theorem exists_cons_samples (wavChunk : WavChunk S) :
    ∃ first rest, wavChunk.payload.samples = first :: rest := by
  apply List.exists_cons_of_ne_nil
  intro empty
  have length := wavChunk.payload.length_samples
  rw [empty] at length
  cases length

/-- A newer chunk is written atomically exactly when nothing ends its loop, or
its first sample does. -/
theorem atomic_iff_of_newer {files : FileSystem} (tryInto : S → Option WavSample) (hound : Hound)
    (isOpen : writer.inner = some inner) (present : (files inner.path).isSome = true)
    (newer : writer.seq < wavChunk.seq) :
    Atomic files tryInto hound writer wavChunk ↔
      AllWritable tryInto hound.writeSample 0 wavChunk.payload.samples ∨
        ∃ first rest, wavChunk.payload.samples = first :: rest ∧
          ¬ Writable tryInto hound.writeSample 0 first := by
  rcases exists_cons_samples wavChunk with ⟨first, rest, samples⟩
  rcases write_of_newer tryInto hound isOpen newer with ⟨effects, kept⟩
  rw [Atomic, effects, FileSystem.applyAll_cons, FileSystem.applyAll_nil,
    FileSystem.apply_append_eq_self_iff present, ← writeSamples_ok_iff]
  cases result : (writeSamples tryInto hound.writeSample 0 wavChunk.payload.samples).2 with
  | ok done => exact iff_of_true nofun (Or.inl rfl)
  | error error =>
      rw [samples, writeSamples_eq_nil_iff]
      constructor
      · intro atomic
        exact Or.inr ⟨first, rest, rfl, (atomic error rfl).1⟩
      · rintro (succeeded | ⟨other, others, same, refused⟩)
        · cases succeeded
        · cases same
          intro _ _
          rw [kept (by rw [result]; exact nofun)]
          exact ⟨refused, rfl⟩

/-- A write is atomic exactly when the writer is finalized, the chunk is not
newer than the last one, every sample is converted and accepted, or the first
one is not.  A failure behind the first sample leaves a part of the chunk in the
file. -/
theorem atomic_iff_fails_at_first (files : FileSystem) (tryInto : S → Option WavSample)
    (hound : Hound) (writer : AudioWriter) (wavChunk : WavChunk S)
    (present : ∀ inner ∈ writer.inner, (files inner.path).isSome = true) :
    Atomic files tryInto hound writer wavChunk ↔
      writer.inner = none ∨ ¬ writer.seq < wavChunk.seq ∨
        AllWritable tryInto hound.writeSample 0 wavChunk.payload.samples ∨
        ∃ first rest, wavChunk.payload.samples = first :: rest ∧
          ¬ Writable tryInto hound.writeSample 0 first := by
  cases isOpen : writer.inner with
  | none =>
      apply iff_of_true _ (Or.inl rfl)
      intro error failed
      rw [write, isOpen]
      exact ⟨rfl, rfl⟩
  | some inner =>
      rw [or_iff_right (Option.some_ne_none inner)]
      by_cases newer : writer.seq < wavChunk.seq
      · rw [or_iff_right (not_not.mpr newer)]
        exact atomic_iff_of_newer tryInto hound isOpen (present inner isOpen) newer
      · apply iff_of_true _ (Or.inl newer)
        intro error failed
        rw [write, isOpen] at failed
        simp only [if_neg newer] at failed
        cases failed

/-- An open writer in front of its first chunk. -/
def opened : AudioWriter where
  inner := some ⟨["a.wav"], ⟨1, 44100, 16, .int⟩⟩
  id := .ofNat 1
  seq := 0
  startedAt := ⟨1600000000, 0⟩
  deviceId := .ofNat 2

/-- An unsigned chunk whose second sample does not fit into sixteen signed
bits. -/
def loudSecond : WavChunk UInt16 where
  id := .ofNat 1
  seq := 1
  size := 0
  payload := WavChunkPayload.set default 1 40000

theorem atomic_iff_fails_at_first_full_disk :
    Atomic (fun _ => some []) (SampleFormat.tryInto .u16)
      { Hound.working ⟨1600000000, 0⟩ with writeSample := fun _ => false } opened loudSecond := by
  apply (atomic_iff_fails_at_first _ _ _ opened loudSecond fun _ _ => rfl).mpr
  exact Or.inr (Or.inr (Or.inr ⟨_, _, rfl, fun writable => nomatch writable.2⟩))

/-- On a working disk the first sample stays in the file when the second cannot
be converted. -/
theorem not_atomic_loudSecond :
    ¬ Atomic (fun _ => some []) (SampleFormat.tryInto .u16) (.working ⟨1600000000, 0⟩) opened
      loudSecond := by
  rw [atomic_iff_of_newer _ _ rfl rfl (by decide)]
  rintro (⟨-, second, -⟩ | ⟨first, rest, samples, refused⟩)
  · exact absurd second.1 (by decide)
  · cases samples
    exact refused ⟨rfl, rfl⟩

end AudioWriter

/-! ## Unsigned samples -/

/-- The signed value of an unsigned sample: its distance from the midpoint. -/
def signedPcm (sample : UInt16) : WavSample :=
  .int (Int16.ofInt (sample.toNat - 32768))

theorem toInt_toInt16 {sample : UInt16} (small : sample ≤ 32767) :
    sample.toInt16.toInt = sample.toNat := by
  have bound : sample.toNat ≤ 32767 := UInt16.le_iff_toNat_le.mp small
  change sample.toBitVec.toInt = sample.toNat
  rw [BitVec.toInt_eq_toNat_of_lt (by rw [UInt16.toNat_toBitVec]; omega), UInt16.toNat_toBitVec]

/-- A narrowed sample keeps its number, so it is never the signed one. -/
theorem tryInto_ne_signedPcm (sample : UInt16) :
    SampleFormat.tryInto .u16 sample ≠ some (signedPcm sample) := by
  intro same
  simp only [SampleFormat.tryInto, signedPcm] at same
  split at same
  · rename_i small
    have value := congrArg Int16.toInt (WavSample.int.inj (Option.some.inj same))
    have bound := sample.toNat_lt
    rw [toInt_toInt16 small, Int16.toInt_ofInt_of_le (by omega) (by omega)] at value
    omega
  · cases same

/-- What a successful write appends are the converted samples of its chunk. -/
theorem AudioWriter.map_tryInto_of_write {S : Type} {tryInto : S → Option WavSample}
    {hound : Hound} {writer : AudioWriter} {wavChunk : WavChunk S} {path : PathBuf} {seq : UInt32}
    {values : List WavSample} (succeeded : (writer.write tryInto hound wavChunk).2.2 = .ok ())
    (appended : .append path seq values ∈ (writer.write tryInto hound wavChunk).2.1) :
    wavChunk.payload.samples.map tryInto = values.map some := by
  cases isOpen : writer.inner with
  | none =>
      rw [write, isOpen] at appended
      cases appended
  | some inner =>
      by_cases newer : writer.seq < wavChunk.seq
      · have effects := (write_of_newer tryInto hound isOpen newer).1
        rw [effects] at succeeded appended
        cases List.mem_singleton.mp appended
        exact writeSamples_eq_ok (Prod.ext rfl succeeded)
      · rw [write, isOpen] at appended
        simp only [if_neg newer] at appended
        cases appended

namespace AudioHandler

/-- The same for the handler: a file that is opened on the way is empty. -/
theorem map_tryInto_of_write {S : Type} [Sample S] {tryInto : S → Option WavSample}
    {hound : Hound} {handler : AudioHandler} {wavChunk : WavChunk S} {path : PathBuf}
    {seq : UInt32} {values : List WavSample}
    (succeeded : (handler.write tryInto hound
      (Audio.codec.encode (.wavChunk wavChunk))).2.2 = .ok ())
    (appended : .append path seq values ∈ (handler.write tryInto hound
      (Audio.codec.encode (.wavChunk wavChunk))).2.1) :
    wavChunk.payload.samples.map tryInto = values.map some := by
  simp only [write, Codec.deserialize_encode] at succeeded appended
  cases known : handler.writers.lookup wavChunk.id with
  | some writer =>
      simp only [known, List.nil_append] at succeeded appended
      exact AudioWriter.map_tryInto_of_write succeeded appended
  | none =>
      cases creates : hound.create with
      | created =>
          simp only [known, AudioWriter.new, creates, List.singleton_append, List.mem_cons,
            reduceCtorEq, false_or] at succeeded appended
          exact AudioWriter.map_tryInto_of_write succeeded appended
      | refused =>
          simp only [known, AudioWriter.new, creates] at succeeded
          cases succeeded
      | headerFailed =>
          simp only [known, AudioWriter.new, creates] at succeeded
          cases succeeded

/-- The handler of an unsigned device accepts the chunk and appends the signed
values of its samples. -/
def WritesSigned (hound : Hound) (handler : AudioHandler)
    (wavChunk : WavChunk SampleFormat.u16.Carrier) : Prop :=
  let outcome := handler.write (SampleFormat.tryInto .u16) hound
    (Audio.codec.encode (.wavChunk wavChunk))
  outcome.2.2 = .ok () ∧
    ∃ path, .append path wavChunk.seq (wavChunk.payload.samples.map signedPcm) ∈ outcome.2.1

theorem tryInto_eq_of_writesSigned {hound : Hound} {handler : AudioHandler}
    {wavChunk : WavChunk SampleFormat.u16.Carrier} (signed : WritesSigned hound handler wavChunk) :
    ∀ sample ∈ wavChunk.payload.samples,
      SampleFormat.tryInto .u16 sample = some (signedPcm sample) := by
  rcases signed with ⟨succeeded, path, appended⟩
  have values := map_tryInto_of_write succeeded appended
  rw [List.map_map] at values
  exact List.map_inj_left.mp values

/-- No chunk of unsigned samples is ever written as signed ones, whatever the
handler, the disk and the samples. -/
theorem never_writesSigned (hound : Hound) (handler : AudioHandler)
    (wavChunk : WavChunk SampleFormat.u16.Carrier) : ¬ WritesSigned hound handler wavChunk := by
  intro signed
  rcases AudioWriter.exists_cons_samples wavChunk with ⟨first, rest, samples⟩
  apply tryInto_ne_signedPcm first
  apply tryInto_eq_of_writesSigned signed
  rw [samples]
  exact List.mem_cons_self

/-- The first chunk of a silent transmission. -/
def silentChunk : WavChunk SampleFormat.u16.Carrier where
  id := .ofNat 1
  seq := 1
  size := 0
  payload := ⟨List.replicate wavChunkPayloadSize (32768 : UInt16), List.length_replicate⟩

/-- Silence is refused on a working disk. -/
theorem not_writesSigned_silentChunk :
    ¬ WritesSigned (.working ⟨1600000000, 0⟩)
      (.new ["wav"] ⟨1, 44100, 16, .u16⟩ (.ofNat 2)) silentChunk := by
  intro signed
  have converted := tryInto_eq_of_writesSigned signed 32768 List.mem_cons_self
  cases converted

end AudioHandler

end Bug
