import Bug.Primitive.Uuid

/-!
# The audio wire format

Messages between the audio client and the audio server, with the binary layout
that `bincode` gives to their derived and hand-written serialisers.  The payload
of a chunk is a fixed array: its element loop writes no length, and its reader
fills a default array index by index.
-/

namespace Bug

open Bug.Encoding

/-- A 32-bit float, by its bit pattern. -/
structure F32 where
  bits : UInt32
  deriving DecidableEq

/-- The sample types that are copied, defaulted and put on the wire. -/
class Sample (S : Type) extends Inhabited S where
  codec : Codec S

instance : Sample UInt16 where
  default := 0
  codec := Codec.u16

instance : Sample Int16 where
  default := 0
  codec := Codec.i16

instance : Sample F32 where
  default := ⟨0⟩
  codec := Codec.u32.ofEquiv ⟨F32.mk, F32.bits, fun _ => rfl, fun _ => rfl⟩

/-- `WAV_CHUNK_PAYLOAD_SIZE`. -/
def wavChunkPayloadSize : Nat := 512

theorem wavChunkPayloadSize_pos : 0 < wavChunkPayloadSize := by decide

inductive SampleFormat where
  | u16
  | i16
  | f32
  deriving DecidableEq

structure Spec where
  channels : UInt16
  sampleRate : UInt32
  bitsPerSample : UInt16
  sampleFormat : SampleFormat
  deriving DecidableEq

/-- The fixed array of samples that one chunk carries. -/
structure WavChunkPayload (S : Type) where
  samples : List S
  length_samples : samples.length = wavChunkPayloadSize
  deriving DecidableEq

structure WavChunk (S : Type) where
  id : Uuid
  seq : UInt32
  size : UInt8
  payload : WavChunkPayload S
  deriving DecidableEq

inductive Audio (S : Type) where
  | handshake
  | spec (secret : UInt64) (spec : Spec)
  | wavChunk (chunk : WavChunk S)
  | wavEnd (id : Uuid)
  deriving DecidableEq

namespace SampleFormat

/-- The wire samples of a device that announced this format. -/
abbrev Carrier : SampleFormat → Type
  | u16 => UInt16
  | i16 => Int16
  | f32 => F32

instance : (format : SampleFormat) → Sample format.Carrier
  | u16 => inferInstanceAs (Sample UInt16)
  | i16 => inferInstanceAs (Sample Int16)
  | f32 => inferInstanceAs (Sample F32)

/-- The variant index of a format. -/
def variant : SampleFormat → UInt32
  | u16 => 0
  | i16 => 1
  | f32 => 2

def ofVariant (index : UInt32) : Option SampleFormat :=
  if index = 0 then some u16
  else if index = 1 then some i16
  else if index = 2 then some f32
  else none

theorem ofVariant_eq_some_iff (index : UInt32) (format : SampleFormat) :
    ofVariant index = some format ↔ index = format.variant := by
  constructor
  · intro known
    unfold ofVariant at known
    split at known
    · cases known
      assumption
    · split at known
      · cases known
        assumption
      · split at known
        · cases known
          assumption
        · cases known
  · rintro rfl
    cases format <;> rfl

def codec : Codec SampleFormat :=
  Codec.u32.refine ofVariant variant ofVariant_eq_some_iff

end SampleFormat

namespace Spec

def codec : Codec Spec :=
  (Codec.u16.pair (Codec.u32.pair (Codec.u16.pair SampleFormat.codec))).ofEquiv {
    toFun fields := ⟨fields.1, fields.2.1, fields.2.2.1, fields.2.2.2⟩
    invFun spec := (spec.channels, spec.sampleRate, spec.bitsPerSample, spec.sampleFormat)
    left_inv _ := rfl
    right_inv _ := rfl
  }

end Spec

namespace WavChunkPayload

variable {S : Type} [Sample S]

instance : Inhabited (WavChunkPayload S) where
  default := ⟨List.replicate wavChunkPayloadSize default, List.length_replicate⟩

omit [Sample S] in
theorem ext_samples {left right : WavChunkPayload S} (equal : left.samples = right.samples) :
    left = right := by
  cases left
  cases right
  cases equal
  rfl

/-- Store one sample.  An index past the end would panic in the source; every
caller below stays inside the array. -/
def set (payload : WavChunkPayload S) (index : Nat) (sample : S) : WavChunkPayload S :=
  ⟨payload.samples.set index sample, by rw [List.length_set, payload.length_samples]⟩

omit [Sample S] in
/-- The samples up to one that was stored inside the array. -/
theorem take_set (payload : WavChunkPayload S) {index : Nat} (inside : index < wavChunkPayloadSize)
    (sample : S) :
    (payload.set index sample).samples.take (index + 1) =
      payload.samples.take index ++ [sample] := by
  rw [← payload.length_samples] at inside
  rw [set, List.take_add_one, List.take_set_of_le (Nat.le_refl index),
    List.getElem?_set_self inside]
  rfl

/-- The element loop of `serialize`. -/
def serialize (payload : WavChunkPayload S) : Bytes :=
  payload.samples.flatMap Sample.codec.encode

/-- The loop of `visit_seq` with `count` elements left to read into the array
from `index` on. -/
def visitSeq : WavChunkPayload S → Nat → Nat → Bytes → Option (WavChunkPayload S × Bytes)
  | payload, _, 0, bytes => some (payload, bytes)
  | payload, index, count + 1, bytes => do
      let (element, bytes) ← (Sample.codec (S := S)).decode bytes
      visitSeq (payload.set index element) (index + 1) count bytes

def deserialize (bytes : Bytes) : Option (WavChunkPayload S × Bytes) :=
  visitSeq default 0 wavChunkPayloadSize bytes

theorem visitSeq_flatMap_encode (elements : List S) (payload : WavChunkPayload S)
    (index : Nat) (rest : Bytes) (fits : index + elements.length = wavChunkPayloadSize) :
    ∃ filled : WavChunkPayload S,
      visitSeq payload index elements.length (elements.flatMap Sample.codec.encode ++ rest) =
          some (filled, rest) ∧
        filled.samples = payload.samples.take index ++ elements := by
  induction elements generalizing payload index with
  | nil =>
      refine ⟨payload, rfl, ?_⟩
      rw [List.append_nil, List.take_of_length_le]
      rw [payload.length_samples, ← fits]
      simp
  | cons element elements ih =>
      rw [List.length_cons] at fits
      obtain ⟨filled, read, filledEq⟩ :=
        ih (payload.set index element) (index + 1) (by omega)
      refine ⟨filled, ?_, ?_⟩
      · simpa [visitSeq, List.append_assoc] using read
      · have inside : index < payload.samples.length := by
          rw [payload.length_samples]
          omega
        rw [filledEq, set, List.take_add_one, List.take_set_of_le (Nat.le_refl index)]
        simp [List.getElem?_set_self inside]

theorem eq_flatMap_encode_of_visitSeq {count index : Nat} {payload filled : WavChunkPayload S}
    {bytes rest : Bytes} (fits : index + count = wavChunkPayloadSize)
    (read : visitSeq payload index count bytes = some (filled, rest)) :
    bytes = (filled.samples.drop index).flatMap Sample.codec.encode ++ rest ∧
      filled.samples.take index = payload.samples.take index := by
  induction count generalizing payload index bytes with
  | zero =>
      cases read
      rw [List.drop_of_length_le (by rw [filled.length_samples, ← fits]; simp)]
      exact ⟨rfl, rfl⟩
  | succ count ih =>
      simp only [visitSeq, Option.bind_eq_bind, Option.bind_eq_some_iff, Prod.exists] at read
      obtain ⟨element, tail, readElement, readTail⟩ := read
      obtain ⟨tailEq, taken⟩ := ih (by omega) readTail
      have inside : index < payload.samples.length := by
        rw [payload.length_samples]
        omega
      have stored : filled.samples.take (index + 1) = payload.samples.take index ++ [element] := by
        rw [taken, set, List.take_add_one, List.take_set_of_le (Nat.le_refl index)]
        simp [List.getElem?_set_self inside]
      have takenIndex : filled.samples.take index = payload.samples.take index := by
        have shorter := congrArg (List.take index) stored
        rw [List.take_take, Nat.min_eq_left (Nat.le_succ index),
          List.take_left' (by rw [List.length_take_of_le inside.le])] at shorter
        exact shorter
      have dropIndex : filled.samples.drop index = element :: filled.samples.drop (index + 1) := by
        have whole := List.take_append_drop (index + 1) filled.samples
        rw [stored, ← takenIndex, List.append_assoc] at whole
        have split := (List.take_append_drop index filled.samples).trans whole.symm
        exact List.append_cancel_left split
      refine ⟨?_, takenIndex⟩
      rw [Sample.codec.eq_encode_append_of_decode readElement, tailEq, dropIndex,
        List.flatMap_cons, List.append_assoc]

/-- The hand-written serialiser pair is an exact codec. -/
def codec : Codec (WavChunkPayload S) where
  encode := serialize
  decode := deserialize
  decode_encode_append := by
    intro payload rest
    obtain ⟨filled, read, filledEq⟩ :=
      visitSeq_flatMap_encode payload.samples default 0 rest
        (by rw [payload.length_samples, Nat.zero_add])
    rw [payload.length_samples] at read
    have filledPayload : filled = payload := ext_samples (by simpa using filledEq)
    rw [deserialize, serialize, read, filledPayload]
  eq_encode_append_of_decode := by
    intro bytes payload rest read
    simpa [serialize] using (eq_flatMap_encode_of_visitSeq (Nat.zero_add _) read).1

end WavChunkPayload

namespace WavChunk

variable {S : Type} [Sample S]

def codec : Codec (WavChunk S) :=
  (Uuid.codec.pair (Codec.u32.pair (Codec.byte.pair WavChunkPayload.codec))).ofEquiv {
    toFun fields := ⟨fields.1, fields.2.1, fields.2.2.1, fields.2.2.2⟩
    invFun chunk := (chunk.id, chunk.seq, chunk.size, chunk.payload)
    left_inv _ := rfl
    right_inv _ := rfl
  }

end WavChunk

namespace Audio

variable {S : Type}

/-- The fields behind each variant index. -/
abbrev Fields (S : Type) : Fin 4 → Type
  | 0 => Unit
  | 1 => UInt64 × Spec
  | 2 => WavChunk S
  | 3 => Uuid

def ofFields : (Σ variant, Fields S variant) → Audio S
  | ⟨0, _⟩ => handshake
  | ⟨1, secret, format⟩ => spec secret format
  | ⟨2, chunk⟩ => wavChunk chunk
  | ⟨3, id⟩ => wavEnd id

def toFields : Audio S → Σ variant, Fields S variant
  | handshake => ⟨0, ()⟩
  | spec secret format => ⟨1, secret, format⟩
  | wavChunk chunk => ⟨2, chunk⟩
  | wavEnd id => ⟨3, id⟩

variable [Sample S]

def fieldsCodec : (variant : Fin 4) → Codec (Fields S variant)
  | 0 => Codec.unit
  | 1 => Codec.u64.pair Spec.codec
  | 2 => WavChunk.codec
  | 3 => Uuid.codec

/-- The derived enumeration layout: a 32-bit variant index, then the fields. -/
def codec : Codec (Audio S) :=
  (Codec.tagged (Codec.variant 4 (by decide)) fieldsCodec).ofEquiv {
    toFun := ofFields
    invFun := toFields
    left_inv := by
      rintro ⟨variant, fields⟩
      match variant, fields with
      | 0, () => rfl
      | 1, (secret, format) => rfl
      | 2, chunk => rfl
      | 3, id => rfl
    right_inv := by rintro (_ | ⟨secret, format⟩ | chunk | id) <;> rfl
  }

end Audio

end Bug
