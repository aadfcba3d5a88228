import Mathlib.Logic.Equiv.Defs
import Mathlib.Data.List.Basic

/-!
# Exact codecs over byte strings

A codec pairs a writer with a reader that returns the bytes it did not
consume.  Both laws are fields: the reader recovers every written value and
leaves any continuation untouched, and it accepts nothing but a written value.
A codec is therefore an exact prefix code, and the products, refinements and
tagged unions built from codecs inherit the laws instead of proving them again.
-/

namespace Bug.Encoding

universe u

/-- Byte strings in wire order. -/
abbrev Bytes := List UInt8

/-- A writer and a reader that are exact inverses of each other in front of
every continuation. -/
structure Codec (α : Type u) where
  encode : α → Bytes
  decode : Bytes → Option (α × Bytes)
  decode_encode_append : ∀ value rest, decode (encode value ++ rest) = some (value, rest)
  eq_encode_append_of_decode : ∀ {bytes value rest},
    decode bytes = some (value, rest) → bytes = encode value ++ rest

namespace Codec

variable {α β : Type u}

attribute [simp] decode_encode_append

@[simp]
theorem decode_encode (codec : Codec α) (value : α) :
    codec.decode (codec.encode value) = some (value, []) := by
  simpa using codec.decode_encode_append value []

/-- Reading succeeds exactly on a written value followed by the returned
continuation. -/
theorem decode_eq_some_iff (codec : Codec α) {bytes rest : Bytes} {value : α} :
    codec.decode bytes = some (value, rest) ↔ bytes = codec.encode value ++ rest := by
  constructor
  · exact codec.eq_encode_append_of_decode
  · rintro rfl
    exact codec.decode_encode_append value rest

/-- Two codewords that start one byte string agree, and so do their
continuations. -/
theorem encode_append_inj (codec : Codec α) {left right : α} {leftRest rightRest : Bytes}
    (equal : codec.encode left ++ leftRest = codec.encode right ++ rightRest) :
    left = right ∧ leftRest = rightRest := by
  have decoded := congrArg codec.decode equal
  simpa using decoded

/-- No strict prefix of a codeword is readable. -/
theorem decode_strictPrefix (codec : Codec α) {front missing : Bytes} {value : α}
    (split : codec.encode value = front ++ missing) (nonempty : missing ≠ []) :
    codec.decode front = none := by
  cases decoded : codec.decode front with
  | none => rfl
  | some result =>
      rcases result with ⟨other, rest⟩
      have frontEq := codec.eq_encode_append_of_decode decoded
      have equal : codec.encode value ++ [] = codec.encode other ++ (rest ++ missing) := by
        rw [List.append_nil, split, frontEq, List.append_assoc]
      have restEq := (codec.encode_append_inj equal).2
      exact absurd (List.append_eq_nil_iff.mp restEq.symm).2 nonempty

/-- Read one value from the front of a byte string.  Trailing bytes are
ignored. -/
def deserialize (codec : Codec α) (bytes : Bytes) : Option α :=
  (codec.decode bytes).map Prod.fst

@[simp]
theorem deserialize_encode_append (codec : Codec α) (value : α) (rest : Bytes) :
    codec.deserialize (codec.encode value ++ rest) = some value := by
  simp [deserialize]

@[simp]
theorem deserialize_encode (codec : Codec α) (value : α) :
    codec.deserialize (codec.encode value) = some value := by
  simp [deserialize]

theorem deserialize_eq_some_iff (codec : Codec α) {bytes : Bytes} {value : α} :
    codec.deserialize bytes = some value ↔ ∃ rest, bytes = codec.encode value ++ rest := by
  simp [deserialize, Option.map_eq_some_iff, codec.decode_eq_some_iff]

theorem deserialize_strictPrefix (codec : Codec α) {front missing : Bytes} {value : α}
    (split : codec.encode value = front ++ missing) (nonempty : missing ≠ []) :
    codec.deserialize front = none := by
  rw [deserialize, codec.decode_strictPrefix split nonempty]
  rfl

/-! ## Building blocks -/

/-- The codec of a type with nothing to say. -/
def unit : Codec Unit where
  encode _ := []
  decode bytes := some ((), bytes)
  decode_encode_append := by
    intro value rest
    rfl
  eq_encode_append_of_decode := by
    intro bytes value rest decoded
    simpa using decoded

/-- One byte. -/
def byte : Codec UInt8 where
  encode value := [value]
  decode
    | [] => none
    | value :: rest => some (value, rest)
  decode_encode_append := by
    intro value rest
    rfl
  eq_encode_append_of_decode := by
    intro bytes value rest decoded
    cases bytes with
    | nil => cases decoded
    | cons head tail =>
        cases decoded
        rfl

/-- Transport along an equivalence of the represented types. -/
def ofEquiv (codec : Codec α) (equiv : α ≃ β) : Codec β where
  encode value := codec.encode (equiv.symm value)
  decode bytes := (codec.decode bytes).map fun result => (equiv result.1, result.2)
  decode_encode_append := by
    intro value rest
    simp
  eq_encode_append_of_decode := by
    intro bytes value rest decoded
    rcases Option.map_eq_some_iff.mp decoded with ⟨⟨inner, tail⟩, read, equal⟩
    cases equal
    simpa using codec.eq_encode_append_of_decode read

/-- One value after the other. -/
def pair (first : Codec α) (second : Codec β) : Codec (α × β) where
  encode value := first.encode value.1 ++ second.encode value.2
  decode bytes := do
    let (left, bytes) ← first.decode bytes
    let (right, bytes) ← second.decode bytes
    return ((left, right), bytes)
  decode_encode_append := by
    rintro ⟨left, right⟩ rest
    simp [List.append_assoc]
  eq_encode_append_of_decode := by
    rintro bytes ⟨left, right⟩ rest decoded
    simp only [Option.bind_eq_bind, Option.bind_eq_some_iff, Prod.exists] at decoded
    obtain ⟨first₁, middle, readFirst, second₁, tail, readSecond, equal⟩ := decoded
    cases equal
    rw [first.eq_encode_append_of_decode readFirst,
      second.eq_encode_append_of_decode readSecond, List.append_assoc]

/-- Keep the values accepted by a partial map with an exact inverse. -/
def refine (codec : Codec α) (accept : α → Option β) (embed : β → α)
    (accept_eq_some_iff : ∀ raw value, accept raw = some value ↔ raw = embed value) :
    Codec β where
  encode value := codec.encode (embed value)
  decode bytes := do
    let (raw, bytes) ← codec.decode bytes
    let value ← accept raw
    return (value, bytes)
  decode_encode_append := by
    intro value rest
    simp [(accept_eq_some_iff (embed value) value).mpr rfl]
  eq_encode_append_of_decode := by
    intro bytes value rest decoded
    simp only [Option.bind_eq_bind, Option.bind_eq_some_iff, Prod.exists] at decoded
    obtain ⟨raw, tail, read, inner, accepted, equal⟩ := decoded
    cases equal
    rw [codec.eq_encode_append_of_decode read, (accept_eq_some_iff raw value).mp accepted]

/-- A tag followed by the fields that the tag announces. -/
def tagged {ι : Type u} {fields : ι → Type u} (tag : Codec ι)
    (body : ∀ index, Codec (fields index)) : Codec (Σ index, fields index) where
  encode value := tag.encode value.1 ++ (body value.1).encode value.2
  decode bytes := do
    let (index, bytes) ← tag.decode bytes
    let (value, bytes) ← (body index).decode bytes
    return (⟨index, value⟩, bytes)
  decode_encode_append := by
    rintro ⟨index, value⟩ rest
    simp [List.append_assoc]
  eq_encode_append_of_decode := by
    rintro bytes ⟨index, value⟩ rest decoded
    simp only [Option.bind_eq_bind, Option.bind_eq_some_iff, Prod.exists] at decoded
    obtain ⟨readIndex, middle, readTag, readValue, tail, readBody, equal⟩ := decoded
    cases equal
    rw [tag.eq_encode_append_of_decode readTag,
      (body index).eq_encode_append_of_decode readBody, List.append_assoc]

/-- Exactly `count` bytes. -/
def block (count : Nat) : Codec { bytes : Bytes // bytes.length = count } where
  encode value := value.1
  decode bytes :=
    if enough : count ≤ bytes.length then
      some (⟨bytes.take count, List.length_take_of_le enough⟩, bytes.drop count)
    else
      none
  decode_encode_append := by
    rintro ⟨value, rfl⟩ rest
    simp
  eq_encode_append_of_decode := by
    intro bytes value rest decoded
    split at decoded
    · cases decoded
      exact (List.take_append_drop count bytes).symm
    · cases decoded

/-! ## Codewords of one length -/

/-- Every codeword has the given length. -/
def HasWidth (codec : Codec α) (width : Nat) : Prop :=
  ∀ value, (codec.encode value).length = width

theorem hasWidth_byte : byte.HasWidth 1 :=
  fun _ => rfl

theorem hasWidth_block (count : Nat) : (block count).HasWidth count :=
  fun value => value.2

theorem HasWidth.ofEquiv {codec : Codec α} {width : Nat} (hasWidth : codec.HasWidth width)
    (equiv : α ≃ β) : (codec.ofEquiv equiv).HasWidth width :=
  fun value => hasWidth (equiv.symm value)

theorem HasWidth.pair {first : Codec α} {second : Codec β} {front back : Nat}
    (firstWidth : first.HasWidth front) (secondWidth : second.HasWidth back) :
    (first.pair second).HasWidth (front + back) := by
  intro value
  rw [Codec.pair, List.length_append, firstWidth, secondWidth]

end Codec

end Bug.Encoding
