import Bug.Encoding.Text

/-!
# The event wire format

Events that a device reports over its TCP connection, in the `bincode` layout of
the derived serialisers: fixed-width little-endian fields in order, a 32-bit
variant index and length-prefixed UTF-8 text.
-/

namespace Bug

open Bug.Encoding

/-- A point in the coordinates of the position tracker. -/
abbrev Coordinates := Int32 × Int32 × Int32

inductive EventPayload where
  | sound (wavFile : Text)
  | position (start stop : Coordinates)
  | luminosity (start stop : Int32)
  deriving DecidableEq

structure Event where
  secret : UInt64
  startedAtSecs : Int64
  startedAtNsecs : UInt32
  endedAtSecs : Int64
  endedAtNsecs : UInt32
  payload : EventPayload
  deriving DecidableEq

namespace EventPayload

/-- The fields behind each variant index. -/
abbrev Fields : Fin 3 → Type
  | 0 => Text
  | 1 => Coordinates × Coordinates
  | 2 => Int32 × Int32

def ofFields : (Σ variant, Fields variant) → EventPayload
  | ⟨0, wavFile⟩ => sound wavFile
  | ⟨1, start, stop⟩ => position start stop
  | ⟨2, start, stop⟩ => luminosity start stop

def toFields : EventPayload → Σ variant, Fields variant
  | sound wavFile => ⟨0, wavFile⟩
  | position start stop => ⟨1, start, stop⟩
  | luminosity start stop => ⟨2, start, stop⟩

def coordinatesCodec : Codec Coordinates :=
  Codec.i32.pair (Codec.i32.pair Codec.i32)

def fieldsCodec : (variant : Fin 3) → Codec (Fields variant)
  | 0 => Text.codec
  | 1 => coordinatesCodec.pair coordinatesCodec
  | 2 => Codec.i32.pair Codec.i32

def codec : Codec EventPayload :=
  (Codec.tagged (Codec.variant 3 (by decide)) fieldsCodec).ofEquiv {
    toFun := ofFields
    invFun := toFields
    left_inv := by
      rintro ⟨variant, fields⟩
      match variant, fields with
      | 0, wavFile => rfl
      | 1, (start, stop) => rfl
      | 2, (start, stop) => rfl
    right_inv := by rintro (wavFile | ⟨start, stop⟩ | ⟨start, stop⟩) <;> rfl
  }

end EventPayload

namespace Event

def codec : Codec Event :=
  (Codec.u64.pair (Codec.i64.pair (Codec.u32.pair (Codec.i64.pair (Codec.u32.pair
    EventPayload.codec))))).ofEquiv {
    toFun fields := ⟨fields.1, fields.2.1, fields.2.2.1, fields.2.2.2.1, fields.2.2.2.2.1,
      fields.2.2.2.2.2⟩
    invFun event := (event.secret, event.startedAtSecs, event.startedAtNsecs,
      event.endedAtSecs, event.endedAtNsecs, event.payload)
    left_inv _ := rfl
    right_inv _ := rfl
  }

theorem encode_ne_nil (event : Event) : codec.encode event ≠ [] := by
  have prefixed : codec.encode event = leBytes 8 event.secret.toNat ++
      (codec.encode event).drop 8 := rfl
  rw [prefixed]
  simp [leBytes]

end Event

end Bug
