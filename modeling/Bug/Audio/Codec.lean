import Bug.Audio.Message

/-!
# The audio codec

`AudioCodec` reads a whole datagram as one message.  An empty datagram is no
message, trailing bytes are ignored, and every truncated message is an error.
-/

namespace Bug

open Bug.Encoding

namespace Audio

variable {S : Type} [Sample S]

theorem encode_eq (audio : Audio S) :
    codec.encode audio =
      leBytes 4 audio.toFields.1 ++ (fieldsCodec audio.toFields.1).encode audio.toFields.2 := by
  rw [← Codec.variant_encode (by decide)]
  rfl

theorem encode_ne_nil (audio : Audio S) : codec.encode audio ≠ [] := by
  rw [encode_eq]
  simp [leBytes]

end Audio

namespace AudioCodec

inductive Error where
  | io
  | codec
  | unhandled
  deriving DecidableEq

variable {S : Type} [Sample S]

def decode (buf : Bytes) : Except Error (Option (Audio S)) :=
  if !buf.isEmpty then
    match Audio.codec.deserialize buf with
    | some audio => .ok (some audio)
    | none => .error .codec
  else
    .ok none

/-- The message is written behind whatever the buffer already holds. -/
def encode (data : Audio S) (buf : Bytes) : Bytes :=
  buf ++ Audio.codec.encode data

@[simp]
theorem encode_nil (data : Audio S) : encode data [] = Audio.codec.encode data :=
  rfl

theorem decode_encode_append (audio : Audio S) (rest : Bytes) :
    decode (encode audio [] ++ rest) = .ok (some audio) := by
  have nonempty : (Audio.codec.encode audio ++ rest).isEmpty = false := by
    simp [Audio.encode_ne_nil audio]
  simp [decode, nonempty]

theorem decode_strictPrefix {audio : Audio S} {front missing : Bytes}
    (split : encode audio [] = front ++ missing) (nonempty : missing ≠ []) :
    decode (S := S) front = if front = [] then .ok none else .error .codec := by
  rw [encode_nil] at split
  cases front with
  | nil => rfl
  | cons byte bytes =>
      simp [decode, Audio.codec.deserialize_strictPrefix split nonempty]

/-- The audio wire format is an exact prefix code at every sample type: a
message is recovered in front of any continuation, and no strict prefix of its
encoding is a message. -/
theorem decode_exact (format : SampleFormat) (audio : Audio format.Carrier) (rest : Bytes) :
    decode (encode audio [] ++ rest) = .ok (some audio) ∧
      ∀ front missing, encode audio [] = front ++ missing → missing ≠ [] →
        decode (S := format.Carrier) front = if front = [] then .ok none else .error .codec :=
  ⟨decode_encode_append audio rest, fun _ _ => decode_strictPrefix⟩

/-- A handshake read from a longer datagram, and a handshake cut after its
first byte. -/
theorem decode_exact_handshake :
    decode (S := Int16) (encode (S := Int16) .handshake [] ++ [7]) = .ok (some .handshake) ∧
      decode (S := Int16) [0] = .error .codec :=
  ⟨(decode_exact .i16 .handshake [7]).1,
    (decode_exact .i16 .handshake []).2 [0] [0, 0, 0] rfl (by decide)⟩

end AudioCodec

end Bug
