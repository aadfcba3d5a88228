import Bug.Audio.NoiseGate
import Bug.Audio.Server

/-!
# The handshake between client and server

A client that streams to a server without a handler for it is to be asked for
its format.  The server reads the messages of unknown senders with 32-bit
samples whatever the client writes: every message but a chunk has one encoding
at all sample types, and a chunk of narrower samples is too short to be read.
-/

namespace Bug

open Bug.Encoding

/-! ## The client -/

structure AudioCollector (S : Type) where
  serverAddress : SocketAddr
  noiseGate : NoiseGate S
  sink : AudioSink S

namespace AudioCollector

variable {S : Type} [Sample S]

/-- The stream handler on one item of the socket, and the messages it sends. -/
def handle (collector : AudioCollector S) (item : Except AudioCodec.Error (Audio S × SocketAddr)) :
    AudioCollector S × List (Audio S) :=
  match item with
  | .ok (audio, reqAddress) =>
      if reqAddress ≠ collector.serverAddress then
        (collector, [])
      else
        match audio with
        | .handshake =>
            let (sink, sent) := collector.sink.writeSpec
            ({ collector with sink := sink }, sent)
        | _ => (collector, [])
  | .error _ => (collector, [])

/-- The framed socket: a datagram is decoded and handed on with its sender. -/
def receive (collector : AudioCollector S) (datagram : Bytes) (sender : SocketAddr) :
    AudioCollector S × List (Audio S) :=
  match AudioCodec.decode datagram with
  | .ok (some audio) => collector.handle (.ok (audio, sender))
  | .ok none => (collector, [])
  | .error error => collector.handle (.error error)

/-- A handshake from the server is answered with the format. -/
theorem receive_handshake {collector : AudioCollector S} {datagram : Bytes}
    (decoded : AudioCodec.decode (S := S) datagram = .ok (some .handshake)) :
    collector.receive datagram collector.serverAddress =
      (collector, [.spec collector.sink.secret collector.sink.spec]) := by
  simp [receive, decoded, handle, AudioSink.writeSpec]

end AudioCollector

/-! ## One encoding at all sample types -/

namespace Audio

variable {S T : Type} [Sample S] [Sample T]

theorem encode_handshake_eq :
    codec.encode (.handshake : Audio S) = codec.encode (.handshake : Audio T) := by
  rw [encode_eq, encode_eq]
  rfl

theorem encode_spec_eq (secret : UInt64) (format : Bug.Spec) :
    codec.encode (.spec secret format : Audio S) =
      codec.encode (.spec secret format : Audio T) := by
  rw [encode_eq, encode_eq]
  rfl

theorem encode_wavEnd_eq (id : Uuid) :
    codec.encode (.wavEnd id : Audio S) = codec.encode (.wavEnd id : Audio T) := by
  rw [encode_eq, encode_eq]
  rfl

end Audio

/-! ## The length of a chunk -/

section Width

variable {S T : Type} [Sample S] [Sample T] {width wider : Nat}

theorem WavChunkPayload.hasWidth_codec (sampleWidth : (Sample.codec (S := S)).HasWidth width) :
    (WavChunkPayload.codec (S := S)).HasWidth (wavChunkPayloadSize * width) := by
  intro payload
  have lengths : payload.samples.map (fun sample => (Sample.codec.encode sample).length) =
      List.replicate payload.samples.length width :=
    List.map_eq_replicate_iff.mpr fun sample _ => sampleWidth sample
  have total : (WavChunkPayload.codec.encode payload).length =
      (payload.samples.map fun sample => (Sample.codec.encode sample).length).sum :=
    List.length_flatMap
  rw [total, lengths, List.sum_replicate_nat, payload.length_samples]

theorem WavChunk.hasWidth_codec (sampleWidth : (Sample.codec (S := S)).HasWidth width) :
    (WavChunk.codec (S := S)).HasWidth (24 + (4 + (1 + wavChunkPayloadSize * width))) := by
  apply Codec.HasWidth.ofEquiv
  apply Uuid.hasWidth_codec.pair
  apply Codec.hasWidth_u32.pair
  exact Codec.hasWidth_byte.pair (WavChunkPayload.hasWidth_codec sampleWidth)

/-- A chunk is too short to be read with wider samples. -/
theorem Audio.deserialize_wavChunk_of_lt (sampleWidth : (Sample.codec (S := S)).HasWidth width)
    (widerWidth : (Sample.codec (S := T)).HasWidth wider) (shorter : width < wider)
    (chunk : WavChunk S) :
    Audio.codec.deserialize (α := Audio T) (Audio.codec.encode (.wavChunk chunk)) = none := by
  cases decoded : Audio.codec.deserialize (α := Audio T) (Audio.codec.encode (.wavChunk chunk)) with
  | none => rfl
  | some audio =>
      rcases Audio.codec.deserialize_eq_some_iff.mp decoded with ⟨rest, equal⟩
      rw [Audio.encode_eq, Audio.encode_eq, ← Codec.variant_encode (by decide),
        ← Codec.variant_encode (by decide), List.append_assoc] at equal
      rcases Codec.encode_append_inj _ equal with ⟨variantEq, bodyEq⟩
      cases audio with
      | handshake => cases variantEq
      | spec secret format => cases variantEq
      | wavEnd id => cases variantEq
      | wavChunk other =>
          have lengths : (WavChunk.codec.encode chunk).length =
              (WavChunk.codec.encode other).length + rest.length :=
            (congrArg List.length bodyEq).trans List.length_append
          rw [WavChunk.hasWidth_codec sampleWidth, WavChunk.hasWidth_codec widerWidth,
            wavChunkPayloadSize] at lengths
          omega

end Width

/-- The bytes of one sample. -/
def SampleFormat.width : SampleFormat → Nat
  | u16 => 2
  | i16 => 2
  | f32 => 4

theorem SampleFormat.hasWidth_codec (format : SampleFormat) :
    (Sample.codec (S := format.Carrier)).HasWidth format.width := by
  cases format with
  | u16 => exact Codec.hasWidth_u16
  | i16 => exact Codec.hasWidth_u16.ofEquiv _
  | f32 => exact Codec.hasWidth_u32.ofEquiv _

theorem SampleFormat.width_lt {format : SampleFormat} (narrow : format ≠ .f32) :
    format.width < SampleFormat.width .f32 := by
  cases format with
  | u16 => decide
  | i16 => decide
  | f32 => exact absurd rfl narrow

/-! ## The server's answer to an unknown sender -/

namespace AudioServer

/-- The answer is one that makes the client send its format. -/
def Requests (format : SampleFormat) (response : Bytes) : Prop :=
  AudioCodec.decode (S := format.Carrier) response = .ok (some .handshake) ∧
    ∀ collector : AudioCollector format.Carrier,
      collector.receive response collector.serverAddress =
        (collector, [.spec collector.sink.secret collector.sink.spec])

/-- A message from an unknown sender leads to a handler: a format is looked up as
it was sent, and anything else is answered by the request for it. -/
def Recovers (server : AudioServer) (clientAddr : SocketAddr) (format : SampleFormat)
    (message : Audio format.Carrier) : Prop :=
  match message with
  | .spec secret spec =>
      server.handle ⟨AudioCodec.encode message [], clientAddr⟩ =
        ({ server with waiting := some (clientAddr, spec) }, [.select secret])
  | _ =>
      ∃ response, server.handle ⟨AudioCodec.encode message [], clientAddr⟩ =
          (server, [.write response clientAddr]) ∧
        Requests format response

/-- The server's handshake is one at every sample type. -/
theorem requests_handshake (format : SampleFormat) : Requests format handshake := by
  have decoded : AudioCodec.decode (S := format.Carrier) handshake = .ok (some .handshake) := by
    have sameBytes :
        handshake = AudioCodec.encode (.handshake : Audio format.Carrier) [] ++ [] := by
      rw [List.append_nil]
      exact Audio.encode_handshake_eq
    rw [sameBytes]
    exact AudioCodec.decode_encode_append _ _
  exact ⟨decoded, fun collector => AudioCollector.receive_handshake decoded⟩

section Unknown

variable {server : AudioServer} {clientAddr : SocketAddr}
  (unknown : server.writers.lookup clientAddr = none)

include unknown

theorem handle_of_decoded {buf : Bytes} {audio : Audio F32}
    (decoded : Audio.codec.deserialize buf = some audio)
    (other : ∀ secret spec, audio ≠ .spec secret spec) :
    server.handle ⟨buf, clientAddr⟩ = (server, [.write handshake clientAddr]) := by
  cases audio with
  | spec secret spec => exact absurd rfl (other secret spec)
  | handshake => simp only [handle, unknown, decoded]
  | wavChunk chunk => simp only [handle, unknown, decoded]
  | wavEnd id => simp only [handle, unknown, decoded]

theorem handle_spec (format : SampleFormat) (secret : UInt64) (spec : Spec) :
    server.handle
        ⟨AudioCodec.encode (.spec secret spec : Audio format.Carrier) [], clientAddr⟩ =
      ({ server with waiting := some (clientAddr, spec) }, [.select secret]) := by
  rw [AudioCodec.encode_nil, Audio.encode_spec_eq (T := F32)]
  simp only [handle, unknown, Codec.deserialize_encode]

/-- A chunk of narrower samples goes unanswered. -/
theorem handle_wavChunk_of_ne {format : SampleFormat} (narrow : format ≠ .f32)
    (chunk : WavChunk format.Carrier) :
    server.handle ⟨AudioCodec.encode (.wavChunk chunk) [], clientAddr⟩ = (server, []) := by
  have unread := Audio.deserialize_wavChunk_of_lt (T := F32) format.hasWidth_codec
    (SampleFormat.hasWidth_codec .f32) (SampleFormat.width_lt narrow) chunk
  rw [AudioCodec.encode_nil]
  simp only [handle, unknown, unread]

theorem not_recovers_of_ne {format : SampleFormat} (narrow : format ≠ .f32)
    (chunk : WavChunk format.Carrier) :
    ¬ server.Recovers clientAddr format (.wavChunk chunk) := by
  rintro ⟨response, answered, -⟩
  rw [handle_wavChunk_of_ne unknown narrow] at answered
  cases answered

/-- Every message but a chunk of narrower samples leads a client without a
handler to one, whatever its sample type. -/
theorem recovers_iff (format : SampleFormat) (message : Audio format.Carrier) :
    server.Recovers clientAddr format message ↔
      format = .f32 ∨ ∀ chunk, message ≠ .wavChunk chunk := by
  have requests := requests_handshake format
  constructor
  · intro recovers
    cases message with
    | wavChunk chunk =>
        by_contra broken
        rw [not_or] at broken
        exact not_recovers_of_ne unknown broken.1 chunk recovers
    | handshake => exact Or.inr nofun
    | spec secret spec => exact Or.inr nofun
    | wavEnd id => exact Or.inr nofun
  · intro readable
    cases message with
    | spec secret spec => exact handle_spec unknown format secret spec
    | handshake =>
        refine ⟨handshake, ?_, requests⟩
        rw [AudioCodec.encode_nil, Audio.encode_handshake_eq (T := F32)]
        exact handle_of_decoded unknown (Codec.deserialize_encode _ _) nofun
    | wavEnd id =>
        refine ⟨handshake, ?_, requests⟩
        rw [AudioCodec.encode_nil, Audio.encode_wavEnd_eq (T := F32)]
        exact handle_of_decoded unknown (Codec.deserialize_encode _ _) nofun
    | wavChunk chunk =>
        rcases readable with rfl | noChunk
        · refine ⟨handshake, ?_, requests⟩
          rw [AudioCodec.encode_nil]
          exact handle_of_decoded unknown (Codec.deserialize_encode _ _) nofun
        · exact absurd rfl (noChunk chunk)

end Unknown

/-- What a client streams next. -/
def chunk (S : Type) [Sample S] : WavChunk S :=
  ⟨.ofNat 7, 1, 0, default⟩

/-- A restarted server never asks a client that streams 16-bit samples for its
format. -/
theorem not_recovers_i16 :
    ¬ (new ["wav"]).Recovers (.v4 2130706433 3003) .i16 (.wavChunk (chunk Int16)) := by
  have narrow : SampleFormat.i16 ≠ .f32 := by decide
  exact not_recovers_of_ne (AList.lookup_empty _) narrow (chunk Int16)

/-- A client that streams 32-bit samples is asked. -/
theorem recovers_f32 :
    (new ["wav"]).Recovers (.v4 2130706433 3003) .f32 (.wavChunk (chunk F32)) :=
  (recovers_iff (AList.lookup_empty _) .f32 (.wavChunk (chunk F32))).mpr (Or.inl rfl)

end AudioServer

end Bug
