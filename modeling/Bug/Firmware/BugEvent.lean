import Bug.Event.Codec

/-!
# The firmware's event encoder

`BugEventCodec::encode` writes an event into a buffer with a macro that stores
four bytes of its argument and advances an offset.  Words of 64 bits are stored
as two such halves.  Signed fields reach the macro through the usual arithmetic
conversions, so only their bit patterns matter.
-/

namespace Bug.Firmware

open Bug.Encoding

structure TimeRange where
  startedAt : UInt64
  endedAt : UInt64
  deriving DecidableEq

structure Position where
  start : Coordinates
  stop : Coordinates
  deriving DecidableEq

structure Luminosity where
  start : Int32
  stop : Int32
  deriving DecidableEq

def Position.kind : Int32 := 1

def Luminosity.kind : Int32 := 2

inductive BugEventKind where
  | luminosity (levels : Luminosity)
  | position (path : Position)
  deriving DecidableEq

/-- The memory behind the buffer pointer and the write offset into it. -/
structure Buffer where
  memory : Nat → UInt8
  offset : Nat

namespace Buffer

/-- The bytes between the start of the buffer and the offset. -/
def written (buffer : Buffer) : Bytes :=
  (List.range buffer.offset).map buffer.memory

def store (buffer : Buffer) (index : Nat) (value : UInt8) : Buffer :=
  { buffer with memory := Function.update buffer.memory (buffer.offset + index) value }

/-- The macro `encode_little_endian_4`.  The argument is a 32-bit or 64-bit
pattern; the assignment to a byte truncates. -/
def encodeLittleEndian4 {width : Nat} (buffer : Buffer) (data : BitVec width) : Buffer :=
  let buffer := buffer.store 3 (UInt8.ofNat ((data &&& 0xff000000) >>> 24).toNat)
  let buffer := buffer.store 2 (UInt8.ofNat ((data &&& 0x00ff0000) >>> 16).toNat)
  let buffer := buffer.store 1 (UInt8.ofNat ((data &&& 0x0000ff00) >>> 8).toNat)
  let buffer := buffer.store 0 (UInt8.ofNat (data &&& 0x000000ff).toNat)
  { buffer with offset := buffer.offset + 4 }

end Buffer

structure BugEventCodec where
  secret : UInt64

namespace BugEventCodec

/-- `ntp_secs + t / 1000`: the signed addend is sign-extended to 64 bits. -/
def timestampSecs (ntpSecs : Int32) (time : UInt64) : UInt64 :=
  ntpSecs.toInt64.toUInt64 + time / 1000

/-- `(t % 1000) * 1000000`, stored in 32 bits. -/
def timestampNsecs (time : UInt64) : UInt32 :=
  (time % 1000 * 1000000).toUInt32

/-- The visitor of the event kind. -/
def encodeKind (buffer : Buffer) : BugEventKind → Buffer
  | .position position =>
      buffer.encodeLittleEndian4 Position.kind.toBitVec
        |>.encodeLittleEndian4 position.start.1.toBitVec
        |>.encodeLittleEndian4 position.start.2.1.toBitVec
        |>.encodeLittleEndian4 position.start.2.2.toBitVec
        |>.encodeLittleEndian4 position.stop.1.toBitVec
        |>.encodeLittleEndian4 position.stop.2.1.toBitVec
        |>.encodeLittleEndian4 position.stop.2.2.toBitVec
  | .luminosity luminosity =>
      buffer.encodeLittleEndian4 Luminosity.kind.toBitVec
        |>.encodeLittleEndian4 luminosity.start.toBitVec
        |>.encodeLittleEndian4 luminosity.stop.toBitVec

/-- The buffer after `encode`; its offset is the returned length. -/
def encode (codec : BugEventCodec) (memory : Nat → UInt8) (kind : BugEventKind)
    (range : TimeRange) (ntpSecs : Int32) : Buffer :=
  let startedAtSecs := timestampSecs ntpSecs range.startedAt
  let startedAtNsecs := timestampNsecs range.startedAt
  let endedAtSecs := timestampSecs ntpSecs range.endedAt
  let endedAtNsecs := timestampNsecs range.endedAt
  let buffer : Buffer := { memory := memory, offset := 0 }
  let buffer := buffer.encodeLittleEndian4 codec.secret.toBitVec
    |>.encodeLittleEndian4 (codec.secret >>> 32).toBitVec
    |>.encodeLittleEndian4 startedAtSecs.toBitVec
    |>.encodeLittleEndian4 (startedAtSecs >>> 32).toBitVec
    |>.encodeLittleEndian4 startedAtNsecs.toBitVec
    |>.encodeLittleEndian4 endedAtSecs.toBitVec
    |>.encodeLittleEndian4 (endedAtSecs >>> 32).toBitVec
    |>.encodeLittleEndian4 endedAtNsecs.toBitVec
  encodeKind buffer kind

end BugEventCodec

/-! ## The macro writes little-endian digits -/

namespace Buffer

/-- Four stores followed by the advance of the offset append four bytes. -/
theorem written_store_four (buffer : Buffer) (byte0 byte1 byte2 byte3 : UInt8) :
    written { (buffer.store 3 byte3 |>.store 2 byte2 |>.store 1 byte1 |>.store 0 byte0) with
        offset := buffer.offset + 4 } =
      buffer.written ++ [byte0, byte1, byte2, byte3] := by
  have unroll : List.range (buffer.offset + 4) = List.range buffer.offset ++
      [buffer.offset, buffer.offset + 1, buffer.offset + 2, buffer.offset + 3] := by
    simp [List.range_succ]
  rw [written, unroll, List.map_append]
  congr 1
  · apply List.map_congr_left
    intro index member
    have before := List.mem_range.mp member
    simp only [store]
    repeat rw [Function.update_of_ne (by omega)]
  · simp [store]

/-- A byte selected by a mask and shifted into place is a base-256 digit. -/
theorem ofNat_masked {width : Nat} (wide : 32 ≤ width) (data : BitVec width)
    (mask shift : Nat) (fits : mask < 2 ^ 32) (byte : mask >>> shift = 2 ^ 8 - 1) :
    UInt8.ofNat ((data &&& BitVec.ofNat width mask) >>> shift).toNat =
      UInt8.ofNat (data.toNat / 2 ^ shift) := by
  have maskLt : mask < 2 ^ width := lt_of_lt_of_le fits (Nat.pow_le_pow_right (by decide) wide)
  rw [BitVec.toNat_ushiftRight, BitVec.toNat_and, BitVec.toNat_ofNat, Nat.mod_eq_of_lt maskLt,
    Nat.shiftRight_and_distrib, byte, Nat.and_two_pow_sub_one_eq_mod, Nat.shiftRight_eq_div_pow]
  apply UInt8.toNat_inj.mp
  simp

theorem leBytes_four (value : Nat) :
    leBytes 4 value = [UInt8.ofNat (value / 2 ^ 0), UInt8.ofNat (value / 2 ^ 8),
      UInt8.ofNat (value / 2 ^ 16), UInt8.ofNat (value / 2 ^ 24)] := by
  simp [leBytes, Nat.div_div_eq_div_mul]

theorem written_encodeLittleEndian4 {width : Nat} (wide : 32 ≤ width) (buffer : Buffer)
    (data : BitVec width) :
    (buffer.encodeLittleEndian4 data).written = buffer.written ++ leBytes 4 data.toNat := by
  refine (written_store_four buffer _ _ _ _).trans ?_
  rw [leBytes_four, ← ofNat_masked wide data 0x000000ff 0 (by decide) (by decide),
    ← ofNat_masked wide data 0x0000ff00 8 (by decide) (by decide),
    ← ofNat_masked wide data 0x00ff0000 16 (by decide) (by decide),
    ← ofNat_masked wide data 0xff000000 24 (by decide) (by decide), BitVec.ushiftRight_zero]
  rfl

@[simp]
theorem offset_encodeLittleEndian4 {width : Nat} (buffer : Buffer) (data : BitVec width) :
    (buffer.encodeLittleEndian4 data).offset = buffer.offset + 4 :=
  rfl

/-- Nothing behind the advanced offset is touched. -/
theorem memory_encodeLittleEndian4 {width : Nat} (buffer : Buffer) (data : BitVec width)
    {index : Nat} (behind : (buffer.encodeLittleEndian4 data).offset ≤ index) :
    (buffer.encodeLittleEndian4 data).memory index = buffer.memory index := by
  rw [offset_encodeLittleEndian4] at behind
  simp only [encodeLittleEndian4, store]
  repeat rw [Function.update_of_ne (by omega)]

end Buffer

/-! ## Agreement with the backend's decoder -/

/-- The payload that the backend knows an event kind as. -/
def BugEventKind.payload : BugEventKind → EventPayload
  | .luminosity levels => .luminosity levels.start levels.stop
  | .position path => .position path.start path.stop

namespace BugEventCodec

/-- The event that the backend should receive. -/
def event (codec : BugEventCodec) (kind : BugEventKind) (range : TimeRange)
    (ntpSecs : Int32) : Event where
  secret := codec.secret
  startedAtSecs := (timestampSecs ntpSecs range.startedAt).toInt64
  startedAtNsecs := timestampNsecs range.startedAt
  endedAtSecs := (timestampSecs ntpSecs range.endedAt).toInt64
  endedAtNsecs := timestampNsecs range.endedAt
  payload := kind.payload

theorem written_halves (buffer : Buffer) (word : UInt64) :
    (buffer.encodeLittleEndian4 word.toBitVec |>.encodeLittleEndian4
        (word >>> 32).toBitVec).written =
      buffer.written ++ leBytes 8 word.toNat := by
  rw [Buffer.written_encodeLittleEndian4 (by decide),
    Buffer.written_encodeLittleEndian4 (by decide), List.append_assoc,
    show (8 : Nat) = 4 + 4 from rfl, leBytes_add]
  rw [UInt64.toNat_toBitVec, UInt64.toNat_toBitVec, UInt64.toNat_shiftRight,
    Nat.shiftRight_eq_div_pow]
  rfl

theorem written_encodeKind (buffer : Buffer) (kind : BugEventKind) :
    (encodeKind buffer kind).written =
      buffer.written ++ EventPayload.codec.encode kind.payload := by
  cases kind <;>
    simp only [encodeKind, Buffer.written_encodeLittleEndian4 (Nat.le_refl 32),
      List.append_assoc] <;>
    rfl

/-- The encoder writes exactly the wire form of the event. -/
theorem written_encode (codec : BugEventCodec) (memory : Nat → UInt8) (kind : BugEventKind)
    (range : TimeRange) (ntpSecs : Int32) :
    (codec.encode memory kind range ntpSecs).written =
      EventCodec.encode (codec.event kind range ntpSecs) [] := by
  simp only [encode, written_encodeKind, written_halves,
    Buffer.written_encodeLittleEndian4 (Nat.le_refl 32), List.append_assoc]
  rfl

theorem toInt64_timestampSecs (ntpSecs : Int32) (time : UInt64) :
    (timestampSecs ntpSecs time).toInt64 =
      Int64.ofInt (ntpSecs.toInt + (time.toNat / 1000 : Nat)) := by
  have quotient : UInt64.ofNat (time.toNat / 1000) = time / 1000 := by
    apply UInt64.toNat_inj.mp
    rw [UInt64.toNat_div, UInt64.toNat_ofNat_of_lt']
    · rfl
    · exact lt_of_le_of_lt (Nat.div_le_self _ _) time.toNat_lt
  rw [Int64.ofInt_add, Int64.ofInt_int32ToInt, Int64.ofInt_eq_ofNat, ← UInt64.toInt64_ofNat',
    quotient]
  rfl

theorem toNat_timestampNsecs (time : UInt64) :
    (timestampNsecs time).toNat = time.toNat % 1000 * 1000000 := by
  have small : time.toNat % 1000 < 1000 := Nat.mod_lt _ (by decide)
  rw [timestampNsecs, UInt64.toNat_toUInt32, UInt64.toNat_mul, UInt64.toNat_mod]
  simp
  omega

theorem offset_encode_le (codec : BugEventCodec) (memory : Nat → UInt8) (kind : BugEventKind)
    (range : TimeRange) (ntpSecs : Int32) :
    (codec.encode memory kind range ntpSecs).offset ≤ 128 := by
  cases kind <;> simp [encode, encodeKind]

theorem memory_encode (codec : BugEventCodec) (memory : Nat → UInt8) (kind : BugEventKind)
    (range : TimeRange) (ntpSecs : Int32) {index : Nat}
    (behind : (codec.encode memory kind range ntpSecs).offset ≤ index) :
    (codec.encode memory kind range ntpSecs).memory index = memory index := by
  cases kind <;>
    simp [encode, encodeKind] at behind ⊢ <;>
    repeat rw [Buffer.memory_encodeLittleEndian4 _ _ (by simp; omega)]

/-- What the encoder wrote decodes to the event, with nothing left over. -/
theorem decode_written_encode (codec : BugEventCodec) (memory : Nat → UInt8)
    (kind : BugEventKind) (range : TimeRange) (ntpSecs : Int32) :
    EventCodec.decode (codec.encode memory kind range ntpSecs).written =
      (.ok (some (codec.event kind range ntpSecs)), []) := by
  rw [written_encode, EventCodec.decode_of_ne_nil (EventCodec.encode_ne_nil _),
    EventCodec.item_eq_ok_iff.mpr ⟨[], (List.append_nil _).symm⟩]
  rfl

/-- The firmware's encoder and the backend's decoder agree on every event: the
encoder stays inside the 128 bytes of its buffer, and what it wrote decodes to
the same secret, instants and payload. -/
theorem decode_encode_agrees (codec : BugEventCodec) (memory : Nat → UInt8)
    (kind : BugEventKind) (range : TimeRange) (ntpSecs : Int32) :
    let buffer := codec.encode memory kind range ntpSecs
    buffer.offset ≤ 128 ∧
      (∀ index, buffer.memory (buffer.offset + index) = memory (buffer.offset + index)) ∧
      ∃ event, EventCodec.decode buffer.written = (.ok (some event), []) ∧
        event.secret = codec.secret ∧
        event.startedAtSecs =
          Int64.ofInt (ntpSecs.toInt + (range.startedAt.toNat / 1000 : Nat)) ∧
        event.startedAtNsecs.toNat = range.startedAt.toNat % 1000 * 1000000 ∧
        event.startedAtNsecs.toNat < 1000000000 ∧
        event.endedAtSecs =
          Int64.ofInt (ntpSecs.toInt + (range.endedAt.toNat / 1000 : Nat)) ∧
        event.endedAtNsecs.toNat = range.endedAt.toNat % 1000 * 1000000 ∧
        event.endedAtNsecs.toNat < 1000000000 ∧
        event.payload = kind.payload := by
  have decoded := decode_written_encode codec memory kind range ntpSecs
  have startNsecs := toNat_timestampNsecs range.startedAt
  have endNsecs := toNat_timestampNsecs range.endedAt
  refine ⟨offset_encode_le codec memory kind range ntpSecs, ?_, codec.event kind range ntpSecs,
    decoded, rfl, toInt64_timestampSecs _ _, startNsecs, ?_, toInt64_timestampSecs _ _, endNsecs,
    ?_, rfl⟩
  · exact fun index => memory_encode codec memory kind range ntpSecs (Nat.le_add_right _ index)
  · change (timestampNsecs range.startedAt).toNat < 1000000000
    omega
  · change (timestampNsecs range.endedAt).toNat < 1000000000
    omega

end BugEventCodec

end Bug.Firmware
