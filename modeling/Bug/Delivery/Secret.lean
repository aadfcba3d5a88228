import Bug.Audio.Handshake
import Bug.Db.Credentials
import Bug.Encoding.Hex
import Bug.Firmware.BugEvent

/-!
# The path of a device secret

A secret is stored as big-endian bytes, shown to the user as a hexadecimal
number, read by the audio client from its command line or built into the
firmware, sent in little-endian words and looked up as big-endian bytes again.
Every conversion on this path is undone by the next one.
-/

namespace Bug.Delivery

open Bug.Db
open Bug.Encoding
open Bug.Transition

/-- The secret as the response of the device's creation shows it. -/
def compactPfx (secret : UInt64) : String :=
  String.ofList ('0' :: 'x' :: Hex.digits secret.toNat)

/-- `trim_start_matches("0x")`: every leading prefix goes. -/
def trimStartMatches : List Char → List Char
  | '0' :: 'x' :: chars => trimStartMatches chars
  | chars => chars

/-- `parse_hex` of the audio client. -/
def parseHex (src : String) : Except Hex.ParseIntError UInt64 :=
  (Hex.fromStrRadix (2 ^ 64) (trimStartMatches src.toList)).map UInt64.ofNat

theorem trimStartMatches_of_not_mem {chars : List Char} (plain : 'x' ∉ chars) :
    trimStartMatches chars = chars := by
  unfold trimStartMatches
  split
  · exact absurd (List.mem_cons_of_mem _ List.mem_cons_self) plain
  · rfl

/-- What is shown is read back, also a secret with leading zeros. -/
theorem parseHex_compactPfx (secret : UInt64) : parseHex (compactPfx secret) = .ok secret := by
  have plain : 'x' ∉ Hex.digits secret.toNat := by
    intro present
    exact (Hex.ne_of_mem_digits present).2.2 rfl
  have trimmed : trimStartMatches (compactPfx secret).toList = Hex.digits secret.toNat := by
    rw [compactPfx, String.toList_ofList, trimStartMatches, trimStartMatches_of_not_mem plain]
  rw [parseHex, trimmed, Hex.fromStrRadix_digits secret.toNat_lt]
  simp [Except.map]

/-- A device announces its format in a message that the server decodes at its
own sample type. -/
theorem decode_spec {S : Type} [Sample S] (secret : UInt64) (spec : Spec) :
    AudioCodec.decode (AudioCodec.encode (.spec secret spec : Audio S) []) =
      .ok (some (.spec secret spec : Audio F32)) := by
  have same : AudioCodec.encode (.spec secret spec : Audio S) [] =
      AudioCodec.encode (.spec secret spec : Audio F32) [] ++ [] := by
    rw [List.append_nil]
    exact Audio.encode_spec_eq secret spec
  rw [same, AudioCodec.decode_encode_append]

/-- Every event of the firmware decodes to an event with its secret. -/
theorem decode_event (codec : Firmware.BugEventCodec) (memory : Nat → UInt8)
    (kind : Firmware.BugEventKind) (range : Firmware.TimeRange) (ntpSecs : Int32) :
    EventCodec.decode (codec.encode memory kind range ntpSecs).written =
      (.ok (some (codec.event kind range ntpSecs)), []) := by
  rw [Firmware.BugEventCodec.written_encode]
  have decoded := EventCodec.decode_encode_append (codec.event kind range ntpSecs) []
  rwa [List.append_nil] at decoded

open Database in
/-- A secret answered by a device's creation survives its whole path: the shown
text is read back, the audio client's announcement and every event of the
firmware decode to it, and until the device is deleted the lookup by it finds
the device and no device of another secret. -/
theorem secret_survives {workers index : Nat} {before after : List Action}
    {creating created database : Database} {device : Device} {secret : UInt64}
    (started : follow step (new workers) before = some creating)
    (committed : step creating (.commit index true) = some created)
    (answered : created.replies.getLast? = some (.created device secret))
    (continued : follow step created after = some database)
    (kept : ∀ acknowledged, .deleteDevice device.id acknowledged ∉ after) :
    parseHex (compactPfx secret) = .ok secret ∧
    (∀ (format : SampleFormat) (spec : Spec),
      AudioCodec.decode
          (AudioCodec.encode (.spec secret spec : Audio format.Carrier) []) =
        .ok (some (.spec secret spec : Audio F32))) ∧
    (∀ (memory : Nat → UInt8) (kind : Firmware.BugEventKind) (range : Firmware.TimeRange)
        (ntpSecs : Int32), ∃ event,
      EventCodec.decode
          ((⟨secret⟩ : Firmware.BugEventCodec).encode memory kind range ntpSecs).written =
        (.ok (some event), []) ∧ event.secret = secret) ∧
    device ∈ database.committed.selectBySecret secret ∧
    (∀ other otherSecret, database.committed.HasSecret other otherSecret →
      (other ∈ database.committed.selectBySecret secret ↔ otherSecret = secret)) := by
  have creatingConsistent := consistent_of_reached started
  have createdConsistent := creatingConsistent.of_transition (transition_of_step committed)
  have consistent := createdConsistent.of_follow continued
  have stored : database.committed.HasSecret device secret :=
    hasSecret_of_follow continued (hasSecret_of_created creatingConsistent committed answered) kept
  constructor
  · exact parseHex_compactPfx secret
  constructor
  · intro format spec
    exact decode_spec secret spec
  constructor
  · intro memory kind range ntpSecs
    exact ⟨_, decode_event ⟨secret⟩ memory kind range ntpSecs, rfl⟩
  constructor
  · exact (Tables.mem_selectBySecret_iff _ _ _).mpr stored
  · intro other otherSecret otherStored
    rw [Tables.mem_selectBySecret_iff]
    constructor
    · intro found
      exact consistent.secret_unique otherStored found
    · rintro rfl
      exact otherStored

open Database in
/-- The secret seven of a device that is looked up after another device was
deleted. -/
theorem secret_survives_seven :
    ∃ creating created database : Database,
      follow step (new 1)
        [.begin 0 ⟨"bug", ""⟩, .insertDevice 0 (.ofNat 1), .insertCredential 0 (.ofNat 2) 7] =
          some creating ∧
      step creating (.commit 0 true) = some created ∧
      follow step created [.deleteDevice (.ofNat 5) true] = some database ∧
      parseHex (compactPfx 7) = .ok 7 ∧
      ⟨.ofNat 1, "bug", ""⟩ ∈ database.committed.selectBySecret 7 := by
  have kept : ∀ acknowledged, Action.deleteDevice (.ofNat 1) acknowledged ∉
      [Action.deleteDevice (.ofNat 5) true] := by
    intro acknowledged later
    cases List.mem_singleton.mp later
  have survives := @secret_survives 1 0
    [.begin 0 ⟨"bug", ""⟩, .insertDevice 0 (.ofNat 1), .insertCredential 0 (.ofNat 2) 7]
    [.deleteDevice (.ofNat 5) true] _ _ _ ⟨.ofNat 1, "bug", ""⟩ 7 rfl rfl rfl rfl kept
  exact ⟨_, _, _, rfl, rfl, rfl, survives.1, survives.2.2.2.1⟩

end Bug.Delivery
