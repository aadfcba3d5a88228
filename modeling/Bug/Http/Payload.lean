import Bug.Db.Jsonb
import Bug.Db.Query
import Bug.Delivery.Secret

/-!
# What the endpoints accept and answer

Rows are answered as records of their columns; an identifier is its hyphenated
text.  A record from which a new row is made is read by the names of its members
or, from an array, by their positions.
-/

namespace Bug

open Bug.Encoding

/-- An instant outside of every leap second. -/
def DateTime.Regular (instant : DateTime) : Prop :=
  instant.nsecs < 1000000000

instance (instant : DateTime) : Decidable instant.Regular :=
  inferInstanceAs (Decidable (_ < _))

/-- The text formats of the libraries behind the endpoints. -/
structure Formats where
  /-- `Uuid::parse_str`. -/
  parseUuid : String → Option Uuid
  parseUuid_toString : ∀ id : Uuid, parseUuid (toString id) = some id
  /-- A `DateTime<Utc>` as text. -/
  dateTime : DateTime → String
  dateTime_injOn : Set.InjOn dateTime {instant | instant.Regular}
  /-- The texts of errors. -/
  display : Db.Error → String
  displayMailbox : Db.MailboxError → String

namespace Uuid

def serialize (id : Uuid) : Json :=
  .string (toString id)

def deserialize (formats : Formats) : Json → Option Uuid
  | .string text => formats.parseUuid text
  | _ => none

theorem deserialize_serialize (formats : Formats) (id : Uuid) :
    deserialize formats id.serialize = some id :=
  formats.parseUuid_toString id

theorem serialize_injective : Function.Injective serialize := by
  intro left right same
  exact toString_injective (Json.string.inj same)

end Uuid

namespace Db

open Serde

namespace EventKind

def serialize : EventKind → Json
  | sound => .string "sound"
  | position => .string "position"
  | luminosity => .string "luminosity"

def deserialize : Json → Option EventKind
  | .string "sound" => some sound
  | .string "position" => some position
  | .string "luminosity" => some luminosity
  | _ => none

theorem deserialize_serialize (kind : EventKind) : deserialize kind.serialize = some kind := by
  cases kind with
  | sound => rfl
  | position => rfl
  | luminosity => rfl

theorem serialize_injective : Function.Injective serialize := by
  intro left right same
  have read := congrArg deserialize same
  rw [deserialize_serialize, deserialize_serialize] at read
  exact Option.some.inj read

end EventKind

/-! ## Answered rows -/

namespace Device

/-- The columns of a device. -/
def members (device : Device) : List (String × Json) :=
  [("id", device.id.serialize), ("name", .string device.name),
    ("description", .string device.description)]

def serialize (device : Device) : Json :=
  .object device.members

/-- `NewDeviceRes`. -/
def serializeNew (created : Device × UInt64) : Json :=
  .object (created.1.members ++ [("secret", .string (Delivery.compactPfx created.2))])

theorem serialize_injective : Function.Injective serialize := by
  rintro ⟨leftId, leftName, leftDescription⟩ ⟨rightId, rightName, rightDescription⟩ same
  simp only [serialize, members, Json.object.injEq, List.cons.injEq, Prod.mk.injEq,
    Json.string.injEq, true_and, and_true] at same
  rcases same with ⟨ids, rfl, rfl⟩
  rw [Uuid.serialize_injective ids]

end Device

namespace Label

def serialize (label : Label) : Json :=
  .object [("id", label.id.serialize), ("event_kind", label.eventKind.serialize),
    ("name", .string label.name), ("description", .string label.description),
    ("rule", Serde.serialize label.rule), ("device_id", label.deviceId.serialize)]

theorem serialize_injective : Function.Injective serialize := by
  rintro ⟨leftId, leftKind, leftName, leftDescription, leftRule, leftDevice⟩
    ⟨rightId, rightKind, rightName, rightDescription, rightRule, rightDevice⟩ same
  simp only [serialize, Json.object.injEq, List.cons.injEq, Prod.mk.injEq, Json.string.injEq,
    true_and, and_true] at same
  rcases same with ⟨ids, kinds, rfl, rfl, rules, devices⟩
  rw [Uuid.serialize_injective ids, EventKind.serialize_injective kinds,
    Serde.serialize_injective rules, Uuid.serialize_injective devices]

end Label

namespace EventRow

/-- Neither instant of the event is in a leap second. -/
def Regular (event : EventRow) : Prop :=
  event.value.startedAt.Regular ∧ event.value.endedAt.Regular

instance (event : EventRow) : Decidable event.Regular :=
  inferInstanceAs (Decidable (_ ∧ _))

section Text

variable (formats : Formats)

/-- The columns of an event. -/
def members (event : EventRow) : List (String × Json) :=
  [("id", event.id.serialize), ("kind", event.value.kind.serialize),
    ("payload", Serde.serialize event.value.payload),
    ("started_at", .string (formats.dateTime event.value.startedAt)),
    ("ended_at", .string (formats.dateTime event.value.endedAt)),
    ("device_id", event.value.deviceId.serialize)]

def serialize (event : EventRow) : Json :=
  .object (event.members formats)

/-- `EventRes`. -/
def serializeLabelled (row : EventRow × List Uuid) : Json :=
  .object (row.1.members formats ++ [("labels", .array (row.2.map Uuid.serialize))])

theorem members_injOn : Set.InjOn (members formats) {event | event.Regular} := by
  rintro ⟨leftId, leftKind, leftPayload, leftStart, leftEnd, leftDevice⟩ ⟨leftRegular, leftAlso⟩
    ⟨rightId, rightKind, rightPayload, rightStart, rightEnd, rightDevice⟩
    ⟨rightRegular, rightAlso⟩ same
  simp only [members, List.cons.injEq, Prod.mk.injEq, Json.string.injEq, true_and, and_true]
    at same
  rcases same with ⟨ids, kinds, payloads, starts, ends, devices⟩
  have startsSame : leftStart = rightStart := formats.dateTime_injOn leftRegular rightRegular starts
  have endsSame : leftEnd = rightEnd := formats.dateTime_injOn leftAlso rightAlso ends
  rw [Uuid.serialize_injective ids, EventKind.serialize_injective kinds,
    Serde.serialize_injective payloads, startsSame, endsSame, Uuid.serialize_injective devices]

theorem serialize_injOn : Set.InjOn (serialize formats) {event | event.Regular} := by
  intro left leftRegular right rightRegular same
  exact members_injOn formats leftRegular rightRegular (Json.object.inj same)

theorem serializeLabelled_injOn :
    Set.InjOn (serializeLabelled formats) {row | row.1.Regular} := by
  rintro ⟨left, leftLabels⟩ leftRegular ⟨right, rightLabels⟩ rightRegular same
  have members := List.append_inj (Json.object.inj same) rfl
  have labels : leftLabels.map Uuid.serialize = rightLabels.map Uuid.serialize := by
    simpa using members.2
  have events : left = right := members_injOn formats leftRegular rightRegular members.1
  rw [events, List.map_injective_iff.mpr Uuid.serialize_injective labels]

end Text

end EventRow

/-! ## New rows -/

/-- The members of a record, by their names or by their positions. -/
def recordMembers (names : List String) : Json → Option (List (String × Json))
  | .object fields => some fields
  | .array values => if values.length = names.length then some (names.zip values) else none
  | _ => none

namespace NewDevice

def deserialize (json : Json) : Option NewDevice := do
  let fields ← recordMembers ["name", "description"] json
  return ⟨← field fields "name", ← field fields "description"⟩

end NewDevice

namespace NewLabel

def deserialize (formats : Formats) (json : Json) : Option NewLabel := do
  let fields ← recordMembers ["event_kind", "name", "description", "rule", "device_id"] json
  let eventKind ← (fields.lookup "event_kind").bind EventKind.deserialize
  let deviceId ← (fields.lookup "device_id").bind (Uuid.deserialize formats)
  return ⟨eventKind, ← field fields "name", ← field fields "description", ← field fields "rule",
    deviceId⟩

end NewLabel

end Db

end Bug
