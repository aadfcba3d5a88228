import Bug.Db.Label

/-!
# JSONB columns

The rule of a label and the payload of an event are the two columns of JSON.
The payload of an event carries its tag among its own members.  What a column
holds comes back with the members of its objects in another order; null columns
are rejected.
-/

namespace Bug.Db

open Bug.Encoding
open Bug.Encoding.Json

universe u

namespace EventPayload

open Serde

def tag : EventPayload → String
  | sound _ => "sound"
  | position _ _ => "position"
  | luminosity _ _ => "luminosity"

/-- The members behind the tag. -/
def members : EventPayload → List (String × Json)
  | sound wavFile => [("wav_file", Serde.serialize wavFile)]
  | position start stop => [("from", Serde.serialize start), ("to", Serde.serialize stop)]
  | luminosity start stop => [("from", Serde.serialize start), ("to", Serde.serialize stop)]

def serialize (payload : EventPayload) : Json :=
  .object (("kind", .string payload.tag) :: payload.members)

/-- The names of the members behind a tag, in their order. -/
def names (tag : String) : List String :=
  match tag with
  | "sound" => ["wav_file"]
  | "position" => ["from", "to"]
  | "luminosity" => ["from", "to"]
  | _ => []

/-- The payload with the given tag and members. -/
def ofMembers (tag : String) (fields : List (String × Json)) : Option EventPayload :=
  match tag with
  | "sound" => do return sound (← field fields "wav_file")
  | "position" => do return position (← field fields "from") (← field fields "to")
  | "luminosity" => do return luminosity (← field fields "from") (← field fields "to")
  | _ => none

/-- Members by name or, in an array, by position behind the tag. -/
def deserialize : Json → Option EventPayload
  | .object fields =>
      match fields.lookup "kind" with
      | some (.string tag) => ofMembers tag fields
      | _ => none
  | .array (.string tag :: values) =>
      if values.length = (names tag).length then
        ofMembers tag ((names tag).zip values)
      else
        none
  | _ => none

theorem nodup_members (payload : EventPayload) :
    ((("kind", Json.string payload.tag) :: payload.members).map Prod.fst).Nodup := by
  cases payload with
  | sound wavFile => simp [members]
  | position start stop => simp [members]
  | luminosity start stop => simp [members]

instance : Serde EventPayload where
  serialize := serialize
  deserialize := deserialize
  deserialize_of_reordered := by
    intro payload json reordered
    rcases reordered.eq_object with ⟨fields, rfl⟩
    have related := reordered.lookup payload.nodup_members
    rcases exists_of_related (related "kind") with ⟨tag, tagFound, tagReordered⟩
    cases tagReordered.eq_string
    simp only [deserialize, tagFound]
    cases payload with
    | sound wavFile =>
        have wavFileRead : field fields "wav_file" = some wavFile :=
          field_of_related (related "wav_file")
        simp [ofMembers, EventPayload.tag, wavFileRead]
    | position start stop =>
        have startRead : field fields "from" = some start := field_of_related (related "from")
        have stopRead : field fields "to" = some stop := field_of_related (related "to")
        simp [ofMembers, EventPayload.tag, startRead, stopRead]
    | luminosity start stop =>
        have startRead : field fields "from" = some start := field_of_related (related "from")
        have stopRead : field fields "to" = some stop := field_of_related (related "to")
        simp [ofMembers, EventPayload.tag, startRead, stopRead]

end EventPayload

/-- `to_sql` of a JSON column. -/
def toSql {α : Type u} [Serde α] (value : α) : Json :=
  Serde.serialize value

/-- `from_sql` of a JSON column: the value of the column, if it is not null. -/
def fromSql {α : Type u} [Serde α] (column : Option Json) : Option α :=
  column.bind Serde.deserialize

example : toSql (LabelRule.positionDifference (some (.gt 20)) (some (.gt 50)) none) =
    .object [("kind", .string "position_difference"),
      ("payload", .object [("x", .object [("gt", .integer 20)]),
        ("y", .object [("gt", .integer 50)])])] :=
  rfl

/-- Nothing is lost in a JSON column: every rule and every payload is read back
from what was written, in whatever order its members come back, and no two
values are written alike. -/
theorem fromSql_toSql :
    (∀ (rule : LabelRule) (json : Json), Reordered (toSql rule) json →
      fromSql (some json) = some rule) ∧
    (∀ (payload : EventPayload) (json : Json), Reordered (toSql payload) json →
      fromSql (some json) = some payload) ∧
    (∀ rule : LabelRule, fromSql (some (toSql rule)) = some rule) ∧
    (∀ payload : EventPayload, fromSql (some (toSql payload)) = some payload) ∧
    Function.Injective (toSql : LabelRule → Json) ∧
    Function.Injective (toSql : EventPayload → Json) := by
  constructor
  · intro rule json reordered
    exact Serde.deserialize_of_reordered reordered
  constructor
  · intro payload json reordered
    exact Serde.deserialize_of_reordered reordered
  constructor
  · exact Serde.deserialize_serialize
  constructor
  · exact Serde.deserialize_serialize
  constructor
  · exact Serde.serialize_injective
  · exact Serde.serialize_injective

end Bug.Db
