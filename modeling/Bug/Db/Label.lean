import Bug.Db.Event
import Bug.Encoding.Serde

/-!
# Labels and their rules

A rule is stored as JSON.  The rule itself is tagged next to its payload, a
comparison is tagged by the only name of its object, and the coordinates that a
rule does not compare are left out of its payload.
-/

namespace Bug.Db

open Bug.Encoding
open Bug.Encoding.Json

universe u

inductive NumberOperator (α : Type u) where
  | eq (value : α)
  | gt (value : α)
  | lt (value : α)
  | gte (value : α)
  | lte (value : α)
  deriving DecidableEq

namespace NumberOperator

variable {α : Type u} [Serde α]

def serialize : NumberOperator α → Json
  | eq value => .object [("eq", Serde.serialize value)]
  | gt value => .object [("gt", Serde.serialize value)]
  | lt value => .object [("lt", Serde.serialize value)]
  | gte value => .object [("gte", Serde.serialize value)]
  | lte value => .object [("lte", Serde.serialize value)]

/-- The variant of the given name. -/
def ofVariant (variant : String) (value : Json) : Option (NumberOperator α) :=
  match variant with
  | "eq" => (Serde.deserialize value).map eq
  | "gt" => (Serde.deserialize value).map gt
  | "lt" => (Serde.deserialize value).map lt
  | "gte" => (Serde.deserialize value).map gte
  | "lte" => (Serde.deserialize value).map lte
  | _ => none

/-- An object with a single member; its name is the variant. -/
def deserialize : Json → Option (NumberOperator α)
  | .object [(variant, value)] => ofVariant variant value
  | _ => none

instance : Serde (NumberOperator α) where
  serialize := serialize
  deserialize := deserialize
  deserialize_of_reordered := by
    intro operator json reordered
    cases operator <;>
      · rcases reordered.eq_singleton with ⟨other, rfl, valueReordered⟩
        simp [deserialize, ofVariant, Serde.deserialize_of_reordered valueReordered]

end NumberOperator

inductive LabelRule where
  | soundSimilarity (wavFile : String) (operator : NumberOperator UInt16)
  | positionDifference (x y z : Option (NumberOperator Int64))
  | luminosityDifference (operator : NumberOperator Int64)
  deriving DecidableEq

namespace LabelRule

open Serde

def kind : LabelRule → String
  | soundSimilarity _ _ => "sound_similarity"
  | positionDifference _ _ _ => "position_difference"
  | luminosityDifference _ => "luminosity_difference"

/-- The members of the payload. -/
def payload : LabelRule → List (String × Json)
  | soundSimilarity wavFile operator =>
      [("wav_file", Serde.serialize wavFile), ("operator", Serde.serialize operator)]
  | positionDifference x y z => skipNone "x" x ++ skipNone "y" y ++ skipNone "z" z
  | luminosityDifference operator => [("operator", Serde.serialize operator)]

def serialize (rule : LabelRule) : Json :=
  .object [("kind", .string rule.kind), ("payload", .object rule.payload)]

/-- The rule of the given kind with the given members of the payload. -/
def ofPayload (kind : String) (fields : List (String × Json)) : Option LabelRule :=
  match kind with
  | "sound_similarity" => do
      return soundSimilarity (← field fields "wav_file") (← field fields "operator")
  | "position_difference" => do
      return positionDifference (← optionalField fields "x") (← optionalField fields "y")
        (← optionalField fields "z")
  | "luminosity_difference" => do
      return luminosityDifference (← field fields "operator")
  | _ => none

/-- A tag and a payload, by name or, in an array, by position. -/
def deserialize : Json → Option LabelRule
  | .object fields =>
      match fields.lookup "kind", fields.lookup "payload" with
      | some (.string kind), some (.object payload) => ofPayload kind payload
      | _, _ => none
  | .array [.string kind, .object payload] => ofPayload kind payload
  | _ => none

theorem nodup_payload (rule : LabelRule) : (rule.payload.map Prod.fst).Nodup := by
  cases rule with
  | soundSimilarity wavFile operator => simp [payload]
  | positionDifference x y z =>
      cases x <;> cases y <;> cases z <;> simp [payload, skipNone]
  | luminosityDifference operator => simp [payload]

theorem ofPayload_of_reordered {rule : LabelRule} {others : List (String × Json)}
    (reordered : Reordered (.object rule.payload) (.object others)) :
    ofPayload rule.kind others = some rule := by
  have related := reordered.lookup rule.nodup_payload
  cases rule with
  | soundSimilarity wavFile operator =>
      have wavFileRead : field others "wav_file" = some wavFile :=
        field_of_related (related "wav_file")
      have operatorRead : field others "operator" = some operator :=
        field_of_related (related "operator")
      simp [ofPayload, kind, wavFileRead, operatorRead]
  | positionDifference x y z =>
      have xRead : optionalField others "x" = some x := by
        apply optionalField_of_related rfl
        convert related "x"
        cases x <;> cases y <;> cases z <;> rfl
      have yRead : optionalField others "y" = some y := by
        apply optionalField_of_related rfl
        convert related "y"
        cases x <;> cases y <;> cases z <;> rfl
      have zRead : optionalField others "z" = some z := by
        apply optionalField_of_related rfl
        convert related "z"
        cases x <;> cases y <;> cases z <;> rfl
      simp [ofPayload, kind, xRead, yRead, zRead]
  | luminosityDifference operator =>
      have operatorRead : field others "operator" = some operator :=
        field_of_related (related "operator")
      simp [ofPayload, kind, operatorRead]

instance : Serde LabelRule where
  serialize := serialize
  deserialize := deserialize
  deserialize_of_reordered := by
    intro rule json reordered
    rcases reordered.eq_object with ⟨fields, rfl⟩
    have related := reordered.lookup (by simp)
    rcases exists_of_related (related "kind") with ⟨tag, tagFound, tagReordered⟩
    rcases exists_of_related (related "payload") with ⟨content, contentFound, contentReordered⟩
    rcases contentReordered.eq_object with ⟨others, rfl⟩
    cases tagReordered.eq_string
    simp only [deserialize, tagFound, contentFound]
    exact ofPayload_of_reordered contentReordered

end LabelRule

structure Label where
  id : Uuid
  eventKind : EventKind
  name : String
  description : String
  rule : LabelRule
  deviceId : Uuid
  deriving DecidableEq

structure NewLabel where
  eventKind : EventKind
  name : String
  description : String
  rule : LabelRule
  deviceId : Uuid
  deriving DecidableEq

end Bug.Db
