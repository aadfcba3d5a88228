import Bug.Encoding.Json
import Mathlib.Tactic.NormNum

/-!
# Types with a JSON form

A type with a JSON form carries the law that makes a JSON store lossless for it:
whatever order the members come back in, the value is read back.  Integers are
checked against the range of their type, tuples have exactly their number of
elements, and the members of a record are looked up by name, so members of other
names are ignored.
-/

namespace Bug.Encoding

universe u

open Json

class Serde (α : Type u) where
  serialize : α → Json
  deserialize : Json → Option α
  deserialize_of_reordered : ∀ {value : α} {json : Json}, Reordered (serialize value) json →
    deserialize json = some value

namespace Serde

/-- Two values with the same JSON form are equal, whatever the order of its
members. -/
theorem eq_of_reordered {α : Type u} [Serde α] {left right : α} {json : Json}
    (fromLeft : Reordered (serialize left) json) (fromRight : Reordered (serialize right) json) :
    left = right :=
  Option.some.inj
    ((deserialize_of_reordered fromLeft).symm.trans (deserialize_of_reordered fromRight))

theorem deserialize_serialize {α : Type u} [Serde α] (value : α) :
    deserialize (serialize value) = some value :=
  deserialize_of_reordered (Reordered.refl _)

theorem serialize_injective {α : Type u} [Serde α] :
    Function.Injective (serialize : α → Json) := by
  intro left right equal
  apply eq_of_reordered (Reordered.refl (serialize left))
  rw [equal]
  exact Reordered.refl _

/-! ## Scalars -/

instance : Serde String where
  serialize := .string
  deserialize
    | .string value => some value
    | _ => none
  deserialize_of_reordered := by
    intro value json reordered
    cases reordered
    rfl

/-- An integer of a type with the given range. -/
def ofInteger {α : Type u} (least greatest : Int) (ofInt : Int → α) : Json → Option α
  | .integer value => if least ≤ value ∧ value ≤ greatest then some (ofInt value) else none
  | _ => none

theorem ofInteger_of_reordered {α : Type u} {least greatest : Int} {ofInt : Int → α}
    {value : Int} {json : Json} (reordered : Reordered (.integer value) json)
    (inRange : least ≤ value ∧ value ≤ greatest) :
    ofInteger least greatest ofInt json = some (ofInt value) := by
  cases reordered
  exact if_pos inRange

instance : Serde UInt16 where
  serialize value := .integer value.toNat
  deserialize := ofInteger 0 65535 fun value => UInt16.ofNat value.toNat
  deserialize_of_reordered := by
    intro value json reordered
    have bound := value.toNat_lt
    rw [ofInteger_of_reordered reordered (by omega)]
    simp

instance : Serde Int32 where
  serialize value := .integer value.toInt
  deserialize := ofInteger (-2147483648) 2147483647 Int32.ofInt
  deserialize_of_reordered := by
    intro value json reordered
    have lower := value.le_toInt
    have upper := value.toInt_lt
    rw [ofInteger_of_reordered reordered (by omega)]
    simp

instance : Serde Int64 where
  serialize value := .integer value.toInt
  deserialize := ofInteger (-9223372036854775808) 9223372036854775807 Int64.ofInt
  deserialize_of_reordered := by
    intro value json reordered
    have lower := value.le_toInt
    have upper := value.toInt_lt
    rw [ofInteger_of_reordered reordered (by omega)]
    simp

/-! ## Tuples and records -/

section Composite

variable {α β γ : Type u} [Serde α] [Serde β] [Serde γ]

instance : Serde (α × β × γ) where
  serialize
    | (first, second, third) => .array [serialize first, serialize second, serialize third]
  deserialize
    | .array [first, second, third] => do
        return (← deserialize first, ← deserialize second, ← deserialize third)
    | _ => none
  deserialize_of_reordered := by
    rintro ⟨first, second, third⟩ json reordered
    cases reordered with
    | array elements =>
        rename_i others
        match others, elements with
        | [otherFirst, otherSecond, otherThird], elements =>
            simp only [List.forall₂_cons, List.forall₂_nil_left_iff, and_true] at elements
            rcases elements with ⟨firstReordered, secondReordered, thirdReordered⟩
            simp [deserialize_of_reordered firstReordered,
              deserialize_of_reordered secondReordered, deserialize_of_reordered thirdReordered]

/-- A member that has to be there. -/
def field (fields : List (String × Json)) (name : String) : Option α :=
  (fields.lookup name).bind deserialize

/-- A member of an optional type: absent and `null` are none. -/
def optionalField (fields : List (String × Json)) (name : String) : Option (Option α) :=
  match fields.lookup name with
  | none => some none
  | some .null => some none
  | some json => (deserialize json).map some

/-- A member that is left out when there is no value. -/
def skipNone (name : String) : Option α → List (String × Json)
  | none => []
  | some value => [(name, serialize value)]

theorem field_of_related {others : List (String × Json)} {name : String} {value : α}
    (related : Option.Rel Reordered (some (serialize value)) (others.lookup name)) :
    field others name = some value := by
  rcases exists_of_related related with ⟨json, found, reordered⟩
  rw [field, found]
  exact deserialize_of_reordered reordered

theorem optionalField_of_related {others : List (String × Json)} {name : String}
    {value : Option α} (notNull : (deserialize .null : Option α) = none)
    (related : Option.Rel Reordered (value.map serialize) (others.lookup name)) :
    optionalField others name = some value := by
  unfold optionalField
  generalize others.lookup name = found at related
  cases value with
  | none =>
      cases related
      rfl
  | some value =>
      cases related with
      | some reordered =>
          rename_i json
          have read := deserialize_of_reordered reordered
          cases json with
          | null =>
              rw [notNull] at read
              cases read
          | _ => simp [read]

end Composite

end Serde

end Bug.Encoding
