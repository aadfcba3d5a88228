import Mathlib.Data.List.Forall2

/-!
# JSON values

An object is the list of its members.  A store that keeps JSON values is free to
change the order of the members of an object, at every depth; a reader that
looks members up by name cannot tell, as long as no name occurs twice.
-/

namespace Bug.Encoding

inductive Json where
  | null
  | bool (value : Bool)
  | integer (value : Int)
  /-- A number that is not an integer, by its bits. -/
  | float (bits : UInt64)
  | string (value : String)
  | array (elements : List Json)
  | object (fields : List (String × Json))

namespace Json

/-- Equality up to the order of the members of objects. -/
inductive Reordered : Json → Json → Prop
  | null : Reordered .null .null
  | bool (value : Bool) : Reordered (.bool value) (.bool value)
  | integer (value : Int) : Reordered (.integer value) (.integer value)
  | float (bits : UInt64) : Reordered (.float bits) (.float bits)
  | string (value : String) : Reordered (.string value) (.string value)
  | array {elements others : List Json} : List.Forall₂ Reordered elements others →
      Reordered (.array elements) (.array others)
  | object {fields moved others : List (String × Json)} : fields.Perm moved →
      moved.map Prod.fst = others.map Prod.fst →
      List.Forall₂ Reordered (moved.map Prod.snd) (others.map Prod.snd) →
      Reordered (.object fields) (.object others)

theorem Reordered.refl : (json : Json) → Reordered json json
  | .null => .null
  | .bool value => .bool value
  | .integer value => .integer value
  | .float bits => .float bits
  | .string value => .string value
  | .array elements => .array (forall₂_refl elements)
  | .object fields => .object (.refl fields) rfl (forall₂_snd_refl fields)
where
  forall₂_refl : (elements : List Json) → List.Forall₂ Reordered elements elements
    | [] => .nil
    | json :: elements => .cons (Reordered.refl json) (forall₂_refl elements)
  forall₂_snd_refl : (fields : List (String × Json)) →
      List.Forall₂ Reordered (fields.map Prod.snd) (fields.map Prod.snd)
    | [] => .nil
    | (_, json) :: fields => .cons (Reordered.refl json) (forall₂_snd_refl fields)

section Lookup

variable {α β : Type*}

theorem lookup_eq_of_perm {fields moved : List (String × α)} (perm : fields.Perm moved)
    (distinct : (fields.map Prod.fst).Nodup) (name : String) :
    moved.lookup name = fields.lookup name := by
  induction perm with
  | nil => rfl
  | cons field perm ih =>
      rcases field with ⟨key, value⟩
      rw [List.map_cons, List.nodup_cons] at distinct
      rw [List.lookup_cons, List.lookup_cons, ih distinct.2]
  | swap left right fields =>
      rcases left with ⟨leftKey, leftValue⟩
      rcases right with ⟨rightKey, rightValue⟩
      have different : rightKey ≠ leftKey := by
        intro equal
        rw [List.map_cons, List.map_cons, List.nodup_cons] at distinct
        exact distinct.1 (equal ▸ List.mem_cons_self)
      simp only [List.lookup_cons]
      by_cases isLeft : name = leftKey
      · have notRight : name ≠ rightKey := fun isRight => different (isRight.symm.trans isLeft)
        simp [isLeft, beq_false_of_ne (isLeft ▸ notRight)]
      · simp [beq_false_of_ne isLeft]
  | trans first second firstIh secondIh =>
      have moved := (first.map Prod.fst).nodup_iff.mp distinct
      rw [secondIh moved, firstIh distinct]

/-- Members of the same names in the same order are looked up together. -/
theorem lookup_related {related : α → β → Prop} {fields : List (String × α)}
    {others : List (String × β)} (names : fields.map Prod.fst = others.map Prod.fst)
    (values : List.Forall₂ related (fields.map Prod.snd) (others.map Prod.snd))
    (name : String) : Option.Rel related (fields.lookup name) (others.lookup name) := by
  induction fields generalizing others with
  | nil =>
      cases others with
      | nil => exact .none
      | cons other others => cases names
  | cons field fields ih =>
      rcases field with ⟨key, value⟩
      cases others with
      | nil => cases names
      | cons other others =>
          rcases other with ⟨otherKey, otherValue⟩
          simp only [List.map_cons, List.cons.injEq] at names
          rcases names with ⟨rfl, names⟩
          simp only [List.map_cons, List.forall₂_cons] at values
          rw [List.lookup_cons, List.lookup_cons]
          cases name == key with
          | true => exact .some values.1
          | false => exact ih names values.2

theorem exists_of_related {related : α → β → Prop} {value : α} {found : Option β}
    (both : Option.Rel related (some value) found) :
    ∃ other, found = some other ∧ related value other := by
  cases both with
  | some holds => exact ⟨_, rfl, holds⟩

end Lookup

namespace Reordered

/-- Reordering an object with distinct names keeps what each name leads to. -/
theorem lookup {fields others : List (String × Json)}
    (reordered : Reordered (.object fields) (.object others))
    (distinct : (fields.map Prod.fst).Nodup) (name : String) :
    Option.Rel Reordered (fields.lookup name) (others.lookup name) := by
  cases reordered with
  | object perm names values =>
      rw [← lookup_eq_of_perm perm distinct]
      exact lookup_related names values name

theorem eq_string {value : String} {json : Json} (reordered : Reordered (.string value) json) :
    json = .string value := by
  cases reordered
  rfl

theorem eq_object {fields : List (String × Json)} {json : Json}
    (reordered : Reordered (.object fields) json) : ∃ others, json = .object others := by
  cases reordered
  exact ⟨_, rfl⟩

/-- An object of one member has no other order. -/
theorem eq_singleton {name : String} {value : Json} {json : Json}
    (reordered : Reordered (.object [(name, value)]) json) :
    ∃ other, json = .object [(name, other)] ∧ Reordered value other := by
  cases reordered with
  | object perm names values =>
      rename_i moved others
      rw [List.singleton_perm] at perm
      subst perm
      match others, names, values with
      | [(otherName, other)], names, values =>
          simp only [List.map_cons, List.map_nil, List.cons.injEq, and_true] at names
          simp only [List.map_cons, List.map_nil, List.forall₂_cons] at values
          exact ⟨other, by rw [names], values.1⟩

end Reordered

end Json

end Bug.Encoding
