import Bug.Encoding.Json
import Bug.Primitive.Entities

/-!
# Rekeying

The frontend turns the names of a response into camel case.  The recursion treats
everything with keys alike: an array inside a response has its indices as keys,
so that it comes out as an object unless it is empty.
-/

namespace Bug.Frontend.Rekey

open Bug.Encoding

/-! ## Keys and values -/

/-- `R.keys`: the own keys of objects and arrays, none of anything else. -/
def keys : Json → List String
  | .array elements => (List.range elements.length).map toString
  | .object fields => fields.map Prod.fst
  | _ => []

/-- `R.values`. -/
def values : Json → List Json
  | .array elements => elements
  | .object fields => fields.map Prod.snd
  | _ => []

/-- `R.zipObj`: a later value replaces an earlier one of its key. -/
def zipObj (keys : List String) (values : List Json) : Json :=
  .object (Entities.ofList (keys.zip values)).entries

theorem sizeOf_lt_of_mem_values {obj value : Json} (present : value ∈ values obj) :
    sizeOf value < sizeOf obj := by
  cases obj with
  | array elements =>
      have smaller : sizeOf value < sizeOf elements := List.sizeOf_lt_of_mem present
      rw [Json.array.sizeOf_spec]
      omega
  | object fields =>
      rcases List.mem_map.mp present with ⟨⟨name, inner⟩, fieldPresent, rfl⟩
      change sizeOf inner < _
      have smaller := List.sizeOf_lt_of_mem fieldPresent
      rw [Prod.mk.sizeOf_spec] at smaller
      rw [Json.object.sizeOf_spec]
      omega
  | _ => cases present

/-- Induction along the values of a value. -/
theorem values_induction {motive : Json → Prop}
    (step : ∀ obj, (∀ value ∈ values obj, motive value) → motive obj) (obj : Json) :
    motive obj :=
  step obj fun value present =>
    have := sizeOf_lt_of_mem_values present
    values_induction step value
termination_by sizeOf obj

/-! ## Camel case -/

/-- The replacement of `[-_][a-z]`, from left to right. -/
def camelCase : List Char → List Char
  | [] => []
  | [char] => [char]
  | separator :: char :: rest =>
      if (separator = '-' ∨ separator = '_') ∧ 'a' ≤ char ∧ char ≤ 'z' then
        char.toUpper :: camelCase rest
      else
        separator :: camelCase (char :: rest)

def toCamelCase (str : String) : String :=
  String.ofList (camelCase str.toList)

example : toCamelCase "wav_file" = "wavFile" := by
  decide

/-! ## The recursion -/

mutual

def parseValues (fn : String → String) (obj : Json) : Json :=
  if (keys obj).isEmpty then obj else mapKeys fn obj
termination_by (sizeOf obj, 1)

def mapKeys (fn : String → String) (obj : Json) : Json :=
  zipObj ((keys obj).map fn) ((values obj).attach.map fun value => parseValues fn value.1)
termination_by (sizeOf obj, 0)
decreasing_by
  apply Prod.Lex.left
  exact sizeOf_lt_of_mem_values value.2

end

/-- `fold`: an array at the top is mapped over. -/
def fold (fn : Json → Json) : Json → Json
  | .array elements => .array (elements.map fn)
  | value => fn value

def rekeyCamelCase (value : Json) : Json :=
  fold (mapKeys toCamelCase) value

theorem mapKeys_eq (fn : String → String) (obj : Json) :
    mapKeys fn obj = zipObj ((keys obj).map fn) ((values obj).map (parseValues fn)) := by
  rw [mapKeys, List.attach_map_val]

/-- Objects whose names stay distinct keep their members. -/
theorem mapKeys_object {fn : String → String} {fields : List (String × Json)}
    (distinct : (fields.map fun field => fn field.1).Nodup) :
    mapKeys fn (.object fields) =
      .object (fields.map fun field => (fn field.1, parseValues fn field.2)) := by
  rw [mapKeys_eq, keys, values, List.map_map, List.map_map, zipObj, List.zip_map',
    Entities.entries_ofList]
  · rfl
  · rw [List.map_map]
    exact distinct

theorem mapKeys_pair {fn : String → String} {first second : String}
    (distinct : fn first ≠ fn second) (left right : Json) :
    mapKeys fn (.object [(first, left), (second, right)]) =
      .object [(fn first, parseValues fn left), (fn second, parseValues fn right)] := by
  apply mapKeys_object
  rw [List.map_cons, List.map_singleton, List.nodup_cons, List.mem_singleton]
  exact ⟨distinct, List.nodup_singleton _⟩

theorem parseValues_object (fn : String → String) (fields : List (String × Json)) :
    parseValues fn (.object fields) = mapKeys fn (.object fields) := by
  rw [parseValues]
  cases fields with
  | nil =>
      rw [mapKeys_eq]
      rfl
  | cons field fields => rfl

/-- An array that is not empty comes out as an object. -/
theorem parseValues_array_cons (fn : String → String) (element : Json) (elements : List Json) :
    ∃ fields, parseValues fn (.array (element :: elements)) = .object fields := by
  have isIndexed : (keys (.array (element :: elements))).isEmpty = false := by
    rw [keys, List.length_cons, List.range_succ_eq_map]
    rfl
  rw [parseValues, isIndexed, mapKeys_eq]
  exact ⟨_, rfl⟩

/-! ## Only the names change -/

/-- The value with other names. -/
def renamed (fn : String → String) : Json → Json
  | .array elements => .array (elements.map (renamed fn))
  | .object fields => .object (fields.map fun field => (fn field.1, renamed fn field.2))
  | leaf => leaf
termination_by obj => sizeOf obj
decreasing_by
  · exact sizeOf_lt_of_mem_values ‹_ ∈ elements›
  · exact sizeOf_lt_of_mem_values (List.mem_map_of_mem ‹_ ∈ fields›)

/-- A value inside another one, or the other one itself. -/
inductive Inside (whole : Json) : Json → Prop
  | whole : Inside whole whole
  | value {obj value : Json} : Inside whole obj → value ∈ values obj → Inside whole value

theorem inside_iff {whole obj : Json} :
    Inside whole obj ↔ obj = whole ∨ ∃ value ∈ values whole, Inside value obj := by
  constructor
  · intro inside
    induction inside with
    | whole => exact .inl rfl
    | value _ present inductionHypothesis =>
        right
        rcases inductionHypothesis with rfl | ⟨value, valuePresent, valueInside⟩
        · exact ⟨_, present, .whole⟩
        · exact ⟨value, valuePresent, .value valueInside present⟩
  · rintro (rfl | ⟨value, present, inside⟩)
    · exact .whole
    · induction inside with
      | whole => exact .value .whole present
      | value _ inner inductionHypothesis => exact .value inductionHypothesis inner

/-- The names of every object stay distinct. -/
def StaysDistinct (fn : String → String) (obj : Json) : Prop :=
  ∀ fields, Inside obj (.object fields) → (fields.map fun field => fn field.1).Nodup

/-- No array inside a value has elements. -/
def EmptyArrays (obj : Json) : Prop :=
  ∀ elements, Inside obj (.array elements) → elements = []

theorem StaysDistinct.of_mem_values {fn : String → String} {obj value : Json}
    (distinct : StaysDistinct fn obj) (present : value ∈ values obj) : StaysDistinct fn value := by
  intro fields inside
  exact distinct fields (inside_iff.mpr (.inr ⟨value, present, inside⟩))

theorem staysDistinct_iff {fn : String → String} {obj : Json} :
    StaysDistinct fn obj ↔
      (∀ fields, obj = .object fields → (fields.map fun field => fn field.1).Nodup) ∧
        ∀ value ∈ values obj, StaysDistinct fn value := by
  constructor
  · intro distinct
    constructor
    · rintro fields rfl
      exact distinct fields .whole
    · intro value present
      exact distinct.of_mem_values present
  · rintro ⟨distinct, distinctInside⟩ fields inside
    rcases inside_iff.mp inside with isObject | ⟨value, present, valueInside⟩
    · exact distinct fields isObject.symm
    · exact distinctInside value present fields valueInside

theorem staysDistinct_object_iff {fn : String → String} {fields : List (String × Json)} :
    StaysDistinct fn (.object fields) ↔
      (fields.map fun field => fn field.1).Nodup ∧ ∀ field ∈ fields, StaysDistinct fn field.2 := by
  rw [staysDistinct_iff, values, List.forall_mem_map]
  simp

theorem staysDistinct_array_iff {fn : String → String} {elements : List Json} :
    StaysDistinct fn (.array elements) ↔ ∀ element ∈ elements, StaysDistinct fn element := by
  rw [staysDistinct_iff, values]
  simp

theorem staysDistinct_string (fn : String → String) (value : String) :
    StaysDistinct fn (.string value) := by
  rw [staysDistinct_iff]
  constructor
  · intro fields isObject
    cases isObject
  · simp [values]

theorem emptyArrays_of_leaf {obj : Json} (leaf : values obj = []) : EmptyArrays obj := by
  intro elements inside
  rcases inside_iff.mp inside with rfl | ⟨value, present, _⟩
  · exact leaf
  · rw [leaf] at present
    cases present

theorem emptyArrays_object_iff {fields : List (String × Json)} :
    EmptyArrays (.object fields) ↔ ∀ field ∈ fields, EmptyArrays field.2 := by
  constructor
  · intro empty field present elements inside
    exact empty elements (inside_iff.mpr (.inr ⟨_, List.mem_map_of_mem present, inside⟩))
  · intro empty elements inside
    rcases inside_iff.mp inside with isObject | ⟨value, present, valueInside⟩
    · cases isObject
    · rcases List.mem_map.mp present with ⟨field, fieldPresent, rfl⟩
      exact empty field fieldPresent elements valueInside

section Reordered

variable {α : Type} {left right : α → Json} {items : List α}

theorem forall₂_reordered_map_iff :
    List.Forall₂ Json.Reordered (items.map left) (items.map right) ↔
      ∀ item ∈ items, Json.Reordered (left item) (right item) := by
  rw [List.forall₂_map_left_iff, List.forall₂_map_right_iff, List.forall₂_same]

theorem reordered_array_map_iff :
    Json.Reordered (.array (items.map left)) (.array (items.map right)) ↔
      ∀ item ∈ items, Json.Reordered (left item) (right item) := by
  rw [← forall₂_reordered_map_iff]
  constructor
  · intro reordered
    cases reordered with
    | array elementwise => exact elementwise
  · exact Json.Reordered.array

/-- Objects with the same names are compared member by member. -/
theorem reordered_object_map_iff {name : α → String} (distinct : (items.map name).Nodup) :
    Json.Reordered (.object (items.map fun item => (name item, left item)))
        (.object (items.map fun item => (name item, right item))) ↔
      ∀ item ∈ items, Json.Reordered (left item) (right item) := by
  have named (value : α → Json) :
      (items.map fun item => (name item, value item)).map Prod.fst = items.map name := by
    rw [List.map_map]
    rfl
  have found {item : α} (present : item ∈ items) (value : α → Json) :
      (items.map fun item => (name item, value item)).lookup (name item) = some (value item) := by
    rw [← Entities.mem_iff_lookup (by rwa [named])]
    exact List.mem_map_of_mem present
  constructor
  · intro reordered item present
    have related := reordered.lookup (by rwa [named]) (name item)
    rw [found present, found present] at related
    cases related with
    | some holds => exact holds
  · intro holds
    apply Json.Reordered.object (List.Perm.refl _)
    · rw [named, named]
    · rw [List.map_map, List.map_map]
      exact forall₂_reordered_map_iff.mpr holds

end Reordered

/-- Inside a value with distinct names, the recursion changes only the names exactly
when no array has elements. -/
theorem reordered_parseValues_iff {fn : String → String} (obj : Json) :
    StaysDistinct fn obj →
      (Json.Reordered (parseValues fn obj) (renamed fn obj) ↔ EmptyArrays obj) := by
  induction obj using values_induction with
  | step obj inductionHypothesis =>
      intro distinct
      cases obj with
      | object fields =>
          have distinctHere := distinct fields .whole
          rw [parseValues_object, mapKeys_object distinctHere, renamed,
            reordered_object_map_iff distinctHere, emptyArrays_object_iff]
          apply forall₂_congr
          intro field present
          have inside := List.mem_map_of_mem (f := Prod.snd) present
          exact inductionHypothesis field.2 inside (distinct.of_mem_values inside)
      | array elements =>
          cases elements with
          | nil =>
              refine iff_of_true ?_ (emptyArrays_of_leaf rfl)
              rw [parseValues, renamed]
              exact Json.Reordered.refl _
          | cons element elements =>
              refine iff_of_false ?_ ?_
              · rcases parseValues_array_cons fn element elements with ⟨fields, indexed⟩
                rw [indexed, renamed]
                intro reordered
                cases reordered
              · intro empty
                cases empty _ .whole
      | _ =>
          refine iff_of_true ?_ (emptyArrays_of_leaf rfl)
          rw [parseValues, renamed]
          · exact Json.Reordered.refl _
          · simp
          · simp

/-- An object, or an array of objects. -/
def IsDocument : Json → Prop
  | .object _ => True
  | .array elements => ∀ element ∈ elements, ∃ fields, element = .object fields
  | _ => False

/-- In a document whose names stay distinct, rekeying changes only the names exactly
when no array but that at the top has elements. -/
theorem reordered_rekeyCamelCase_iff {value : Json} (document : IsDocument value)
    (distinct : StaysDistinct toCamelCase value) :
    Json.Reordered (rekeyCamelCase value) (renamed toCamelCase value) ↔
      ∀ inner ∈ values value, EmptyArrays inner := by
  cases value with
  | object fields =>
      rw [rekeyCamelCase, fold, ← parseValues_object, reordered_parseValues_iff _ distinct,
        emptyArrays_object_iff, values, List.forall_mem_map]
      intro elements isArray
      cases isArray
  | array elements =>
      rw [rekeyCamelCase, fold, renamed, reordered_array_map_iff]
      apply forall₂_congr
      intro element present
      rcases document element present with ⟨fields, rfl⟩
      rw [← parseValues_object]
      exact reordered_parseValues_iff _ (distinct.of_mem_values present)
  | _ => exact document.elim

/-- A device without labels. -/
theorem reordered_rekeyCamelCase_noLabels :
    let device : Json := .object [("device_id", .string "bug"), ("labels", .array [])]
    IsDocument device ∧ Json.Reordered (rekeyCamelCase device) (renamed toCamelCase device) := by
  intro device
  have document : IsDocument device := trivial
  have distinct : StaysDistinct toCamelCase device := by
    rw [staysDistinct_object_iff]
    constructor
    · decide
    · simp [staysDistinct_string, staysDistinct_array_iff]
  refine ⟨document, (reordered_rekeyCamelCase_iff document distinct).mpr ?_⟩
  exact List.forall_mem_cons.mpr
    ⟨emptyArrays_of_leaf rfl, List.forall_mem_singleton.mpr (emptyArrays_of_leaf rfl)⟩

/-- The labels of an event are no longer an array. -/
theorem not_reordered_rekeyCamelCase_labels :
    let event : Json := .object [("labels", .array [.string "bright"])]
    IsDocument event ∧ StaysDistinct toCamelCase event ∧
      ¬Json.Reordered (rekeyCamelCase event) (renamed toCamelCase event) := by
  intro event
  have distinct : StaysDistinct toCamelCase event := by
    rw [staysDistinct_object_iff]
    constructor
    · decide
    · simp [staysDistinct_string, staysDistinct_array_iff]
  refine ⟨trivial, distinct, ?_⟩
  have rekeyed : rekeyCamelCase event = parseValues toCamelCase event :=
    (parseValues_object _ _).symm
  intro reordered
  rw [rekeyed, reordered_parseValues_iff _ distinct, emptyArrays_object_iff] at reordered
  cases reordered _ List.mem_cons_self _ .whole

end Bug.Frontend.Rekey
