import Bug.Db.Label
import Bug.Frontend.Rekey
import Bug.Primitive.Number

/-!
# Showing the rule of a label

A rule is serialised by the backend, read and rekeyed by the frontend and shown
by a component.  The component finds out the comparison of an operator by testing
the values under its possible names, and zero fails that test.
-/

namespace Bug.Frontend

open Bug.Db
open Bug.Encoding

/-! ## Values -/

/-- What `JSON.parse` makes of a value: its numbers are doubles. -/
def parsed : Json → Json
  | .integer value => .integer (Number.ofInteger value)
  | .array elements => .array (elements.map parsed)
  | .object fields => .object (fields.map fun field => (field.1, parsed field.2))
  | leaf => leaf
termination_by value => sizeOf value
decreasing_by
  · exact Rekey.sizeOf_lt_of_mem_values ‹_ ∈ elements›
  · exact Rekey.sizeOf_lt_of_mem_values (List.mem_map_of_mem ‹_ ∈ fields›)

/-- The value of a property, which may be undefined. -/
def member : Json → String → Option Json
  | .object fields, name => fields.lookup name
  | _, _ => none

/-- The values that a condition takes for true. -/
def truthy : Json → Bool
  | .null => false
  | .bool value => value
  | .integer value => value ≠ 0
  | .float bits => bits <<< 1 ≠ 0
  | .string value => value ≠ ""
  | .array _ => true
  | .object _ => true

/-- The code units of a string. -/
def utf16 (text : String) : List UInt16 :=
  text.toList.flatMap fun char =>
    if char.toNat < 0x10000 then [char.toNat.toUInt16]
    else [(0xD7C0 + char.toNat / 0x400).toUInt16, (0xDC00 + char.toNat % 0x400).toUInt16]

/-! ## The component -/

inductive Thrown where
  | unexpectedOperator (operator : Json)
  | unexpectedRule (rule : Json)
  | typeError

/-- What the component shows. -/
inductive Rendered where
  /-- The first and the last characters of the file, and the operator. -/
  | similarity (first last : List UInt16) (operator : String)
  /-- The texts of every axis. -/
  | differences (axes : List (List String))
  | todo

section Component

-- How a value prints that is neither a string nor an integer.
variable (printOther : Json → String)

/-- A value in a template. -/
def interpolate : Json → String
  | .integer value => Number.print value
  | .string value => value
  | other => printOther other

/-- One case of `operatorToString`. -/
def comparison (operator : Json) (key symbol : String) : Option String :=
  (member operator key).bind fun value =>
    if truthy value then some (symbol ++ " " ++ interpolate printOther value) else none

def operatorToString (operator : Json) : Except Thrown String :=
  match comparison printOther operator "eq" "=" <|>
      comparison printOther operator "gt" ">" <|>
      comparison printOther operator "lt" "<" <|>
      comparison printOther operator "gte" ">=" <|>
      comparison printOther operator "lte" "<=" with
  | some text => .ok text
  | none => .error (.unexpectedOperator operator)

/-- The fragment of one axis. -/
def axisTexts (position : Nat) (axis text : String) : List String :=
  (if 0 < position then ["&"] else []) ++ ["d" ++ axis.toUpper ++ " " ++ text]

/-- A property that is used as an object. -/
def property (value : Json) (name : String) : Except Thrown Json :=
  match member value name with
  | some found => .ok found
  | none => .error .typeError

/-- The component `LabelRule`. -/
def renderLabelRule (rule : Json) : Except Thrown Rendered :=
  match member rule "kind" with
  | some (.string "sound_similarity") => do
      let payload ← property rule "payload"
      match ← property payload "wavFile" with
      | .string wavFile =>
          let units := utf16 wavFile
          let text ← operatorToString printOther (← property payload "operator")
          return .similarity (units.take 8) (units.drop (units.length - 8)) (text ++ "% ")
      | _ => throw .typeError
  | some (.string "position_difference") => do
      let payload ← property rule "payload"
      let operators := ["x", "y", "z"].filterMap fun axis =>
        ((member payload axis).filter truthy).map fun operator => (axis, operator)
      let texts ← operators.zipIdx.mapM fun entry =>
        (operatorToString printOther entry.1.2).map (axisTexts entry.2 entry.1.1)
      return .differences texts
  | some (.string "luminosity_difference") => .ok .todo
  | _ => .error (.unexpectedRule rule)

end Component

/-! ## What a rule should show -/

section Operator

variable {α : Type}

/-- The name under which an operator is serialised. -/
def operatorKey : NumberOperator α → String
  | .eq _ => "eq"
  | .gt _ => "gt"
  | .lt _ => "lt"
  | .gte _ => "gte"
  | .lte _ => "lte"

def operatorSymbol : NumberOperator α → String
  | .eq _ => "="
  | .gt _ => ">"
  | .lt _ => "<"
  | .gte _ => ">="
  | .lte _ => "<="

def operatorValue : NumberOperator α → α
  | .eq value => value
  | .gt value => value
  | .lt value => value
  | .gte value => value
  | .lte value => value

variable (toInt : α → Int)

/-- The comparison symbol of an operator and its value. -/
def operatorText (operator : NumberOperator α) : String :=
  operatorSymbol operator ++ " " ++ toString (toInt (operatorValue operator))

/-- An operator as the component receives it. -/
def readOperator (operator : NumberOperator α) : Json :=
  .object [(operatorKey operator, .integer (Number.ofInteger (toInt (operatorValue operator))))]

theorem serialize_eq [Serde α] (operator : NumberOperator α) :
    operator.serialize =
      .object [(operatorKey operator, Serde.serialize (operatorValue operator))] := by
  cases operator <;> rfl

theorem toCamelCase_operatorKey (operator : NumberOperator α) :
    Rekey.toCamelCase (operatorKey operator) = operatorKey operator := by
  cases operator <;>
    · rw [operatorKey]
      decide

theorem parseValues_serialize [Serde α]
    (serialized : ∀ value : α, Serde.serialize value = .integer (toInt value))
    (operator : NumberOperator α) :
    Rekey.parseValues Rekey.toCamelCase (parsed operator.serialize) =
      readOperator toInt operator := by
  have distinct (value : Json) :
      ([(operatorKey operator, value)].map fun field => Rekey.toCamelCase field.1).Nodup :=
    List.nodup_singleton _
  rw [serialize_eq, serialized, parsed, List.map_singleton, parsed, Rekey.parseValues_object,
    Rekey.mapKeys_object (distinct _), List.map_singleton, toCamelCase_operatorKey,
    Rekey.parseValues]
  rfl

theorem comparison_singleton (printOther : Json → String) (key name symbol : String)
    (value : Int) :
    comparison printOther (.object [(key, .integer value)]) name symbol =
      if name = key ∧ value ≠ 0 then some (symbol ++ " " ++ Number.print value) else none := by
  rw [comparison, member, List.lookup_cons, List.lookup_nil]
  by_cases same : name = key
  · by_cases zero : value = 0
    · simp [same, truthy, zero]
    · simp [same, truthy, zero, interpolate]
  · simp [same, beq_false_of_ne same]

/-- An operator is shown unless its value is zero. -/
theorem operatorToString_readOperator (printOther : Json → String)
    (operator : NumberOperator α) :
    operatorToString printOther (readOperator toInt operator) =
      if toInt (operatorValue operator) = 0 then
        .error (.unexpectedOperator (readOperator toInt operator))
      else
        .ok (operatorSymbol operator ++ " " ++
          Number.print (Number.ofInteger (toInt (operatorValue operator)))) := by
  rw [operatorToString, readOperator]
  simp only [comparison_singleton, ne_eq, Number.ofInteger_eq_zero_iff]
  by_cases zero : toInt (operatorValue operator) = 0
  · simp only [zero, not_true, and_false, if_false, if_true]
    rfl
  · cases operator <;> simp [operatorKey, operatorSymbol, zero]

/-- A value that is shown as itself. -/
def ShownAsItself (value : Int) : Prop :=
  value ≠ 0 ∧ Number.print (Number.ofInteger value) = toString value

instance (value : Int) : Decidable (ShownAsItself value) :=
  inferInstanceAs (Decidable (_ ∧ _))

theorem shownAsItself_of_lt {value : Int} (nonzero : value ≠ 0)
    (small : value.natAbs < 2 ^ 53) : ShownAsItself value :=
  ⟨nonzero, Number.print_ofInteger_of_lt small⟩

theorem operatorToString_eq_ok_iff (printOther : Json → String) (operator : NumberOperator α) :
    operatorToString printOther (readOperator toInt operator) = .ok (operatorText toInt operator) ↔
      ShownAsItself (toInt (operatorValue operator)) := by
  rw [operatorToString_readOperator, ShownAsItself, operatorText]
  by_cases zero : toInt (operatorValue operator) = 0
  · simp [zero]
  · rw [if_neg zero, Except.ok.injEq, String.append_right_inj]
    exact (and_iff_right zero).symm

end Operator

/-! ## Every rule -/

/-- The axes that a rule compares. -/
def axes (x y z : Option (NumberOperator Int64)) : List (String × NumberOperator Int64) :=
  [("x", x), ("y", y), ("z", z)].filterMap fun axis =>
    axis.2.map fun operator => (axis.1, operator)

/-- Every operator with its own comparison symbol and its own value. -/
def expected : LabelRule → Rendered
  | .soundSimilarity wavFile operator =>
      let units := utf16 wavFile
      .similarity (units.take 8) (units.drop (units.length - 8))
        (operatorText (fun value => value.toNat) operator ++ "% ")
  | .positionDifference x y z =>
      .differences ((axes x y z).zipIdx.map fun entry =>
        axisTexts entry.2 entry.1.1 (operatorText Int64.toInt entry.1.2))
  | .luminosityDifference _ => .todo

/-- The values of the operators that the component shows. -/
def compared : LabelRule → List Int
  | .soundSimilarity _ operator => [(operatorValue operator).toNat]
  | .positionDifference x y z => (axes x y z).map fun axis => (operatorValue axis.2).toInt
  | .luminosityDifference _ => []

/-- The rule of a label as the component receives it. -/
def received (rule : LabelRule) : Json :=
  Rekey.rekeyCamelCase (parsed rule.serialize)

theorem parsed_object (fields : List (String × Json)) :
    parsed (.object fields) = .object (fields.map fun field => (field.1, parsed field.2)) := by
  rw [parsed]

theorem parsed_string (value : String) : parsed (.string value) = .string value := by
  simp [parsed]

theorem parseValues_string (fn : String → String) (value : String) :
    Rekey.parseValues fn (.string value) = .string value := by
  rw [Rekey.parseValues]
  rfl

theorem received_eq (rule : LabelRule) :
    received rule =
      .object [("kind", .string rule.kind),
        ("payload", Rekey.mapKeys Rekey.toCamelCase (parsed (.object rule.payload)))] := by
  have distinct : Rekey.toCamelCase "kind" ≠ Rekey.toCamelCase "payload" := by
    decide
  rw [received, LabelRule.serialize, parsed_object, Rekey.rekeyCamelCase, Rekey.fold]
  · rw [List.map_cons, List.map_singleton, Rekey.mapKeys_pair distinct, parsed_string,
      parseValues_string, parsed_object, Rekey.parseValues_object]
    rfl
  · intro elements isArray
    cases isArray

theorem received_soundSimilarity (wavFile : String) (operator : NumberOperator UInt16) :
    received (.soundSimilarity wavFile operator) =
      .object [("kind", .string "sound_similarity"),
        ("payload", .object [("wavFile", .string wavFile),
          ("operator", readOperator (fun value => value.toNat) operator)])] := by
  have distinct : Rekey.toCamelCase "wav_file" ≠ Rekey.toCamelCase "operator" := by
    decide
  have read := parseValues_serialize (fun value : UInt16 => (value.toNat : Int)) (fun _ => rfl)
    operator
  have fields : LabelRule.payload (.soundSimilarity wavFile operator) =
      [("wav_file", .string wavFile), ("operator", operator.serialize)] := rfl
  rw [received_eq, fields, parsed_object, List.map_cons, List.map_singleton,
    Rekey.mapKeys_pair distinct, parsed_string, parseValues_string, read]
  rfl

theorem names_axes_sublist (x y z : Option (NumberOperator Int64)) :
    ((axes x y z).map Prod.fst).Sublist ["x", "y", "z"] := by
  cases x <;> cases y <;> cases z <;> simp [axes]

theorem received_positionDifference (x y z : Option (NumberOperator Int64)) :
    received (.positionDifference x y z) =
      .object [("kind", .string "position_difference"),
        ("payload", .object ((axes x y z).map fun axis =>
          (axis.1, readOperator Int64.toInt axis.2)))] := by
  have read := parseValues_serialize Int64.toInt (fun _ => rfl)
  have fields : LabelRule.payload (.positionDifference x y z) =
      (axes x y z).map fun axis => (axis.1, axis.2.serialize) := by
    cases x <;> cases y <;> cases z <;> rfl
  have unchanged : ∀ name ∈ ["x", "y", "z"], Rekey.toCamelCase name = name := by
    decide
  have names : ∀ axis ∈ axes x y z, Rekey.toCamelCase axis.1 = axis.1 := by
    intro axis present
    exact unchanged _ ((names_axes_sublist x y z).subset (List.mem_map_of_mem present))
  have distinct : ((axes x y z).map fun axis => Rekey.toCamelCase axis.1).Nodup := by
    rw [List.map_congr_left names]
    exact (names_axes_sublist x y z).nodup (by decide)
  rw [received_eq, fields, parsed_object, List.map_map, Rekey.mapKeys_object, List.map_map]
  · refine congrArg (fun members => Json.object [("kind", .string "position_difference"),
      ("payload", .object members)]) (List.map_congr_left ?_)
    intro axis present
    simp only [Function.comp_apply, names axis present, read]
  · rw [List.map_map]
    exact distinct

theorem received_luminosityDifference (operator : NumberOperator Int64) :
    ∃ payload, received (.luminosityDifference operator) =
      .object [("kind", .string "luminosity_difference"), ("payload", payload)] :=
  ⟨_, received_eq _⟩

theorem mapM_eq_ok_iff {α β : Type} {check : α → Except Thrown β} {result : α → β}
    {items : List α} :
    items.mapM check = .ok (items.map result) ↔
      ∀ item ∈ items, check item = .ok (result item) := by
  induction items with
  | nil => simp [pure, Except.pure]
  | cons item items inductionHypothesis =>
      rw [List.mapM_cons, List.forall_mem_cons, List.map_cons, ← inductionHypothesis]
      cases check item with
      | error thrown => simp [bind, Except.bind]
      | ok value =>
          cases items.mapM check with
          | error thrown => simp [bind, Except.bind]
          | ok values => simp [bind, Except.bind, pure, Except.pure]

/-- The component finds the operators of the axes. -/
theorem operators_axes (x y z : Option (NumberOperator Int64)) :
    (["x", "y", "z"].filterMap fun axis =>
      ((member (.object ((axes x y z).map fun axis =>
        (axis.1, readOperator Int64.toInt axis.2))) axis).filter truthy).map fun operator =>
          (axis, operator)) =
      (axes x y z).map fun axis => (axis.1, readOperator Int64.toInt axis.2) := by
  cases x <;> cases y <;> cases z <;> rfl

theorem map_eq_ok_iff {β γ : Type} {result : β → γ} (injective : Function.Injective result)
    {computed : Except Thrown β} {value : β} :
    computed.map result = .ok (result value) ↔ computed = .ok value := by
  cases computed with
  | error thrown => simp [Except.map]
  | ok other => simp [Except.map, injective.eq_iff]

theorem axisTexts_injective (position : Nat) (axis : String) :
    Function.Injective (axisTexts position axis) := by
  intro first second same
  rw [axisTexts, axisTexts, List.append_cancel_left_eq, List.singleton_inj,
    String.append_right_inj] at same
  exact same

theorem renderLabelRule_similarity (printOther : Json → String) (wavFile : String)
    (operator : Json) :
    renderLabelRule printOther
        (.object [("kind", .string "sound_similarity"),
          ("payload", .object [("wavFile", .string wavFile), ("operator", operator)])]) =
      (operatorToString printOther operator).map fun text =>
        .similarity ((utf16 wavFile).take 8) ((utf16 wavFile).drop ((utf16 wavFile).length - 8))
          (text ++ "% ") := by
  change ((operatorToString printOther operator).bind fun text =>
    (.ok (Rendered.similarity _ _ (text ++ "% ")) : Except Thrown Rendered)) = _
  cases operatorToString printOther operator <;> rfl

theorem renderLabelRule_differences (printOther : Json → String) (payload : Json) :
    renderLabelRule printOther
        (.object [("kind", .string "position_difference"), ("payload", payload)]) =
      ((["x", "y", "z"].filterMap fun axis =>
        ((member payload axis).filter truthy).map fun operator =>
          (axis, operator)).zipIdx.mapM fun entry =>
            (operatorToString printOther entry.1.2).map (axisTexts entry.2 entry.1.1)).map
        .differences := by
  change (Except.bind (List.mapM _ _) fun texts =>
    (.ok (Rendered.differences texts) : Except Thrown Rendered)) = _
  generalize (List.mapM _ _ : Except Thrown (List (List String))) = shown
  cases shown <;> rfl

/-- A rule is shown with its own symbols and values exactly when every value that it
compares is shown as itself. -/
theorem renderLabelRule_received_iff (printOther : Json → String) (rule : LabelRule) :
    renderLabelRule printOther (received rule) = .ok (expected rule) ↔
      ∀ value ∈ compared rule, ShownAsItself value := by
  cases rule with
  | soundSimilarity wavFile operator =>
      have injective : Function.Injective fun text =>
          Rendered.similarity ((utf16 wavFile).take 8)
            ((utf16 wavFile).drop ((utf16 wavFile).length - 8)) (text ++ "% ") := by
        intro first second same
        exact (String.append_left_inj _).mp (Rendered.similarity.inj same).2.2
      rw [received_soundSimilarity, renderLabelRule_similarity, expected, map_eq_ok_iff injective,
        operatorToString_eq_ok_iff, compared, List.forall_mem_singleton]
  | positionDifference x y z =>
      have injective : Function.Injective Rendered.differences := by
        intro first second same
        exact Rendered.differences.inj same
      rw [received_positionDifference, renderLabelRule_differences, operators_axes, expected,
        map_eq_ok_iff injective, List.zipIdx_map, List.mapM_map, mapM_eq_ok_iff, compared,
        List.forall_mem_map]
      simp only [Function.comp_apply, Prod.map, id, map_eq_ok_iff (axisTexts_injective _ _),
        operatorToString_eq_ok_iff]
      constructor
      · intro shown axis present
        rw [← List.zipIdx_map_fst 0 (axes x y z)] at present
        rcases List.mem_map.mp present with ⟨entry, entryPresent, rfl⟩
        exact shown entry entryPresent
      · intro shown entry present
        exact shown entry.1 (List.fst_mem_of_mem_zipIdx present)
  | luminosityDifference operator =>
      rcases received_luminosityDifference operator with ⟨payload, receivedRule⟩
      rw [receivedRule]
      exact iff_of_true rfl (List.forall_mem_nil _)

/-- A rule that compares with zero cannot be shown. -/
theorem renderLabelRule_received_zero :
    renderLabelRule (fun _ => "") (received (.positionDifference (some (.gte 0)) none none)) =
      .error (.unexpectedOperator (.object [("gte", .integer 0)])) := by
  rw [received_positionDifference]
  rfl

end Bug.Frontend
