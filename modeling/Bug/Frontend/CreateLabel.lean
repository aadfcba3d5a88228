import Bug.Frontend.LabelRule
import Bug.Frontend.Wire
import Bug.Primitive.Numeral

/-!
# The form for a new label

The form asks for a comparison of every value that its kind of rule compares: an
operator, and a number as a text.  Submitting it builds a rule out of plain objects,
which the backend takes for a rule of its own or refuses.
-/

namespace Bug.Frontend

open Bug.Db
open Bug.Encoding
open Bug.Http

/-- `JSON.stringify` of a number that is an integer, or of NaN, given the bits of the doubles
that are written with an exponent. -/
def stringify (bits : Int → UInt64) : Option Int → Json
  | none => .null
  | some double =>
      if double.natAbs < 10 ^ 21 then .integer (Number.printed double)
      else if double.natAbs < 2 ^ 1024 then .float (bits double)
      else .null

/-! ## The fields -/

/-- `operatorOptions`. -/
inductive OperatorOption where
  | eq
  | gt
  | lt
  | gte
  | lte
  deriving DecidableEq

namespace OperatorOption

def value : OperatorOption → String
  | eq => "eq"
  | gt => "gt"
  | lt => "lt"
  | gte => "gte"
  | lte => "lte"

/-- The operator of the backend. -/
def operator {α : Type} : OperatorOption → α → NumberOperator α
  | eq => .eq
  | gt => .gt
  | lt => .lt
  | gte => .gte
  | lte => .lte

end OperatorOption

/-- The fields of one comparison. -/
structure ComparisonFields where
  operator : Option OperatorOption
  value : String
  deriving DecidableEq

/-- The fields below the kind of the rule. -/
inductive RuleFields where
  | soundSimilarity (comparison : ComparisonFields)
  | positionDifference (x y z : ComparisonFields)
  | luminosityDifference
  deriving DecidableEq

/-- The fields of the form.  There are none for the rule before its kind is chosen. -/
structure LabelForm where
  name : String
  description : String
  rule : Option RuleFields
  deriving DecidableEq

namespace ComparisonFields

/-- The fields of an axis as they open for an event. -/
def opened (start stop : Int32) : ComparisonFields where
  operator :=
    if 0 < stop.toInt - start.toInt then some .gt
    else if stop.toInt - start.toInt < 0 then some .lt
    else none
  value := toString (stop.toInt - start.toInt)

end ComparisonFields

/-- The rule's fields as they open for an event of the position. -/
def RuleFields.opened (start stop : Coordinates) : RuleFields :=
  .positionDifference (.opened start.1 stop.1) (.opened start.2.1 stop.2.1)
    (.opened start.2.2 stop.2.2)

/-! ## Submitting -/

/-- Why nothing is sent. -/
inductive Unsubmitted where
  | unexpectedRuleKind
  | typeError
  deriving DecidableEq

section Submit

variable (bits : Int → UInt64)

/-- The object of one operator and the number that its text is read as. -/
def comparisonObject (option : OperatorOption) (text : String) : Json :=
  .object [(option.value, stringify bits (Number.parseInt text))]

/-- The member of an axis, if it is compared. -/
def axisMember (axis : String) (fields : ComparisonFields) : List (String × Json) :=
  match fields.operator with
  | none => []
  | some option => [(axis, comparisonObject bits option fields.value)]

/-- `event.payload.wavFile`, which is undefined unless the event is a sound. -/
def wavFile : Db.EventPayload → Option String
  | .sound wavFile => some wavFile
  | _ => none

/-- The payload that `onValid` builds. -/
def rulePayload (event : EventEntity) : RuleFields → Except Unsubmitted (List (String × Json))
  | .soundSimilarity fields =>
      match fields.operator with
      | none => .error .typeError
      | some option =>
          .ok (Serde.skipNone "wav_file" (wavFile event.payload) ++
            [("operator", comparisonObject bits option fields.value)])
  | .positionDifference x y z =>
      .ok (axisMember bits "x" x ++ axisMember bits "y" y ++ axisMember bits "z" z)
  | .luminosityDifference => .ok []

def ruleKind : RuleFields → String
  | .soundSimilarity _ => "sound_similarity"
  | .positionDifference _ _ _ => "position_difference"
  | .luminosityDifference => "luminosity_difference"

/-- The body of the saga's call. -/
def createLabelBody (event : EventEntity) (form : LabelForm) (fields : RuleFields)
    (payload : List (String × Json)) : List (String × Json) :=
  [("name", .string form.name), ("description", .string form.description),
    ("rule", .object [("kind", .string (ruleKind fields)), ("payload", .object payload)]),
    ("event_kind", event.kind.serialize), ("device_id", event.device.serialize)]

/-- `onValid`, and the call of the saga. -/
def submit (event : EventEntity) (form : LabelForm) : Except Unsubmitted HttpRequest :=
  match form.rule with
  | none => .error .unexpectedRuleKind
  | some fields =>
      (rulePayload bits event fields).map fun payload =>
        Api.createLabel (.object (createLabelBody event form fields payload))

end Submit

/-! ## What the form stands for -/

namespace ComparisonFields

/-- The number that the backend receives for the text, if it receives one. -/
def number (fields : ComparisonFields) : Option Int :=
  (Number.parseInt fields.value).bind fun double =>
    if double.natAbs < 10 ^ 21 then some (Number.printed double) else none

/-- The number as one of a type with the given range. -/
def within {α : Type} (least greatest : Int) (ofInt : Int → α) (fields : ComparisonFields) :
    Option α :=
  fields.number.bind fun value =>
    if least ≤ value ∧ value ≤ greatest then some (ofInt value) else none

/-- The similarity is a `u16`. -/
def similarity (fields : ComparisonFields) : Option (NumberOperator UInt16) :=
  fields.operator.bind fun option =>
    (fields.within 0 65535 fun value => UInt16.ofNat value.toNat).map option.operator

/-- The difference of an axis is an `i64`, and an axis without an operator is not compared. -/
def difference (fields : ComparisonFields) : Option (Option (NumberOperator Int64)) :=
  match fields.operator with
  | none => some none
  | some option =>
      (fields.within (-9223372036854775808) 9223372036854775807 Int64.ofInt).map fun value =>
        some (option.operator value)

end ComparisonFields

namespace RuleFields

/-- The rule of the backend, if there is one. -/
def meaning (event : EventEntity) : RuleFields → Option LabelRule
  | soundSimilarity fields => do
      return .soundSimilarity (← wavFile event.payload) (← fields.similarity)
  | positionDifference x y z => do
      return .positionDifference (← x.difference) (← y.difference) (← z.difference)
  | luminosityDifference => none

end RuleFields

/-- The label that the form stands for. -/
def LabelForm.label (form : LabelForm) (event : EventEntity) (rule : LabelRule) : NewLabel where
  eventKind := event.kind
  name := form.name
  description := form.description
  rule := rule
  deviceId := event.device

/-! ## Reading a comparison -/

section Read

variable (bits : Int → UInt64)

theorem ofInteger_stringify {α : Type} (least greatest : Int) (ofInt : Int → α)
    (fields : ComparisonFields) :
    Serde.ofInteger least greatest ofInt (stringify bits (Number.parseInt fields.value)) =
      fields.within least greatest ofInt := by
  rw [ComparisonFields.within, ComparisonFields.number]
  cases Number.parseInt fields.value with
  | none => rfl
  | some double =>
      rw [stringify, Option.bind_some]
      split
      · rfl
      · split <;> rfl

theorem deserialize_comparisonObject {α : Type} [Serde α] (option : OperatorOption)
    (text : String) :
    (Serde.deserialize (comparisonObject bits option text) : Option (NumberOperator α)) =
      (Serde.deserialize (stringify bits (Number.parseInt text)) : Option α).map
        option.operator := by
  cases option <;> rfl

theorem deserialize_similarity {fields : ComparisonFields} {option : OperatorOption}
    (chosen : fields.operator = some option) :
    (Serde.deserialize (comparisonObject bits option fields.value) :
      Option (NumberOperator UInt16)) = fields.similarity := by
  rw [deserialize_comparisonObject, ComparisonFields.similarity, chosen, Option.bind_some]
  exact congrArg _ (ofInteger_stringify bits 0 65535 _ fields)

/-- The member of an axis is read as the comparison of the axis. -/
theorem optionalField_axisMember {axis : String} {fields : ComparisonFields}
    {payload : List (String × Json)}
    (looked : payload.lookup axis = (axisMember bits axis fields).lookup axis) :
    Serde.optionalField payload axis = fields.difference := by
  rw [Serde.optionalField, looked, axisMember, ComparisonFields.difference]
  cases fields.operator with
  | none => rfl
  | some option =>
      have read : (Serde.deserialize (comparisonObject bits option fields.value) :
          Option (NumberOperator Int64)) =
            (fields.within (-9223372036854775808) 9223372036854775807 Int64.ofInt).map
              option.operator := by
        rw [deserialize_comparisonObject]
        exact congrArg _ (ofInteger_stringify bits _ _ Int64.ofInt fields)
      simp only [List.lookup_cons, beq_self_eq_true]
      change (Serde.deserialize (comparisonObject bits option fields.value)).map some = _
      rw [read, Option.map_map]
      rfl

theorem lookup_axisMembers (x y z : ComparisonFields) :
    ∀ axis ∈ [("x", x), ("y", y), ("z", z)],
      (axisMember bits "x" x ++ axisMember bits "y" y ++ axisMember bits "z" z).lookup axis.1 =
        (axisMember bits axis.1 axis.2).lookup axis.1 := by
  simp only [List.forall_mem_cons, List.not_mem_nil, false_imp_iff, implies_true, and_true,
    axisMember]
  cases x.operator <;> cases y.operator <;> cases z.operator <;> exact ⟨rfl, rfl, rfl⟩

/-- The payload that is sent is read as the rule that the form stands for. -/
theorem ofPayload_rulePayload (event : EventEntity) {fields : RuleFields}
    {payload : List (String × Json)} (built : rulePayload bits event fields = .ok payload) :
    LabelRule.ofPayload (ruleKind fields) payload = fields.meaning event := by
  cases fields with
  | soundSimilarity comparison =>
      rw [rulePayload] at built
      cases chosen : comparison.operator with
      | none =>
          rw [chosen] at built
          cases built
      | some option =>
          rw [chosen] at built
          cases built
          have operator : Serde.field (Serde.skipNone "wav_file" (wavFile event.payload) ++
              [("operator", comparisonObject bits option comparison.value)]) "operator" =
                comparison.similarity := by
            rw [← deserialize_similarity bits chosen]
            cases wavFile event.payload <;> rfl
          have file : Serde.field (Serde.skipNone "wav_file" (wavFile event.payload) ++
              [("operator", comparisonObject bits option comparison.value)]) "wav_file" =
                wavFile event.payload := by
            cases wavFile event.payload <;> rfl
          rw [ruleKind, LabelRule.ofPayload, operator, file, RuleFields.meaning]
  | positionDifference x y z =>
      cases built
      have looked := lookup_axisMembers bits x y z
      have first := optionalField_axisMember bits (looked ("x", x) (by simp))
      have second := optionalField_axisMember bits (looked ("y", y) (by simp))
      have third := optionalField_axisMember bits (looked ("z", z) (by simp))
      rw [ruleKind, LabelRule.ofPayload, first, second, third, RuleFields.meaning]
  | luminosityDifference =>
      cases built
      rfl

/-- The body is read as the label that the form stands for. -/
theorem deserialize_createLabelBody (formats : Formats) (event : EventEntity) (form : LabelForm)
    {fields : RuleFields} {payload : List (String × Json)}
    (built : rulePayload bits event fields = .ok payload) :
    NewLabel.deserialize formats (.object (createLabelBody event form fields payload)) =
      (fields.meaning event).map (form.label event) := by
  have eventKind : ((createLabelBody event form fields payload).lookup "event_kind").bind
      EventKind.deserialize = some event.kind := EventKind.deserialize_serialize _
  have deviceId : ((createLabelBody event form fields payload).lookup "device_id").bind
      (Uuid.deserialize formats) = some event.device := Uuid.deserialize_serialize formats _
  have name : Serde.field (createLabelBody event form fields payload) "name" = some form.name :=
    rfl
  have description : Serde.field (createLabelBody event form fields payload) "description" =
      some form.description := rfl
  have rule : Serde.field (createLabelBody event form fields payload) "rule" =
      fields.meaning event := ofPayload_rulePayload bits event built
  cases meaning : fields.meaning event with
  | none =>
      simp [NewLabel.deserialize, recordMembers, eventKind, deviceId, name, description,
        rule.trans meaning]
  | some value =>
      simp [NewLabel.deserialize, recordMembers, eventKind, deviceId, name, description,
        rule.trans meaning, LabelForm.label]

end Read

/-! ## Submitting the form -/

section Call

variable (formats : Formats) (bits : Int → UInt64)

theorem submit_eq {event : EventEntity} {form : LabelForm} {fields : RuleFields}
    (chosen : form.rule = some fields) :
    submit bits event form = (rulePayload bits event fields).map fun payload =>
      Api.createLabel (.object (createLabelBody event form fields payload)) := by
  rw [submit, chosen]

/-- What is sent is a label if the form has a meaning, and a bad request otherwise. -/
theorem call_submit (database : DatabaseAddr) (tables : Tables) (event : EventEntity)
    {form : LabelForm} {fields : RuleFields} {message : HttpRequest}
    (chosen : form.rule = some fields) (sent : submit bits event form = .ok message) :
    call (routes formats) database tables message =
      (fields.meaning event).elim (tables, { status := .badRequest, body := none }) fun rule =>
        Http.Label.create formats database tables (form.label event rule) := by
  rw [submit_eq bits chosen] at sent
  cases built : rulePayload bits event fields with
  | error thrown =>
      rw [built] at sent
      cases sent
  | ok payload =>
      rw [built] at sent
      cases sent
      have body := deserialize_createLabelBody bits formats event form built
      have found : findResource (routes formats) "/v1/labels".toList = some (_, []) := rfl
      have called : call (routes formats) database tables
          ⟨.post, "/v1/labels", some (.object (createLabelBody event form fields payload))⟩ =
            withBody (NewLabel.deserialize formats) (Http.Label.create formats) database tables []
              (some (.object (createLabelBody event form fields payload))) :=
        call_of_found found rfl database tables
      rw [withBody, Option.bind_some, body] at called
      refine called.trans ?_
      cases fields.meaning event <;> rfl

/-- A form with a meaning is sent. -/
theorem exists_submit_of_meaning {event : EventEntity} {form : LabelForm} {fields : RuleFields}
    {rule : LabelRule} (chosen : form.rule = some fields)
    (meaning : fields.meaning event = some rule) :
    ∃ message, submit bits event form = .ok message := by
  rw [submit_eq bits chosen]
  cases fields with
  | soundSimilarity comparison =>
      cases operator : comparison.operator with
      | none => simp [RuleFields.meaning, ComparisonFields.similarity, operator] at meaning
      | some option =>
          simp only [rulePayload, operator]
          exact ⟨_, rfl⟩
  | positionDifference x y z => exact ⟨_, rfl⟩
  | luminosityDifference => cases meaning

end Call

/-! ## Showing the label -/

/-- A number of the form is shown as itself unless it is zero. -/
theorem shownAsItself_of_number {fields : ComparisonFields} {value : Int}
    (number : fields.number = some value) (nonzero : value ≠ 0) : ShownAsItself value := by
  rcases Option.bind_eq_some_iff.mp number with ⟨double, read, small⟩
  rcases Number.exists_of_parseInt read with ⟨typed, rfl⟩
  cases (Option.ite_none_right_eq_some.mp small).2
  refine ⟨nonzero, ?_⟩
  rw [Number.ofInteger_printed, Number.print_eq]

theorem operatorValue_operator {α : Type} (option : OperatorOption) (value : α) :
    operatorValue (option.operator value) = value := by
  cases option <;> rfl

theorem number_of_similarity {fields : ComparisonFields} {operator : NumberOperator UInt16}
    (meaning : fields.similarity = some operator) :
    fields.number = some ((operatorValue operator).toNat : Int) := by
  rcases Option.bind_eq_some_iff.mp meaning with ⟨option, -, read⟩
  rcases Option.map_eq_some_iff.mp read with ⟨value, within, rfl⟩
  rcases Option.bind_eq_some_iff.mp within with ⟨number, received, inRange⟩
  rcases Option.ite_none_right_eq_some.mp inRange with ⟨bounds, same⟩
  rw [operatorValue_operator, ← Option.some.inj same, received, UInt16.toNat_ofNat']
  congr 1
  omega

theorem number_of_difference {fields : ComparisonFields} {operator : NumberOperator Int64}
    (meaning : fields.difference = some (some operator)) :
    fields.number = some (operatorValue operator).toInt := by
  rw [ComparisonFields.difference] at meaning
  cases chosen : fields.operator with
  | none =>
      rw [chosen] at meaning
      cases meaning
  | some option =>
      rw [chosen] at meaning
      rcases Option.map_eq_some_iff.mp meaning with ⟨value, within, same⟩
      rcases Option.bind_eq_some_iff.mp within with ⟨number, received, inRange⟩
      rcases Option.ite_none_right_eq_some.mp inRange with ⟨bounds, fits⟩
      cases same
      rw [operatorValue_operator, ← Option.some.inj fits, received,
        Int64.toInt_ofInt_of_le (by omega) (by omega)]

theorem mem_axes {x y z : Option (NumberOperator Int64)} {axis : String × NumberOperator Int64}
    (present : axis ∈ axes x y z) : x = some axis.2 ∨ y = some axis.2 ∨ z = some axis.2 := by
  rcases List.mem_filterMap.mp present with ⟨entry, listed, kept⟩
  rcases Option.map_eq_some_iff.mp kept with ⟨operator, compares, rfl⟩
  simp only [List.mem_cons, List.not_mem_nil, or_false] at listed
  rcases listed with rfl | rfl | rfl
  · exact .inl compares
  · exact .inr (.inl compares)
  · exact .inr (.inr compares)

/-- The values that a rule of the form compares are numbers of the form. -/
theorem number_of_compared {event : EventEntity} {fields : RuleFields} {rule : LabelRule}
    (meaning : fields.meaning event = some rule) :
    ∀ value ∈ compared rule, ∃ comparison : ComparisonFields, comparison.number = some value := by
  cases fields with
  | soundSimilarity comparison =>
      rcases Option.bind_eq_some_iff.mp meaning with ⟨file, -, rest⟩
      rcases Option.bind_eq_some_iff.mp rest with ⟨operator, similarity, same⟩
      cases same
      rw [compared, List.forall_mem_singleton]
      exact ⟨comparison, number_of_similarity similarity⟩
  | positionDifference x y z =>
      rcases Option.bind_eq_some_iff.mp meaning with ⟨first, xRead, rest⟩
      rcases Option.bind_eq_some_iff.mp rest with ⟨second, yRead, others⟩
      rcases Option.bind_eq_some_iff.mp others with ⟨third, zRead, same⟩
      cases same
      intro value present
      rcases List.mem_map.mp present with ⟨axis, listed, rfl⟩
      rcases mem_axes listed with compares | compares | compares
      · exact ⟨x, number_of_difference (xRead.trans (congrArg some compares))⟩
      · exact ⟨y, number_of_difference (yRead.trans (congrArg some compares))⟩
      · exact ⟨z, number_of_difference (zRead.trans (congrArg some compares))⟩
  | luminosityDifference => cases meaning

/-- The texts of one axis, if its operator can be shown. -/
theorem axisTexts_readOperator (printOther : Json → String) (position : Nat)
    (axis : String × NumberOperator Int64) :
    (operatorToString printOther (readOperator Int64.toInt axis.2)).map
        (axisTexts position axis.1) =
      if (operatorValue axis.2).toInt = 0 then
        .error (.unexpectedOperator (readOperator Int64.toInt axis.2))
      else
        .ok (axisTexts position axis.1 (operatorSymbol axis.2 ++ " " ++
          Number.print (Number.ofInteger (operatorValue axis.2).toInt))) := by
  rw [operatorToString_readOperator]
  split <;> rfl

/-- The component shows every rule whose values are shown as themselves. -/
theorem renderLabelRule_of_shown (printOther : Json → String) {rule : LabelRule}
    (shown : ∀ value ∈ compared rule, ShownAsItself value) :
    renderLabelRule printOther (received rule) = .ok (expected rule) := by
  cases rule with
  | soundSimilarity wavFile operator =>
      rw [compared, List.forall_mem_singleton] at shown
      have text := (operatorToString_eq_ok_iff (fun value : UInt16 => (value.toNat : Int)) printOther
        operator).mpr shown
      rw [received_soundSimilarity, renderLabelRule_similarity, text]
      rfl
  | positionDifference x y z =>
      have texts : ((axes x y z).map fun axis =>
          (axis.1, readOperator Int64.toInt axis.2)).zipIdx.mapM (fun entry =>
            (operatorToString printOther entry.1.2).map (axisTexts entry.2 entry.1.1)) =
              .ok ((axes x y z).zipIdx.map fun entry =>
                axisTexts entry.2 entry.1.1 (operatorText Int64.toInt entry.1.2)) := by
        rw [List.zipIdx_map, List.mapM_map, mapM_eq_ok_iff]
        intro entry present
        have itself := shown _ (List.mem_map_of_mem (List.fst_mem_of_mem_zipIdx present))
        refine (axisTexts_readOperator printOther entry.2 entry.1).trans ?_
        rw [if_neg itself.1, itself.2]
        rfl
      rw [received_positionDifference, renderLabelRule_differences, operators_axes, texts]
      rfl
  | luminosityDifference operator =>
      rcases received_luminosityDifference operator with ⟨payload, receivedRule⟩
      rw [receivedRule]
      rfl

theorem exists_of_mapM_eq_ok {α β : Type} {check : α → Except Thrown β} {items : List α}
    {results : List β} (checked : items.mapM check = .ok results) :
    ∀ item ∈ items, ∃ result, check item = .ok result := by
  induction items generalizing results with
  | nil => exact fun item present => absurd present List.not_mem_nil
  | cons item items inductionHypothesis =>
      rw [List.mapM_cons] at checked
      cases first : check item with
      | error thrown =>
          rw [first] at checked
          cases checked
      | ok result =>
          rw [first] at checked
          cases rest : items.mapM check with
          | error thrown =>
              rw [rest] at checked
              cases checked
          | ok others =>
              rw [List.forall_mem_cons]
              exact ⟨⟨result, first⟩, inductionHypothesis rest⟩

/-- It throws on every rule that compares with zero. -/
theorem renderLabelRule_of_zero (printOther : Json → String) {rule : LabelRule}
    (zero : 0 ∈ compared rule) (rendered : Rendered) :
    renderLabelRule printOther (received rule) ≠ .ok rendered := by
  intro shown
  cases rule with
  | soundSimilarity wavFile operator =>
      rw [received_soundSimilarity, renderLabelRule_similarity, operatorToString_readOperator,
        if_pos (List.mem_singleton.mp zero).symm] at shown
      cases shown
  | positionDifference x y z =>
      rw [received_positionDifference, renderLabelRule_differences, operators_axes] at shown
      rcases List.mem_map.mp zero with ⟨axis, listed, noDifference⟩
      have compares := List.mem_map_of_mem
        (f := fun axis : String × NumberOperator Int64 => (axis.1, readOperator Int64.toInt axis.2))
        listed
      rw [← List.zipIdx_map_fst 0 ((axes x y z).map _)] at compares
      rcases List.mem_map.mp compares with ⟨⟨entry, position⟩, present, rfl⟩
      cases texts : ((axes x y z).map fun axis =>
          (axis.1, readOperator Int64.toInt axis.2)).zipIdx.mapM (fun entry =>
            (operatorToString printOther entry.1.2).map (axisTexts entry.2 entry.1.1)) with
      | error thrown =>
          rw [texts] at shown
          cases shown
      | ok results =>
          rcases exists_of_mapM_eq_ok texts _ present with ⟨result, text⟩
          rw [axisTexts_readOperator, if_pos noDifference] at text
          cases text
  | luminosityDifference operator => exact absurd zero List.not_mem_nil

/-! ## The form as it opens -/

/-- How an axis has moved. -/
def moved (start stop : Int32) : Option (NumberOperator Int64) :=
  if 0 < stop.toInt - start.toInt then some (.gt (Int64.ofInt (stop.toInt - start.toInt)))
  else if stop.toInt - start.toInt < 0 then some (.lt (Int64.ofInt (stop.toInt - start.toInt)))
  else none

/-- A text stands for the integer it begins with; a fraction or an exponent is ignored. -/
theorem number_of_typed {fields : ComparisonFields} {value : Int} {rest : String}
    (typed : fields.value = toString value ++ rest)
    (ends : ∀ char ∈ rest.toList.head?, ¬char.isDigit) (small : value.natAbs < 2 ^ 53) :
    fields.number = some value := by
  rw [ComparisonFields.number, typed, Number.parseInt_toString_append value ends,
    Option.bind_some, Number.ofInteger_of_lt small, Number.printed_of_lt small]
  exact if_pos (small.trans (by decide))

theorem number_opened (start stop : Int32) :
    (ComparisonFields.opened start stop).number = some (stop.toInt - start.toInt) := by
  have startLower := start.le_toInt
  have startUpper := start.toInt_lt
  have stopLower := stop.le_toInt
  have stopUpper := stop.toInt_lt
  exact @number_of_typed (.opened start stop) _ "" String.append_empty.symm (by simp) (by omega)

theorem difference_opened (start stop : Int32) :
    (ComparisonFields.opened start stop).difference = some (moved start stop) := by
  have startLower := start.le_toInt
  have startUpper := start.toInt_lt
  have stopLower := stop.le_toInt
  have stopUpper := stop.toInt_lt
  have within : (ComparisonFields.opened start stop).within (-9223372036854775808)
      9223372036854775807 Int64.ofInt = some (Int64.ofInt (stop.toInt - start.toInt)) := by
    rw [ComparisonFields.within, number_opened, Option.bind_some]
    exact if_pos ⟨by omega, by omega⟩
  rw [ComparisonFields.difference, within, moved, ComparisonFields.opened]
  by_cases up : 0 < stop.toInt - start.toInt
  · rw [if_pos up, if_pos up]
    rfl
  · rw [if_neg up, if_neg up]
    by_cases down : stop.toInt - start.toInt < 0
    · rw [if_pos down, if_pos down]
      rfl
    · rw [if_neg down, if_neg down]

theorem meaning_opened (event : EventEntity) (start stop : Coordinates) :
    (RuleFields.opened start stop).meaning event =
      some (.positionDifference (moved start.1 stop.1) (moved start.2.1 stop.2.1)
        (moved start.2.2 stop.2.2)) := by
  rw [RuleFields.opened, RuleFields.meaning, difference_opened, difference_opened,
    difference_opened]
  rfl

theorem moved_ne_zero {start stop : Int32} {operator : NumberOperator Int64}
    (compares : moved start stop = some operator) : (operatorValue operator).toInt ≠ 0 := by
  have startLower := start.le_toInt
  have startUpper := start.toInt_lt
  have stopLower := stop.le_toInt
  have stopUpper := stop.toInt_lt
  have exact : (Int64.ofInt (stop.toInt - start.toInt)).toInt = stop.toInt - start.toInt :=
    Int64.toInt_ofInt_of_le (by omega) (by omega)
  rw [moved] at compares
  split at compares
  · cases compares
    rw [operatorValue, exact]
    omega
  · split at compares
    · cases compares
      rw [operatorValue, exact]
      omega
    · cases compares

theorem opened_ne_zero (start stop : Coordinates) :
    0 ∉ compared (.positionDifference (moved start.1 stop.1) (moved start.2.1 stop.2.1)
      (moved start.2.2 stop.2.2)) := by
  intro zero
  rcases List.mem_map.mp zero with ⟨axis, listed, noDifference⟩
  rcases mem_axes listed with compares | compares | compares
  · exact moved_ne_zero compares noDifference
  · exact moved_ne_zero compares noDifference
  · exact moved_ne_zero compares noDifference

/-! ## From the form to the page -/

end Bug.Frontend
