import Bug.Frontend.System
import Bug.Frontend.Template
import Bug.Http.Server

/-!
# The calls of the frontend

A call sends one request to the server.  The path of a deletion is a template that
is filled with the identifier.  A response outside the successful range throws
its status code; of the others the body is kept.
-/

namespace Bug.Frontend

open Bug.Db
open Bug.Encoding
open Bug.Http

/-! ## Calls -/

namespace Api

/-- `createGet`, whose query is empty. -/
def createGet (url : String) : HttpRequest where
  method := .get
  path := url
  body := none

def createPost (url : String) (body : Json) : HttpRequest where
  method := .post
  path := url
  body := some body

def createDelete (url : String) (param : String → Option String) : Except String HttpRequest :=
  ((createTemplateExecutor url).execute param).map fun path =>
    { method := .delete
      path := path
      body := none }

def listEvent : HttpRequest :=
  createGet "/v1/events"

def createDevice (body : Json) : HttpRequest :=
  createPost "/v1/devices" body

def listDevice : HttpRequest :=
  createGet "/v1/devices"

def deleteDevice : (String → Option String) → Except String HttpRequest :=
  createDelete "/v1/devices/{id}"

def createLabel (body : Json) : HttpRequest :=
  createPost "/v1/labels" body

def listLabel : HttpRequest :=
  createGet "/v1/labels"

def deleteLabel : (String → Option String) → Except String HttpRequest :=
  createDelete "/v1/labels/{id}"

/-- What a call resumes with: the body of a successful response, or the error that
is thrown for any other. -/
def settle (response : HttpResponse) : Except String (Option Json) :=
  if 200 ≤ response.status.asU16 ∧ response.status.asU16 < 300 then
    .ok response.body
  else
    .error s!"Request failed with status code {response.status.asU16}"

end Api

namespace Request

/-- The text members of a dispatched device. -/
def deviceParam (id : Uuid) : String → Option String
  | "id" => some (toString id)
  | _ => none

/-- The text members of a dispatched label. -/
def labelParam (label : Uuid × LabelEntity) : String → Option String
  | "id" => some (toString label.1)
  | "name" => some label.2.name
  | "description" => some label.2.description
  | "device" => some (toString label.2.device)
  | _ => none

/-- The members of a device to create. -/
def deviceBody (value : NewDevice) : List (String × Json) :=
  [("name", .string value.name), ("description", .string value.description)]

/-- The members of a label to create. -/
def labelBody (value : NewLabel) : List (String × Json) :=
  [("name", .string value.name), ("description", .string value.description),
    ("rule", Serde.serialize value.rule), ("event_kind", value.eventKind.serialize),
    ("device_id", value.deviceId.serialize)]

/-- The call of a saga. -/
def message : Request → Except String HttpRequest
  | fetchDevices => .ok Api.listDevice
  | createDevice value => .ok (Api.createDevice (.object (deviceBody value)))
  | deleteDevice id => Api.deleteDevice (deviceParam id)
  | fetchLabels => .ok Api.listLabel
  | createLabel value _ => .ok (Api.createLabel (.object (labelBody value)))
  | deleteLabel label => Api.deleteLabel (labelParam label)
  | fetchEvents => .ok Api.listEvent

end Request

/-! ## Templates of paths -/

/-- A component as a template writes it. -/
def spell : Component → List Char
  | .fixed segment => segment.toList
  | .dynamic name => '{' :: (name.toList ++ ['}'])

/-- The fixed segments have no brackets, and the names are keys. -/
def Spellable : Component → Prop
  | .fixed segment => '{' ∉ segment.toList
  | .dynamic name => name.toList ≠ [] ∧ ∀ char ∈ name.toList, CharWrapper.parentheses.isKey char

instance : (component : Component) → Decidable (Spellable component)
  | .fixed segment => inferInstanceAs (Decidable ('{' ∉ segment.toList))
  | .dynamic name => @instDecidableAnd _ _ (inferInstanceAs (Decidable (name.toList ≠ [])))
      (List.decidableBAll (CharWrapper.parentheses.isKey · = true) name.toList)

theorem replacement_of_datum {template : String} {data : String → Option String} {key datum : String}
    (known : data key = some datum) (nonempty : datum ≠ "") :
    (createTemplateExecutor template).replacement data key = .ok datum := by
  unfold TemplateExecutor.replacement
  split
  · rename_i empty
    cases known.symm.trans empty
    exact absurd rfl nonempty
  · rename_i other _ found
    cases known.symm.trans found
    rfl
  · rename_i missing
    cases known.symm.trans missing

/-- Executing a template of a path fills its pattern. -/
theorem replace_spell {template : String} {data : String → Option String}
    {value : String → String} {components : List Component}
    (spellable : ∀ component ∈ components, Spellable component)
    (known : ∀ name, .dynamic name ∈ components →
      data name = some (value name) ∧ value name ≠ "") :
    (createTemplateExecutor template).replace data (joinSegments (components.map spell)) =
      .ok (joinSegments (components.map (Component.fill value))) := by
  induction components with
  | nil => exact TemplateExecutor.replace_nil _ data
  | cons component components ih =>
      rcases List.forall_mem_cons.mp spellable with ⟨spellableFirst, spellableRest⟩
      have rest := ih spellableRest fun name present => known name (List.mem_cons_of_mem _ present)
      have slash : '/' ≠ (createTemplateExecutor template).charWrapper.opening :=
        (by decide : '/' ≠ CharWrapper.parentheses.opening)
      rw [List.map_cons, joinSegments_cons, List.map_cons, joinSegments_cons,
        TemplateExecutor.replace_char _ data slash]
      cases component with
      | fixed segment =>
          have plain : ∀ char ∈ segment.toList,
              char ≠ (createTemplateExecutor template).charWrapper.opening := by
            rintro char present rfl
            exact spellableFirst present
          have replaced := TemplateExecutor.replace_text _ data plain rest
          rw [spell, replaced]
          rfl
      | dynamic name =>
          rcases known name List.mem_cons_self with ⟨datum, nonempty⟩
          have replaced := TemplateExecutor.replace_key (createTemplateExecutor template) data
            spellableFirst.1 spellableFirst.2 (joinSegments (components.map spell))
          rw [String.ofList_toList, replacement_of_datum datum nonempty, rest] at replaced
          have spelled : spell (.dynamic name) ++ joinSegments (components.map spell) =
              '{' :: (name.toList ++ '}' :: joinSegments (components.map spell)) := by
            rw [spell, List.cons_append, List.append_assoc]
            rfl
          rw [spelled]
          exact congrArg (fun result => result >>= fun replaced => pure ('/' :: replaced)) replaced

end Bug.Frontend
