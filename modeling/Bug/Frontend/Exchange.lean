import Bug.Frontend.Api

/-!
# A request and its response over HTTP

Every request of the page reaches the handler that was meant for it, with the
values it was sent with, and the response tells the page what the backend
answered.
-/

namespace Bug.Frontend

open Bug.Db
open Bug.Encoding
open Bug.Http

/-! ## The way to the handler -/

section Routing

variable (formats : Formats) (database : DatabaseAddr) (tables : Tables)

/-- The path of a resource of one identifier. -/
def pathOf (segment : String) (id : Uuid) : List (List Char) :=
  ["v1".toList, segment.toList, id.toChars]

theorem plain_pathOf {segment : String} (plain : '/' ∉ segment.toList) (id : Uuid) :
    ∀ part ∈ pathOf segment id, '/' ∉ part := by
  simp only [pathOf, List.forall_mem_cons, List.not_mem_nil, false_imp_iff, implies_true, and_true]
  exact ⟨by decide, plain, id.slash_notMem_toChars⟩

/-- A template of such a path is filled with the identifier. -/
theorem createDelete_eq {url : String} (segment : String) {param : String → Option String}
    {id : Uuid} (written : url.toList =
      joinSegments ([.fixed "v1", .fixed segment, .dynamic "id"].map spell))
    (spellable : Spellable (.fixed segment)) (known : param "id" = some (toString id)) :
    Api.createDelete url param =
      .ok
        { method := .delete
          path := String.ofList (joinSegments (pathOf segment id))
          body := none } := by
  have spellables : ∀ component ∈ [.fixed "v1", .fixed segment, .dynamic "id"],
      Spellable component := by
    simp only [List.forall_mem_cons, List.not_mem_nil, false_imp_iff, implies_true, and_true]
    exact ⟨by decide, spellable, by decide⟩
  have nonempty : toString id ≠ "" := by
    intro empty
    exact id.toChars_ne_nil (String.ofList_injective empty)
  have filled := @replace_spell url param (fun _ => toString id)
    [.fixed "v1", .fixed segment, .dynamic "id"] spellables (by
      intro name present
      simp only [List.mem_cons, reduceCtorEq, Component.dynamic.injEq, List.not_mem_nil, or_false,
        false_or] at present
      subst present
      exact ⟨known, nonempty⟩)
  have template : (createTemplateExecutor url).template.toList =
      joinSegments ([.fixed "v1", .fixed segment, .dynamic "id"].map spell) := written
  have path : [.fixed "v1", .fixed segment, .dynamic "id"].map
      (Component.fill fun _ => toString id) = pathOf segment id := by
    simp only [List.map_cons, List.map_nil, Component.fill, pathOf]
    exact congrArg (fun chars => [_, _, chars]) String.toList_ofList
  rw [Api.createDelete, TemplateExecutor.execute, template, filled, path]
  rfl

theorem message_deleteDevice (id : Uuid) :
    (Request.deleteDevice id).message =
      .ok ⟨.delete, String.ofList (joinSegments (pathOf "devices" id)), none⟩ :=
  @createDelete_eq "/v1/devices/{id}" "devices" (Request.deviceParam id) id (by decide)
    (by decide) rfl

theorem message_deleteLabel (label : Uuid × LabelEntity) :
    (Request.deleteLabel label).message =
      .ok ⟨.delete, String.ofList (joinSegments (pathOf "labels" label.1)), none⟩ :=
  @createDelete_eq "/v1/labels/{id}" "labels" (Request.labelParam label) label.1 (by decide)
    (by decide) rfl

/-- No template of a path throws. -/
theorem sendable (request : Request) : ∃ message, request.message = .ok message := by
  cases request with
  | deleteDevice id => exact ⟨_, message_deleteDevice id⟩
  | deleteLabel label => exact ⟨_, message_deleteLabel label⟩
  | _ => exact ⟨_, rfl⟩

theorem findResource_joinSegments {segments : List (List Char)}
    (plain : ∀ segment ∈ segments, '/' ∉ segment) (resources : List Resource) :
    findResource resources (joinSegments segments) =
      resources.findSome? fun resource =>
        (matchSegments resource.pattern segments).map fun bindings => (resource, bindings) := by
  unfold findResource
  simp only [matchPath_joinSegments plain]

theorem withPath_toChars (handler : DatabaseAddr → Tables → Uuid → Tables × HttpResponse)
    (name : String) (id : Uuid) (body : Option Json) :
    withPath formats handler database tables [(name, String.ofList id.toChars)] body =
      handler database tables id := by
  have parsed := formats.parseUuid_toString id
  simp only [withPath]
  rw [show formats.parseUuid (String.ofList id.toChars) = some id from parsed]

theorem call_deleteDevice (id : Uuid) :
    call (routes formats) database tables
        ⟨.delete, String.ofList (joinSegments (pathOf "devices" id)), none⟩ =
      Http.Device.delete formats database tables id := by
  rcases List.exists_cons_of_ne_nil id.toChars_ne_nil with ⟨char, chars, split⟩
  have handled := withPath_toChars formats database tables (Http.Device.delete formats) "id" id none
  rw [call, String.toList_ofList,
    findResource_joinSegments (plain_pathOf (by decide) id), pathOf, split]
  rw [split] at handled
  exact handled

theorem call_deleteLabel (id : Uuid) :
    call (routes formats) database tables
        ⟨.delete, String.ofList (joinSegments (pathOf "labels" id)), none⟩ =
      Http.Label.delete formats database tables id := by
  rcases List.exists_cons_of_ne_nil id.toChars_ne_nil with ⟨char, chars, split⟩
  have handled := withPath_toChars formats database tables (Http.Label.delete formats) "id" id none
  rw [call, String.toList_ofList,
    findResource_joinSegments (plain_pathOf (by decide) id), pathOf, split]
  rw [split] at handled
  exact handled

/-- A new device arrives as it was sent. -/
theorem deserialize_deviceBody (value : NewDevice) :
    NewDevice.deserialize (.object (Request.deviceBody value)) = some value :=
  rfl

/-- A new label arrives as it was sent. -/
theorem deserialize_labelBody (value : NewLabel) :
    NewLabel.deserialize formats (.object (Request.labelBody value)) = some value := by
  have eventKind : ((Request.labelBody value).lookup "event_kind").bind EventKind.deserialize =
      some value.eventKind := EventKind.deserialize_serialize _
  have deviceId : ((Request.labelBody value).lookup "device_id").bind (Uuid.deserialize formats) =
      some value.deviceId := Uuid.deserialize_serialize formats _
  have name : Serde.field (Request.labelBody value) "name" = some value.name := rfl
  have description : Serde.field (Request.labelBody value) "description" =
      some value.description := rfl
  have rule : Serde.field (Request.labelBody value) "rule" = some value.rule :=
    Serde.deserialize_serialize value.rule
  simp [NewLabel.deserialize, recordMembers, eventKind, deviceId, name, description, rule]

theorem call_listEvent :
    call (routes formats) database tables Api.listEvent =
      Http.Event.list formats database tables := by
  have found : findResource (routes formats) "/v1/events".toList = some (_, []) := rfl
  have called : call (routes formats) database tables ⟨.get, "/v1/events", none⟩ =
      plain (Http.Event.list formats) database tables [] none :=
    call_of_found found rfl database tables
  exact called

theorem call_createDevice (value : NewDevice) :
    call (routes formats) database tables (Api.createDevice (.object (Request.deviceBody value))) =
      Http.Device.create formats database tables value := by
  have found : findResource (routes formats) "/v1/devices".toList = some (_, []) := rfl
  have called : call (routes formats) database tables
      ⟨.post, "/v1/devices", some (.object (Request.deviceBody value))⟩ =
        withBody NewDevice.deserialize (Http.Device.create formats) database tables []
          (some (.object (Request.deviceBody value))) := call_of_found found rfl database tables
  rwa [withBody, Option.bind_some, deserialize_deviceBody] at called

theorem call_createLabel (value : NewLabel) :
    call (routes formats) database tables (Api.createLabel (.object (Request.labelBody value))) =
      Http.Label.create formats database tables value := by
  have found : findResource (routes formats) "/v1/labels".toList = some (_, []) := rfl
  have called : call (routes formats) database tables
      ⟨.post, "/v1/labels", some (.object (Request.labelBody value))⟩ =
        withBody (NewLabel.deserialize formats) (Http.Label.create formats) database tables []
          (some (.object (Request.labelBody value))) := call_of_found found rfl database tables
  rwa [withBody, Option.bind_some, deserialize_labelBody] at called

end Routing

/-! ## What a response tells -/

/-- What the page takes a settled call of a request for. -/
inductive Reads (formats : Formats) :
    Request → Except String (Option Json) → Response → Prop
  | fetchDevices {devices : List Device} :
      Reads formats .fetchDevices (.ok (some (document (.array (devices.map Device.serialize)))))
        (.fetchDevices (.ok devices))
  | createDevice {value : NewDevice} {device : Device} {secret : UInt64} :
      Reads formats (.createDevice value)
        (.ok (some (document (Device.serializeNew (device, secret)))))
        (.createDevice (.ok (device, Delivery.compactPfx secret)))
  | deleteDevice {id : Uuid} :
      Reads formats (.deleteDevice id) (.ok none) (.deleteDevice id (.ok ()))
  | fetchLabels {labels : List Label} :
      Reads formats .fetchLabels (.ok (some (document (.array (labels.map Label.serialize)))))
        (.fetchLabels (.ok labels))
  | createLabel {value : NewLabel} {event : Uuid} {label : Label} :
      Reads formats (.createLabel value event) (.ok (some (document label.serialize)))
        (.createLabel value.deviceId event (.ok label))
  | deleteLabel {label : Uuid × LabelEntity} :
      Reads formats (.deleteLabel label) (.ok none) (.deleteLabel label (.ok ()))
  | fetchEvents {events : List (EventRow × List Uuid)} (regular : ∀ row ∈ events, row.1.Regular) :
      Reads formats .fetchEvents
        (.ok (some (document (.array (events.map (EventRow.serializeLabelled formats))))))
        (.fetchEvents (.ok events))
  | thrown {request : Request} {error : String} :
      Reads formats request (.error error) (request.fail error)

theorem document_injective : Function.Injective document := by
  intro left right same
  simpa [document] using same

theorem map_injOn {α β : Type} {compute : α → β} {domain : Set α}
    (injOn : Set.InjOn compute domain) {left right : List α} (inLeft : ∀ entry ∈ left, entry ∈ domain)
    (inRight : ∀ entry ∈ right, entry ∈ domain) (same : left.map compute = right.map compute) :
    left = right := by
  induction left generalizing right with
  | nil => exact (List.map_eq_nil_iff.mp same.symm).symm
  | cons first rest ih =>
      cases right with
      | nil => cases same
      | cons other others =>
          rcases List.forall_mem_cons.mp inLeft with ⟨firstIn, restIn⟩
          rcases List.forall_mem_cons.mp inRight with ⟨otherIn, othersIn⟩
          rcases List.cons.inj same with ⟨heads, tails⟩
          rw [injOn firstIn otherIn heads, ih restIn othersIn tails]

/-- A document of an array is read back from its elements. -/
theorem document_array_injOn {α : Type} {serialize : α → Json} {domain : Set α}
    (injOn : Set.InjOn serialize domain) {left right : List α}
    (inLeft : ∀ entry ∈ left, entry ∈ domain) (inRight : ∀ entry ∈ right, entry ∈ domain)
    (same : (Except.ok (some (document (.array (left.map serialize)))) :
      Except String (Option Json)) = .ok (some (document (.array (right.map serialize))))) :
    left = right := by
  have bodies := document_injective (Option.some.inj (Except.ok.inj same))
  exact map_injOn injOn inLeft inRight (Json.array.inj bodies)

theorem document_array_injective {α : Type} {serialize : α → Json}
    (injective : Function.Injective serialize) {left right : List α}
    (same : (Except.ok (some (document (.array (left.map serialize)))) :
      Except String (Option Json)) = .ok (some (document (.array (right.map serialize))))) :
    left = right := by
  have injOn : Set.InjOn serialize Set.univ := injective.injOn
  exact document_array_injOn injOn (fun entry _ => Set.mem_univ entry)
    (fun entry _ => Set.mem_univ entry) same

/-- A settled call tells one thing only. -/
theorem Reads.unique {formats : Formats} {request : Request}
    {settled other : Except String (Option Json)} {left right : Response}
    (readsLeft : Reads formats request settled left)
    (readsRight : Reads formats request other right) (same : settled = other) : left = right := by
  cases readsLeft with
  | fetchDevices =>
      cases readsRight with
      | fetchDevices => rw [document_array_injective Device.serialize_injective same]
      | thrown => cases same
  | createDevice =>
      cases readsRight with
      | createDevice =>
          rename_i device secret otherDevice otherSecret
          have bodies := document_injective (Option.some.inj (Except.ok.inj same))
          have members := List.append_inj (Json.object.inj bodies) rfl
          have devices := Device.serialize_injective (congrArg Json.object members.1)
          simp only [List.cons.injEq, Prod.mk.injEq, Json.string.injEq, true_and, and_true]
            at members
          exact congrArg Response.createDevice
            (congrArg Except.ok (congrArg₂ Prod.mk devices members.2))
      | thrown => cases same
  | deleteDevice =>
      cases readsRight with
      | deleteDevice => rfl
      | thrown => cases same
  | fetchLabels =>
      cases readsRight with
      | fetchLabels => rw [document_array_injective Label.serialize_injective same]
      | thrown => cases same
  | createLabel =>
      cases readsRight with
      | createLabel =>
          have bodies := document_injective (Option.some.inj (Except.ok.inj same))
          rw [Label.serialize_injective bodies]
      | thrown => cases same
  | deleteLabel =>
      cases readsRight with
      | deleteLabel => rfl
      | thrown => cases same
  | fetchEvents regular =>
      cases readsRight with
      | fetchEvents otherRegular =>
          rw [document_array_injOn (EventRow.serializeLabelled_injOn formats) regular otherRegular
            same]
      | thrown => cases same
  | thrown =>
      cases readsRight with
      | thrown => rw [Except.error.inj same]
      | _ => cases same

/-! ## The tables behind the endpoints -/

theorem integral_execute {tables next : Tables} (integral : tables.Integral)
    {statement : Statement} (executed : statement.execute tables = some next) :
    next.Integral := by
  cases statement with
  | insertDevice device => exact Tables.integral_insertDevice integral executed
  | insertLabel label => exact Tables.integral_insertLabel integral executed
  | insertEvent event => exact Tables.integral_insertEvent integral executed
  | insertEventLabel row => exact Tables.integral_insertEventLabel integral executed
  | deleteDevice id =>
      cases executed
      exact Tables.integral_deleteDevice integral id
  | deleteLabel id =>
      cases executed
      exact Tables.integral_deleteLabel integral id

theorem integral_serve {tables : Tables} (integral : tables.Integral) (generated : Generated)
    (request : Request) : (serve tables generated request).1.Integral := by
  cases request with
  | fetchDevices => exact integral
  | createDevice value =>
      simp only [serve]
      split
      · rename_i created inserted
        rcases Option.bind_eq_some_iff.mp inserted with ⟨device, deviceInserted, credentialInserted⟩
        exact Tables.integral_insertCredential (Tables.integral_insertDevice integral deviceInserted)
          credentialInserted
      · exact integral
  | deleteDevice id => exact Tables.integral_deleteDevice integral id
  | fetchLabels => exact integral
  | createLabel value event =>
      simp only [serve]
      split
      · rename_i created inserted
        exact Tables.integral_insertLabel integral inserted
      · exact integral
  | deleteLabel label => exact Tables.integral_deleteLabel integral label.1
  | fetchEvents => exact integral

/-- A statement adds no event but the one it announces. -/
theorem events_execute {tables next : Tables} {statement : Statement}
    (executed : statement.execute tables = some next) :
    next.events ⊆ tables.events ++ statement.announced := by
  cases statement with
  | insertDevice device =>
      cases (Option.ite_none_left_eq_some.mp executed).2
      exact List.subset_append_left _ _
  | insertLabel label =>
      cases (Option.ite_none_left_eq_some.mp executed).2
      exact List.subset_append_left _ _
  | insertEvent event =>
      cases (Option.ite_none_left_eq_some.mp executed).2
      exact List.Subset.refl _
  | insertEventLabel row =>
      cases (Option.ite_none_left_eq_some.mp executed).2
      exact List.subset_append_left _ _
  | deleteDevice id =>
      cases executed
      exact List.Subset.trans (List.filter_subset_self _) (List.subset_append_left _ _)
  | deleteLabel id =>
      cases executed
      exact List.Subset.trans (List.filter_subset_self _) (List.subset_append_left _ _)

/-- No endpoint adds events. -/
theorem events_serve (tables : Tables) (generated : Generated) (request : Request) :
    (serve tables generated request).1.events ⊆ tables.events := by
  cases request with
  | fetchDevices => exact List.Subset.refl _
  | createDevice value =>
      simp only [serve]
      split
      · rename_i created inserted
        rcases Option.bind_eq_some_iff.mp inserted with ⟨device, deviceInserted, credentialInserted⟩
        cases (Option.ite_none_left_eq_some.mp deviceInserted).2
        cases (Option.ite_none_left_eq_some.mp credentialInserted).2
        exact List.Subset.refl _
      · exact List.Subset.refl _
  | deleteDevice id => exact List.filter_subset_self _
  | fetchLabels => exact List.Subset.refl _
  | createLabel value event =>
      simp only [serve]
      split
      · rename_i created inserted
        cases (Option.ite_none_left_eq_some.mp inserted).2
        exact List.Subset.refl _
      · exact List.Subset.refl _
  | deleteLabel label => exact List.filter_subset_self _
  | fetchEvents => exact List.Subset.refl _

/-! ## The answer -/

/-- The message of an internal error. -/
def internalMessage : String :=
  "Request failed with status code 500"

/-- What the page learns when a message meets the given outcome. -/
def answered (tables : Tables) (served : Tables × Response) (request : Request) :
    Outcome → Tables × Response
  | .handled => served
  | .undelivered _ => (tables, request.fail internalMessage)
  | .failed error => (tables, request.fail (statusMessage error))
  | .unacknowledged error => (served.1, request.fail (statusMessage error))

theorem settle_notFound (body : Option Json) :
    Api.settle ⟨.notFound, body⟩ = .error "Request failed with status code 404" := by
  have text : s!"Request failed with status code {404}" =
      "Request failed with status code 404" := by decide
  exact congrArg Except.error text

theorem settle_internal (body : Option Json) :
    Api.settle ⟨.internalServerError, body⟩ = .error internalMessage := by
  have text : s!"Request failed with status code {500}" = internalMessage := by decide
  exact congrArg Except.error text

theorem settle_ofDbError (formats : Formats) (error : Db.Error) :
    Api.settle (Error.ofDbError formats.display error).response =
      .error (statusMessage error) := by
  cases error with
  | diesel notFound =>
      cases notFound with
      | true => exact settle_notFound _
      | false => exact settle_internal _
  | poolError => exact settle_internal _
  | unexpected msg => exact settle_internal _

theorem settle_ofMailboxError (formats : Formats) (error : MailboxError) :
    Api.settle (Error.ofMailboxError formats.displayMailbox error).response =
      .error internalMessage :=
  settle_internal _

section Respond

variable {formats : Formats} {database : DatabaseAddr} {tables : Tables} {request : Request}

/-- An error of the database is thrown by its status code. -/
theorem reads_error {α : Type} (success : α → HttpResponse) (error : Db.Error) :
    Reads formats request (Api.settle (render formats success (.ok (.error error))))
      (request.fail (statusMessage error)) := by
  have settled : Api.settle (render formats success (.ok (.error error))) =
      .error (statusMessage error) := settle_ofDbError formats error
  rw [settled]
  exact .thrown

/-- If the handled message has the effect and the answer of the backend, then so
has the response, whatever becomes of the message. -/
theorem reads_respond {α : Type} {query : Query α} {success : α → HttpResponse}
    {served : Tables × Response}
    (effect : (query.handle database.id database.credentialId database.secret tables).1 = served.1)
    (reads : Reads formats request
      (Api.settle (render formats success
        (query.handle database.id database.credentialId database.secret tables).2)) served.2) :
    (respond formats database tables query success).1 =
        (answered tables served request database.outcome).1 ∧
      Reads formats request
        (Api.settle (respond formats database tables query success).2)
        (answered tables served request database.outcome).2 := by
  rw [respond, DatabaseAddr.send]
  cases database.outcome with
  | handled => exact ⟨effect, reads⟩
  | undelivered error =>
      refine ⟨rfl, ?_⟩
      change Reads formats request
        (Api.settle (Error.ofMailboxError formats.displayMailbox error).response) _
      rw [settle_ofMailboxError]
      exact .thrown
  | failed error => exact ⟨rfl, reads_error success error⟩
  | unacknowledged error => exact ⟨effect, reads_error success error⟩

/-- The answer to a deletion. -/
theorem reads_deleteReply (count : Nat) {respond : Except String Unit → Response}
    (succeeds : Reads formats request (.ok none) (respond (.ok ())))
    (fails : ∀ error, respond (.error error) = request.fail error) :
    Reads formats request
      (Api.settle (render formats (fun _ : Unit => .finish) (.ok (Database.deleteReply count))))
      (respond ((Database.deleteReply count).mapError statusMessage)) := by
  cases answer : Database.deleteReply count with
  | ok value => exact succeeds
  | error error =>
      rw [Except.mapError, fails]
      exact reads_error _ error

end Respond

/-- What an insert generates. -/
def generatedBy (database : DatabaseAddr) : Generated where
  id := database.id
  credentialId := database.credentialId
  secret := database.secret

/-- Every request reaches its handler, which does what the backend is meant to do
and tells it to the page. -/
theorem exchange (formats : Formats) (database : DatabaseAddr) {tables : Tables}
    (integral : tables.Integral) (regular : ∀ event ∈ tables.events, event.Regular)
    (request : Request) :
    ∃ message, request.message = .ok message ∧
      (call (routes formats) database tables message).1 =
        (answered tables (serve tables (generatedBy database) request) request
          database.outcome).1 ∧
      Reads formats request (Api.settle (call (routes formats) database tables message).2)
        (answered tables (serve tables (generatedBy database) request) request
          database.outcome).2 := by
  cases request with
  | fetchDevices => exact ⟨_, rfl, reads_respond rfl .fetchDevices⟩
  | createDevice value =>
      refine ⟨_, rfl, ?_⟩
      rw [call_createDevice]
      apply reads_respond
      · simp only [Query.handle, serve, generatedBy]
        cases inserted : (tables.insertDevice ⟨database.id, value.name, value.description⟩).bind
          fun created => created.insertCredential
            ⟨database.credentialId, toBeBytes database.secret, database.id⟩ with
        | none => rfl
        | some created => rfl
      · simp only [Query.handle, serve, generatedBy]
        cases inserted : (tables.insertDevice ⟨database.id, value.name, value.description⟩).bind
          fun created => created.insertCredential
            ⟨database.credentialId, toBeBytes database.secret, database.id⟩ with
        | none => exact reads_error _ _
        | some created => exact .createDevice
  | deleteDevice id =>
      refine ⟨_, message_deleteDevice id, ?_⟩
      rw [call_deleteDevice]
      apply reads_respond
      · rfl
      · exact reads_deleteReply _ .deleteDevice fun _ => rfl
  | fetchLabels => exact ⟨_, rfl, reads_respond rfl .fetchLabels⟩
  | createLabel value event =>
      refine ⟨_, rfl, ?_⟩
      rw [call_createLabel]
      apply reads_respond
      · simp only [Query.handle, serve, generatedBy]
        cases inserted : tables.insertLabel
          ⟨database.id, value.eventKind, value.name, value.description, value.rule,
            value.deviceId⟩ with
        | none => rfl
        | some created => rfl
      · simp only [Query.handle, serve, generatedBy]
        cases inserted : tables.insertLabel
          ⟨database.id, value.eventKind, value.name, value.description, value.rule,
            value.deviceId⟩ with
        | none => exact reads_error _ _
        | some created => exact .createLabel
  | deleteLabel label =>
      refine ⟨_, message_deleteLabel label, ?_⟩
      rw [call_deleteLabel]
      apply reads_respond
      · rfl
      · exact reads_deleteReply _ .deleteLabel fun _ => rfl
  | fetchEvents =>
      have listed := Tables.listEvents_eq integral tables
      have rows : (tables.events.map fun event => (event, tables.labelsOf event.id)).map
          (Http.Event.eventRes formats) =
            (tables.events.map fun event =>
              (event, (tables.labelsOf event.id).map Label.id)).map
                (EventRow.serializeLabelled formats) := by
        rw [List.map_map, List.map_map]
        rfl
      refine ⟨_, rfl, ?_⟩
      rw [call_listEvent]
      apply reads_respond
      · simp only [Query.handle, listed, serve]
      · simp only [Query.handle, listed, serve, render, Error.await, rows]
        apply Reads.fetchEvents
        intro row present
        rcases List.mem_map.mp present with ⟨event, listedEvent, rfl⟩
        exact regular event listedEvent

end Bug.Frontend
