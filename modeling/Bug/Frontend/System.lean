import Bug.Delivery.Secret
import Bug.Frontend.Store

/-!
# A page and the backend

Every dispatched action that needs the backend marks its request as pending and
sends it.  The backend handles the requests in any order, a request or its
response may get lost, and the responses arrive in any order.  When a response
arrives, its saga puts all of its actions.  Meanwhile other clients change the
database, and the events of the devices are announced over the websocket.
-/

namespace Bug.Frontend

open Bug.Db
open Bug.Transition

inductive Request where
  | fetchDevices
  | createDevice (value : NewDevice)
  | deleteDevice (id : Uuid)
  | fetchLabels
  /-- A label of an event's device. -/
  | createLabel (value : NewLabel) (event : Uuid)
  | deleteLabel (label : Uuid × LabelEntity)
  | fetchEvents

/-- What a saga resumes with: the result of its request, and what it remembers of
the action. -/
inductive Response where
  | fetchDevices (result : Except String (List Device))
  | createDevice (result : Except String (Device × String))
  | deleteDevice (id : Uuid) (result : Except String Unit)
  | fetchLabels (result : Except String (List Label))
  | createLabel (device event : Uuid) (result : Except String Label)
  | deleteLabel (label : Uuid × LabelEntity) (result : Except String Unit)
  | fetchEvents (result : Except String (List (EventRow × List Uuid)))

namespace Request

/-- The response to a request that threw. -/
def fail (error : String) : Request → Response
  | fetchDevices => .fetchDevices (.error error)
  | createDevice _ => .createDevice (.error error)
  | deleteDevice id => .deleteDevice id (.error error)
  | fetchLabels => .fetchLabels (.error error)
  | createLabel value event => .createLabel value.deviceId event (.error error)
  | deleteLabel label => .deleteLabel label (.error error)
  | fetchEvents => .fetchEvents (.error error)

end Request

namespace Response

/-- The response is lost on its way. -/
def lose (error : String) : Response → Response
  | fetchDevices _ => .fetchDevices (.error error)
  | createDevice _ => .createDevice (.error error)
  | deleteDevice id _ => .deleteDevice id (.error error)
  | fetchLabels _ => .fetchLabels (.error error)
  | createLabel device event _ => .createLabel device event (.error error)
  | deleteLabel label _ => .deleteLabel label (.error error)
  | fetchEvents _ => .fetchEvents (.error error)

end Response

/-! ## The page -/

namespace Store

/-- A label is deleted as the store has it, and created for an event of the
store. -/
def Dispatchable (store : Store) : Request → Prop
  | .deleteLabel label => store.label.entities.lookup label.1 = some label.2
  | .createLabel value event =>
      (store.event.entities.lookup event).map (fun entity => (entity.kind, entity.device)) =
        some (value.eventKind, value.deviceId)
  | .fetchDevices => True
  | .createDevice _ => True
  | .deleteDevice _ => True
  | .fetchLabels => True
  | .fetchEvents => True

instance (store : Store) (request : Request) : Decidable (store.Dispatchable request) :=
  match request with
  | .deleteLabel _ => inferInstanceAs (Decidable (_ = _))
  | .createLabel _ _ => inferInstanceAs (Decidable (_ = _))
  | .fetchDevices => .isTrue trivial
  | .createDevice _ => .isTrue trivial
  | .deleteDevice _ => .isTrue trivial
  | .fetchLabels => .isTrue trivial
  | .fetchEvents => .isTrue trivial

/-- The reducer of the dispatched action itself. -/
def dispatch (store : Store) : Request → Store
  | .fetchDevices => { store with device := store.device.fetchStart }
  | .createDevice _ => { store with device := store.device.createStart }
  | .deleteDevice _ => { store with device := store.device.deleteStart }
  | .fetchLabels => { store with label := store.label.fetchStart }
  | .createLabel _ _ => { store with label := store.label.createStart }
  | .deleteLabel _ => { store with label := store.label.deleteStart }
  | .fetchEvents => { store with event := store.event.fetchStart }

theorem entities_dispatch (store : Store) (request : Request) :
    (store.dispatch request).device.entities = store.device.entities ∧
      (store.dispatch request).label.entities = store.label.entities ∧
      (store.dispatch request).event.entities = store.event.entities := by
  cases request with
  | fetchDevices => exact ⟨rfl, rfl, rfl⟩
  | createDevice value => exact ⟨rfl, rfl, rfl⟩
  | deleteDevice id => exact ⟨rfl, rfl, rfl⟩
  | fetchLabels => exact ⟨rfl, rfl, rfl⟩
  | createLabel value event => exact ⟨rfl, rfl, rfl⟩
  | deleteLabel label => exact ⟨rfl, rfl, rfl⟩
  | fetchEvents => exact ⟨rfl, rfl, rfl⟩

/-- What the saga of a response puts. -/
def receive (store : Store) : Response → Store
  | .fetchDevices result => store.fetchDevices result
  | .createDevice result => store.createDevice result
  | .deleteDevice id result => store.deleteDevice id result
  | .fetchLabels result => store.fetchLabels result
  | .createLabel device event result => store.createLabel device event result
  | .deleteLabel label result => store.deleteLabel label result
  | .fetchEvents result => store.fetchEvents result

end Store

/-! ## The backend -/

/-- The message of the error thrown for a response that is not successful. -/
def statusMessage : Db.Error → String
  | .diesel true => "Request failed with status code 404"
  | .diesel false => "Request failed with status code 500"
  | .poolError => "Request failed with status code 500"
  | .unexpected _ => "Request failed with status code 500"

/-- What the backend generates for a row it inserts. -/
structure Generated where
  id : Uuid
  credentialId : Uuid
  secret : UInt64

/-- The endpoint of a request. -/
def serve (tables : Tables) (generated : Generated) : Request → Tables × Response
  | .fetchDevices => (tables, .fetchDevices (.ok tables.devices))
  | .createDevice value =>
      let device : Device := ⟨generated.id, value.name, value.description⟩
      let credential : DeviceCredential :=
        ⟨generated.credentialId, toBeBytes generated.secret, device.id⟩
      match (tables.insertDevice device).bind fun inserted =>
          inserted.insertCredential credential with
      | some created =>
          (created, .createDevice (.ok (device, Delivery.compactPfx generated.secret)))
      | none => (tables, .createDevice (.error (statusMessage (.diesel false))))
  | .deleteDevice id =>
      (tables.deleteDevice id,
        .deleteDevice id ((Database.deleteReply (tables.countDevices id)).mapError statusMessage))
  | .fetchLabels => (tables, .fetchLabels (.ok tables.labels))
  | .createLabel value event =>
      let label : Label :=
        ⟨generated.id, value.eventKind, value.name, value.description, value.rule, value.deviceId⟩
      match tables.insertLabel label with
      | some created => (created, .createLabel value.deviceId event (.ok label))
      | none =>
          (tables, .createLabel value.deviceId event (.error (statusMessage (.diesel false))))
  | .deleteLabel label =>
      (tables.deleteLabel label.1,
        .deleteLabel label
          ((Database.deleteReply (tables.countLabels label.1)).mapError statusMessage))
  | .fetchEvents =>
      (tables, .fetchEvents (.ok (tables.events.map fun event =>
        (event, (tables.labelsOf event.id).map Label.id))))

/-- A statement of another client. -/
inductive Statement where
  | insertDevice (device : Device)
  | insertLabel (label : Label)
  | insertEvent (event : EventRow)
  | insertEventLabel (row : EventLabel)
  | deleteDevice (id : Uuid)
  | deleteLabel (id : Uuid)

namespace Statement

def execute (tables : Tables) : Statement → Option Tables
  | insertDevice device => tables.insertDevice device
  | insertLabel label => tables.insertLabel label
  | insertEvent event => tables.insertEvent event
  | insertEventLabel row => tables.insertEventLabel row
  | deleteDevice id => some (tables.deleteDevice id)
  | deleteLabel id => some (tables.deleteLabel id)

/-- The events that the event processor announces once they are inserted. -/
def announced : Statement → List EventRow
  | insertEvent event => [event]
  | insertDevice _ => []
  | insertLabel _ => []
  | insertEventLabel _ => []
  | deleteDevice _ => []
  | deleteLabel _ => []

end Statement

/-! ## Their keys -/

theorem keyed_execute {tables next : Tables} (keyed : tables.Keyed) {statement : Statement}
    (executed : statement.execute tables = some next) : next.Keyed := by
  cases statement with
  | insertDevice device => exact Tables.keyed_insertDevice keyed executed
  | insertLabel label => exact Tables.keyed_insertLabel keyed executed
  | insertEvent event => exact Tables.keyed_insertEvent keyed executed
  | insertEventLabel row => exact Tables.keyed_insertEventLabel keyed executed
  | deleteDevice id =>
      cases executed
      exact Tables.keyed_deleteDevice keyed id
  | deleteLabel id =>
      cases executed
      exact Tables.keyed_deleteLabel keyed id

theorem keyed_serve {tables : Tables} (keyed : tables.Keyed) (generated : Generated)
    (request : Request) : (serve tables generated request).1.Keyed := by
  cases request with
  | fetchDevices => exact keyed
  | createDevice value =>
      simp only [serve]
      split
      · rename_i created inserted
        rcases Option.bind_eq_some_iff.mp inserted with ⟨device, deviceInserted, credentialInserted⟩
        exact Tables.keyed_insertCredential (Tables.keyed_insertDevice keyed deviceInserted)
          credentialInserted
      · exact keyed
  | deleteDevice id => exact Tables.keyed_deleteDevice keyed id
  | fetchLabels => exact keyed
  | createLabel value event =>
      simp only [serve]
      split
      · rename_i created inserted
        exact Tables.keyed_insertLabel keyed inserted
      · exact keyed
  | deleteLabel label => exact Tables.keyed_deleteLabel keyed label.1
  | fetchEvents => exact keyed

/-! ## Their runs -/

structure World where
  store : Store
  tables : Tables
  /-- The requests on their way to the backend. -/
  requests : List Request
  /-- The responses on their way to the page. -/
  responses : List Response
  announced : List EventRow
  /-- Every label there ever was. -/
  issued : List Label

namespace World

def initial (today : Int) : World where
  store := .initial today
  tables := .empty
  requests := []
  responses := []
  announced := []
  issued := []

/-- No label has the generated key of an earlier one. -/
def Unused (world : World) (tables : Tables) : Prop :=
  ∀ label ∈ tables.labels, label.id ∈ world.issued.map Label.id → label ∈ world.issued

instance (world : World) (tables : Tables) : Decidable (world.Unused tables) :=
  inferInstanceAs (Decidable (∀ label ∈ tables.labels, _ → _))

/-- The database changes. -/
def settle (world : World) (tables : Tables) : Option World :=
  if world.Unused tables then
    some { world with tables := tables, issued := world.issued ++ tables.labels }
  else
    none

inductive Action where
  | dispatch (request : Request)
  /-- The backend handles a request. -/
  | serve (index : Nat) (generated : Generated)
  /-- A request fails without any effect. -/
  | fail (index : Nat) (error : String)
  /-- A response is lost. -/
  | lose (index : Nat) (error : String)
  | receive (index : Nat)
  /-- An announced event arrives. -/
  | announce (index : Nat)
  | execute (statement : Statement)

def step : LabelledStep World Action
  | world, .dispatch request =>
      if world.store.Dispatchable request then
        some { world with
          store := world.store.dispatch request
          requests := world.requests ++ [request] }
      else
        none
  | world, .serve index generated =>
      match world.requests[index]? with
      | some request =>
          let served := Frontend.serve world.tables generated request
          World.settle
            { world with
              requests := world.requests.eraseIdx index
              responses := world.responses ++ [served.2] }
            served.1
      | none => none
  | world, .fail index error =>
      match world.requests[index]? with
      | some request =>
          some { world with
            requests := world.requests.eraseIdx index
            responses := world.responses ++ [request.fail error] }
      | none => none
  | world, .lose index error =>
      match world.responses[index]? with
      | some response =>
          some { world with responses := world.responses.set index (response.lose error) }
      | none => none
  | world, .receive index =>
      match world.responses[index]? with
      | some response =>
          some { world with
            store := world.store.receive response
            responses := world.responses.eraseIdx index }
      | none => none
  | world, .announce index =>
      match world.announced[index]? with
      | some event => some { world with store := world.store.subscribeNewEvent event }
      | none => none
  | world, .execute statement =>
      (statement.execute world.tables).bind fun tables =>
        World.settle { world with announced := world.announced ++ statement.announced } tables

/-- What a page and the backend can reach. -/
def Reachable (today : Int) (world : World) : Prop :=
  ∃ actions, follow step (initial today) actions = some world

/-! ## Everything a step can do -/

inductive Transition (world : World) : Action → World → Prop
  | dispatched {request : Request} : world.store.Dispatchable request →
      Transition world (.dispatch request)
        { world with
          store := world.store.dispatch request
          requests := world.requests ++ [request] }
  | served {index : Nat} {generated : Generated} {request : Request} :
      world.requests[index]? = some request →
      world.Unused (Frontend.serve world.tables generated request).1 →
      Transition world (.serve index generated)
        { world with
          tables := (Frontend.serve world.tables generated request).1
          requests := world.requests.eraseIdx index
          responses := world.responses ++ [(Frontend.serve world.tables generated request).2]
          issued := world.issued ++ (Frontend.serve world.tables generated request).1.labels }
  | failed {index : Nat} {error : String} {request : Request} :
      world.requests[index]? = some request →
      Transition world (.fail index error)
        { world with
          requests := world.requests.eraseIdx index
          responses := world.responses ++ [request.fail error] }
  | lost {index : Nat} {error : String} {response : Response} :
      world.responses[index]? = some response →
      Transition world (.lose index error)
        { world with responses := world.responses.set index (response.lose error) }
  | received {index : Nat} {response : Response} :
      world.responses[index]? = some response →
      Transition world (.receive index)
        { world with
          store := world.store.receive response
          responses := world.responses.eraseIdx index }
  | announced {index : Nat} {event : EventRow} :
      world.announced[index]? = some event →
      Transition world (.announce index)
        { world with store := world.store.subscribeNewEvent event }
  | executed {statement : Statement} {tables : Tables} :
      statement.execute world.tables = some tables → world.Unused tables →
      Transition world (.execute statement)
        { world with
          tables := tables
          announced := world.announced ++ statement.announced
          issued := world.issued ++ tables.labels }

theorem eq_of_settle {world : World} {tables : Tables} {next : World}
    (settled : world.settle tables = some next) :
    world.Unused tables ∧
      next = { world with tables := tables, issued := world.issued ++ tables.labels } := by
  unfold settle at settled
  split at settled
  · rename_i unused
    exact ⟨unused, (Option.some.inj settled).symm⟩
  · cases settled

theorem transition_of_step {world : World} {action : Action} {next : World}
    (stepped : step world action = some next) : Transition world action next := by
  cases action with
  | dispatch request =>
      simp only [step] at stepped
      split at stepped
      · rename_i dispatchable
        cases stepped
        exact .dispatched dispatchable
      · cases stepped
  | serve index generated =>
      simp only [step] at stepped
      split at stepped
      · rename_i request found
        rcases eq_of_settle stepped with ⟨unused, rfl⟩
        exact .served found unused
      · cases stepped
  | fail index error =>
      simp only [step] at stepped
      split at stepped
      · rename_i request found
        cases stepped
        exact .failed found
      · cases stepped
  | lose index error =>
      simp only [step] at stepped
      split at stepped
      · rename_i response found
        cases stepped
        exact .lost found
      · cases stepped
  | receive index =>
      simp only [step] at stepped
      split at stepped
      · rename_i response found
        cases stepped
        exact .received found
      · cases stepped
  | announce index =>
      simp only [step] at stepped
      split at stepped
      · rename_i event found
        cases stepped
        exact .announced found
      · cases stepped
  | execute statement =>
      rcases Option.bind_eq_some_iff.mp stepped with ⟨tables, executed, settled⟩
      rcases eq_of_settle settled with ⟨unused, rfl⟩
      exact .executed executed unused

/-- A property of the initial world that every step preserves holds of every
world that can be reached. -/
theorem invariant_of_reachable {invariant : World → Prop} {today : Int}
    (init : invariant (initial today))
    (preserved : ∀ world action next, invariant world → Transition world action next →
      invariant next)
    {world : World} (reachable : Reachable today world) : invariant world := by
  rcases reachable with ⟨actions, reached⟩
  apply follow_preserves _ init reached
  intro state action next holds stepped
  exact preserved state action next holds (transition_of_step stepped)

theorem keyed_transition {world next : World} {action : Action} (keyed : world.tables.Keyed)
    (transition : Transition world action next) : next.tables.Keyed := by
  cases transition with
  | dispatched dispatchable => exact keyed
  | served found unused => exact keyed_serve keyed _ _
  | failed found => exact keyed
  | lost found => exact keyed
  | received found => exact keyed
  | announced found => exact keyed
  | executed executed unused => exact keyed_execute keyed executed

theorem keyed_of_reachable {today : Int} {world : World} (reachable : Reachable today world) :
    world.tables.Keyed := by
  apply invariant_of_reachable _ _ reachable
  · exact Tables.keyed_empty
  · intro state action next keyed transition
    exact keyed_transition keyed transition

/-- The labels of the database are among those there ever were. -/
theorem issued_of_reachable {today : Int} {world : World} (reachable : Reachable today world) :
    world.tables.labels ⊆ world.issued := by
  refine @invariant_of_reachable (fun world => world.tables.labels ⊆ world.issued) today ?_ ?_
    world reachable
  · exact List.nil_subset _
  · intro state action next included transition
    cases transition with
    | dispatched dispatchable => exact included
    | served found unused => exact List.subset_append_right _ _
    | failed found => exact included
    | lost found => exact included
    | received found => exact included
    | announced found => exact included
    | executed executed unused => exact List.subset_append_right _ _

/-- A request that nothing comes between. -/
theorem follow_roundTrip {world : World} {request : Request} {generated : Generated}
    (dispatchable : world.store.Dispatchable request)
    (unused : world.Unused (Frontend.serve world.tables generated request).1) :
    ∃ next,
      follow step world
        [.dispatch request, .serve world.requests.length generated,
          .receive world.responses.length] = some next ∧
      next.store = (world.store.dispatch request).receive
        (Frontend.serve world.tables generated request).2 ∧
      next.tables = (Frontend.serve world.tables generated request).1 := by
  let sent : World :=
    { world with
      store := world.store.dispatch request
      requests := world.requests ++ [request] }
  let answered : World :=
    { sent with
      tables := (Frontend.serve world.tables generated request).1
      requests := sent.requests.eraseIdx world.requests.length
      responses := world.responses ++ [(Frontend.serve world.tables generated request).2]
      issued := world.issued ++ (Frontend.serve world.tables generated request).1.labels }
  let final : World :=
    { answered with
      store := sent.store.receive (Frontend.serve world.tables generated request).2
      responses := answered.responses.eraseIdx world.responses.length }
  have dispatching : step world (.dispatch request) = some sent := by
    rw [step, if_pos dispatchable]
  have serving : step sent (.serve world.requests.length generated) = some answered := by
    have found : sent.requests[world.requests.length]? = some request :=
      List.getElem?_concat_length
    simp only [step, found]
    exact if_pos unused
  have receiving : step answered (.receive world.responses.length) = some final := by
    have found : answered.responses[world.responses.length]? =
        some (Frontend.serve world.tables generated request).2 := List.getElem?_concat_length
    simp only [step, found]
    rfl
  refine ⟨final, ?_, rfl, rfl⟩
  rw [follow, dispatching, Option.bind_some, follow, serving, Option.bind_some, follow, receiving,
    Option.bind_some, follow]

end World

end Bug.Frontend
