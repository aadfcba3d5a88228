import Bug.Event.Backend
import Bug.Frontend.Wire

/-!
# A page in front of the whole backend

The backend takes events from its connections and from the recordings, stores them
and tells its websocket sessions.  A page lists what is stored over HTTP, and hears
over a session of its own what is stored later.  Whatever it shows was reported.
-/

namespace Bug.Frontend

open Bug.Db
open Bug.Encoding
open Bug.Http
open Bug.Transition

structure Site where
  backend : Backend
  store : Store
  /-- The messages on their way to the server, and the requests they were made for. -/
  requests : List (Request × HttpRequest)
  /-- The replies on their way to the sagas. -/
  responses : List (Request × Reply)
  /-- The session of the page, once its websocket is connected. -/
  session : Option Nat
  /-- The number of texts that the page has heard. -/
  heard : Nat

namespace Site

def tables (site : Site) : Tables :=
  site.backend.processor.database.committed

def log (site : Site) : List Happening :=
  site.backend.processor.log

def initial (workers : Nat) (today : Int) : Site where
  backend := .new workers
  store := .initial today
  requests := []
  responses := []
  session := none
  heard := 0

/-- The events that a session was sent. -/
def sentTo (log : List Happening) (session : Nat) : List EventRow :=
  log.filterMap fun
    | .sent own _ event => if own = session then some event else none
    | .inserted _ _ => none
    | .registered _ => none
    | .broadcast _ _ => none

/-- The statements of a message to the database actor. -/
def Statements (actions : List Backend.Action) : Prop :=
  ∀ action ∈ actions, ∃ statement, action = .process (.database statement)

inductive Step (formats : Formats) (site : Site) : Site → Prop
  /-- A connection, the audio server, the processor or another client. -/
  | backend {action : Backend.Action} {backend : Backend} :
      Backend.step site.backend action = some backend →
      Step formats site { site with backend := backend }
  /-- The websocket of the page is connected. -/
  | connect {backend : Backend} :
      site.session = none → Backend.step site.backend (.process .register) = some backend →
      Step formats site
        { site with
          backend := backend
          session := some site.backend.processor.sessions.length }
  | dispatch {request : Request} {message : HttpRequest} :
      site.store.Dispatchable request → request.message = .ok message →
      Step formats site
        { site with
          store := site.store.dispatch request
          requests := site.requests ++ [(request, message)] }
  /-- The call throws before it sends anything. -/
  | unsendable {request : Request} {error : String} :
      site.store.Dispatchable request → request.message = .error error →
      Step formats site
        { site with
          store := site.store.dispatch request
          responses := site.responses ++ [(request, .error error)] }
  /-- The server handles a message. -/
  | serve {index : Nat} {request : Request} {message : HttpRequest} {database : DatabaseAddr}
      {actions : List Backend.Action} {backend : Backend} :
      site.requests[index]? = some (request, message) → Statements actions →
      follow Backend.step site.backend actions = some backend →
      backend.processor.database.committed =
        (call (routes formats) database site.tables message).1 →
      Step formats site
        { site with
          backend := backend
          requests := site.requests.eraseIdx index
          responses := site.responses ++
            [(request, .ok (call (routes formats) database site.tables message).2)] }
  /-- A message does not get to the server. -/
  | fail {index : Nat} {request : Request} {message : HttpRequest} {error : String} :
      site.requests[index]? = some (request, message) →
      Step formats site
        { site with
          requests := site.requests.eraseIdx index
          responses := site.responses ++ [(request, .error error)] }
  /-- A response is lost. -/
  | lose {index : Nat} {request : Request} {reply : Reply} {error : String} :
      site.responses[index]? = some (request, reply) →
      Step formats site
        { site with responses := site.responses.set index (request, .error error) }
  | receive {index : Nat} {answer : Request × Reply} {response : Response} :
      site.responses[index]? = some answer → Wire.Resumes formats answer response →
      Step formats site
        { site with
          store := site.store.receive response
          responses := site.responses.eraseIdx index }
  /-- The next text of the page's session arrives. -/
  | hear {session : Nat} {row event : EventRow} :
      site.session = some session → (sentTo site.log session)[site.heard]? = some row →
      Wire.Hears formats (row.serialize formats) event →
      Step formats site
        { site with
          store := site.store.subscribeNewEvent event
          heard := site.heard + 1 }
  /-- The text arrives before the saga listens to the channel. -/
  | miss {session : Nat} {row : EventRow} :
      site.session = some session → (sentTo site.log session)[site.heard]? = some row →
      Step formats site { site with heard := site.heard + 1 }

end Site

/-! ## What the page knows of an event -/

section Told

variable {log : List Happening}

/-- The event was inserted. -/
def Stored (log : List Happening) (row : EventRow) : Prop :=
  ∃ index, .inserted index row ∈ log

/-- Somebody told the page of the event, which was inserted as it is shown. -/
def Told (log : List Happening) (id : Uuid) (entity : EventEntity) : Prop :=
  ∃ row, Stored log row ∧ row.id = id ∧ entity.setLabels (.array []) = .ofRow row []

theorem Stored.mono {later : List Happening} (grown : log ⊆ later) {row : EventRow}
    (stored : Stored log row) : Stored later row := by
  rcases stored with ⟨index, inserted⟩
  exact ⟨index, grown inserted⟩

theorem told_ofRow {row : EventRow} (stored : Stored log row) (labels : List Uuid) :
    Told log row.id (.ofRow row labels) :=
  ⟨row, stored, rfl, rfl⟩

/-- The labels of an event may change. -/
theorem Told.setLabels {id : Uuid} {entity : EventEntity} (told : Told log id entity)
    (labels : EventLabels) : Told log id (entity.setLabels labels) :=
  told

/-- Every event in the store was told. -/
def AllTold (log : List Happening) (store : Store) : Prop :=
  ∀ id entity, store.event.entities.lookup id = some entity → Told log id entity

theorem AllTold.mono {later : List Happening} (grown : log ⊆ later) {store : Store}
    (told : AllTold log store) : AllTold later store := by
  intro id entity found
  rcases told id entity found with ⟨row, stored, same, shown⟩
  exact ⟨row, stored.mono grown, same, shown⟩

theorem AllTold.dispatch {store : Store} (told : AllTold log store) (request : Request) :
    AllTold log (store.dispatch request) := by
  rw [AllTold, (Store.entities_dispatch store request).2.2]
  exact told

theorem allTold_subscribeNewEvent {store : Store} (told : AllTold log store) {row : EventRow}
    (stored : Stored log row) : AllTold log (store.subscribeNewEvent row) :=
  Entities.forall_addOne told (told_ofRow stored [])

theorem exists_of_mem_mapM {α β : Type} {compute : α → Option β} {items : List α}
    {results : List β} (computed : items.mapM compute = some results) :
    ∀ result ∈ results, ∃ item ∈ items, compute item = some result := by
  induction items generalizing results with
  | nil =>
      cases computed
      exact fun result present => absurd present List.not_mem_nil
  | cons item items inductionHypothesis =>
      rw [List.mapM_cons] at computed
      rcases Option.bind_eq_some_iff.mp computed with ⟨first, firstComputed, rest⟩
      rcases Option.bind_eq_some_iff.mp rest with ⟨others, othersComputed, same⟩
      cases same
      intro result present
      rcases List.mem_cons.mp present with rfl | later
      · exact ⟨item, List.mem_cons_self, firstComputed⟩
      · rcases inductionHypothesis othersComputed result later with ⟨source, among, found⟩
        exact ⟨source, List.mem_cons_of_mem _ among, found⟩

/-- Labelling an event leaves the rest of it. -/
theorem allTold_addEventsLabels {slice labelled : EventSlice} {payload : LabelGroups}
    (told : ∀ id entity, slice.entities.lookup id = some entity → Told log id entity)
    (added : slice.addEventsLabels payload = some labelled) :
    ∀ id entity, labelled.entities.lookup id = some entity → Told log id entity := by
  rcases Option.map_eq_some_iff.mp added with ⟨updates, listed, rfl⟩
  apply Entities.forall_replaceMany told
  intro update present entity toldEntity
  rcases exists_of_mem_mapM listed update present with ⟨group, -, grouped⟩
  rcases Option.map_eq_some_iff.mp grouped with ⟨labels, -, rfl⟩
  exact toldEntity.setLabels _

theorem allTold_receive {store : Store} (told : AllTold log store) (response : Response)
    (stored : ∀ rows, response = .fetchEvents (.ok rows) → ∀ row ∈ rows, Stored log row.1) :
    AllTold log (store.receive response) := by
  cases response with
  | fetchDevices result => cases result <;> exact told
  | createDevice result => cases result <;> exact told
  | deleteDevice id result => cases result <;> exact told
  | fetchLabels result => cases result <;> exact told
  | createLabel device event result =>
      cases result with
      | error error => exact told
      | ok row =>
          simp only [Store.receive, Store.createLabel]
          split
          · rename_i events added
            exact allTold_addEventsLabels told added
          · exact told
  | deleteLabel label result => cases result <;> exact told
  | fetchEvents result =>
      cases result with
      | error error => exact told
      | ok rows =>
          apply Entities.forall_addMany told
          rintro ⟨id, entity⟩ present
          have normalized : ∀ id entity, (normalizeEvents rows).lookup id = some entity →
              Told log id entity := by
            apply Entities.forall_ofList
            intro entry listed
            rcases List.mem_map.mp listed with ⟨row, among, rfl⟩
            exact told_ofRow (stored rows rfl row among) row.2
          exact normalized id entity (Entities.mem_entries_iff.mp present)

end Told

/-! ## What a reply tells of the events -/

theorem mem_of_listEvents {first second : Tables} {listed : List (EventRow × List Label)}
    (found : first.listEvents second = some listed) : ∀ entry ∈ listed, entry.1 ∈ first.events := by
  rcases Option.map_eq_some_iff.mp found with ⟨groups, -, rfl⟩
  intro entry present
  rcases List.mem_map.mp present with ⟨⟨labels, event⟩, zipped, rfl⟩
  exact (List.of_mem_zip zipped).2

/-- Only a listing tells of events. -/
theorem eq_of_reads_fetchEvents {formats : Formats} {request : Request}
    {settled : Except String (Option Json)} {response : Response}
    {rows : List (EventRow × List Uuid)} (reads : Reads formats request settled response)
    (listing : response = .fetchEvents (.ok rows)) :
    request = .fetchEvents ∧ (∀ row ∈ rows, row.1.Regular) ∧
      settled =
        .ok (some (document (.array (rows.map (EventRow.serializeLabelled formats))))) := by
  cases reads with
  | fetchEvents regular =>
      cases listing
      exact ⟨rfl, regular, rfl⟩
  | thrown => cases request <;> cases listing
  | fetchDevices => cases listing
  | createDevice => cases listing
  | deleteDevice => cases listing
  | fetchLabels => cases listing
  | createLabel => cases listing
  | deleteLabel => cases listing

/-- What the listing of the events is answered with. -/
theorem settle_listEvents (formats : Formats) (database : DatabaseAddr) (tables : Tables)
    {body : Option Json}
    (settled : Api.settle (Http.Event.list formats database tables).2 = .ok body) :
    ∃ listed, tables.listEvents tables = some listed ∧
      body = some (document (.array (listed.map (Http.Event.eventRes formats)))) := by
  rw [Http.Event.list, respond, DatabaseAddr.send] at settled
  cases outcome : database.outcome with
  | handled =>
      simp only [outcome, Query.handle] at settled
      cases found : tables.listEvents tables with
      | none =>
          rw [found] at settled
          cases (settle_ofMailboxError formats .closed).symm.trans settled
      | some listed =>
          rw [found] at settled
          cases settled
          exact ⟨listed, rfl, rfl⟩
  | undelivered error =>
      simp only [outcome] at settled
      cases (settle_ofMailboxError formats error).symm.trans settled
  | failed error =>
      simp only [outcome] at settled
      cases (settle_ofDbError formats error).symm.trans settled
  | unacknowledged error =>
      simp only [outcome] at settled
      cases (settle_ofDbError formats error).symm.trans settled

/-- A listing that the page reads tells of stored events only. -/
theorem mem_of_resumes {formats : Formats} {database : DatabaseAddr} {tables : Tables}
    {request : Request} {message : HttpRequest} (sent : request.message = .ok message)
    (regular : ∀ event ∈ tables.events, event.Regular) {rows : List (EventRow × List Uuid)}
    (resumes : Wire.Resumes formats
      (request, .ok (call (routes formats) database tables message).2)
      (.fetchEvents (.ok rows))) : ∀ row ∈ rows, row.1 ∈ tables.events := by
  rcases eq_of_reads_fetchEvents resumes rfl with ⟨isListing, rowsRegular, settled⟩
  subst isListing
  cases sent
  change Api.settle (call (routes formats) database tables Api.listEvent).2 = _ at settled
  rw [call_listEvent] at settled
  rcases settle_listEvents formats database tables settled with ⟨listed, found, body⟩
  have serialized : listed.map (Http.Event.eventRes formats) =
      (listed.map fun entry => (entry.1, entry.2.map Label.id)).map
        (EventRow.serializeLabelled formats) := by
    rw [List.map_map]
    rfl
  have stored : ∀ row ∈ listed.map fun entry => (entry.1, entry.2.map Label.id),
      row.1 ∈ tables.events := by
    intro row present
    rcases List.mem_map.mp present with ⟨entry, among, rfl⟩
    exact mem_of_listEvents found entry among
  rw [serialized] at body
  have same := document_array_injOn (EventRow.serializeLabelled_injOn formats) rowsRegular
    (fun row present => regular row.1 (stored row present)) (congrArg Except.ok body)
  rw [same]
  exact stored

/-! ## The backend of a page -/

/-- Nothing that happened is forgotten. -/
theorem log_subset_process {processor next : EventProcessor} {action : EventProcessor.Action}
    (stepped : processor.step action = some next) : processor.log ⊆ next.log := by
  cases EventProcessor.transition_of_step stepped with
  | handled msg => exact List.Subset.refl _
  | moved found undone silent => exact List.Subset.refl _
  | inserted found result => exact List.subset_append_left _ _
  | broadcast found => exact List.subset_append_left _ _
  | registered => exact List.subset_append_left _ _
  | elsewhere database => exact List.Subset.refl _

theorem log_subset_served (backend : Backend) (connection : Nat)
    (result : Option (EventHandler × List EventHandler.Output)) :
    backend.processor.log ⊆ (backend.served connection result).processor.log := by
  cases result with
  | none => exact List.Subset.refl _
  | some result => exact List.Subset.refl _

theorem log_subset_backend {backend next : Backend} {action : Backend.Action}
    (stepped : Backend.step backend action = some next) :
    backend.processor.log ⊆ next.processor.log := by
  cases action with
  | accept =>
      cases (Option.ite_none_left_eq_some.mp stepped).2
      exact List.Subset.refl _
  | read connection clock chunk =>
      simp only [Backend.step] at stepped
      split at stepped
      · cases stepped
      · cases (Option.ite_none_right_eq_some.mp stepped).2
        exact log_subset_served backend connection _
  | reply connection clock failure =>
      simp only [Backend.step] at stepped
      split at stepped
      · cases stepped
      · split at stepped
        · cases stepped
        · cases (Option.ite_none_left_eq_some.mp stepped).2
          exact log_subset_served backend connection _
  | announce event =>
      cases (Option.ite_none_left_eq_some.mp stepped).2
      exact List.Subset.refl _
  | handle =>
      simp only [Backend.step] at stepped
      split at stepped
      · cases stepped
      · rcases Option.map_eq_some_iff.mp (Option.ite_none_left_eq_some.mp stepped).2 with
          ⟨processor, handled, rfl⟩
        exact log_subset_process handled
  | process action =>
      rcases Option.map_eq_some_iff.mp (Option.ite_none_left_eq_some.mp stepped).2 with
        ⟨processor, processed, rfl⟩
      exact log_subset_process processed

theorem log_subset_follow {backend next : Backend} {actions : List Backend.Action}
    (followed : follow Backend.step backend actions = some next) :
    backend.processor.log ⊆ next.processor.log := by
  refine @follow_preserves _ _ Backend.step
    (fun later => backend.processor.log ⊆ later.processor.log) ?_ backend (List.Subset.refl _)
    actions next followed
  intro earlier action later subset stepped
  exact List.Subset.trans subset (log_subset_backend stepped)

namespace Site

/-- What a step does to the backend, the backend does. -/
theorem Step.follow {formats : Formats} {site next : Site} (stepped : Step formats site next) :
    ∃ actions, Transition.follow Backend.step site.backend actions = some next.backend := by
  cases stepped with
  | backend taken => exact ⟨[_], (follow_singleton _ _ _).trans taken⟩
  | connect unconnected registered => exact ⟨[_], (follow_singleton _ _ _).trans registered⟩
  | dispatch dispatchable sent => exact ⟨[], rfl⟩
  | unsendable dispatchable thrown => exact ⟨[], rfl⟩
  | serve found statements followed effect => exact ⟨_, followed⟩
  | fail found => exact ⟨[], rfl⟩
  | lose found => exact ⟨[], rfl⟩
  | receive found resumes => exact ⟨[], rfl⟩
  | hear connected next hears => exact ⟨[], rfl⟩
  | miss connected next => exact ⟨[], rfl⟩

/-- Whatever the page knows of events was told by the backend. -/
structure Traced (formats : Formats) (site : Site) : Prop where
  store : AllTold site.log site.store
  requests : ∀ entry ∈ site.requests, entry.1.message = .ok entry.2
  responses : ∀ answer ∈ site.responses, ∀ rows,
    Wire.Resumes formats answer (.fetchEvents (.ok rows)) → ∀ row ∈ rows, Stored site.log row.1

/-- What a session was sent was inserted before. -/
theorem stored_of_sentTo {workers : Nat} {actions : List Backend.Action} {backend : Backend}
    (reached : Transition.follow Backend.step (.new workers) actions = some backend)
    {session : Nat} {row : EventRow} (sent : row ∈ sentTo backend.processor.log session) :
    Stored backend.processor.log row := by
  rcases (Backend.queued_of_follow reached).processed with ⟨handled, -, processed⟩
  rcases List.mem_filterMap.mp sent with ⟨happening, present, told⟩
  cases happening with
  | sent own index event =>
      rcases Option.ite_none_right_eq_some.mp told with ⟨-, same⟩
      cases same
      rcases List.append_of_mem present with ⟨before, after, split⟩
      have earlier := processed.recorded.preceded own index row before after split
      rw [split]
      exact ⟨index, List.mem_append_left _ earlier⟩
  | inserted index event => cases told
  | registered own => cases told
  | broadcast index event => cases told

theorem stored_of_tables {workers : Nat} {actions : List Backend.Action} {site : Site}
    (reached : Transition.follow Backend.step (.new workers) actions = some site.backend)
    {row : EventRow} (present : row ∈ site.tables.events) : Stored site.log row := by
  rcases (Backend.queued_of_follow reached).processed with ⟨handled, -, processed⟩
  exact processed.stored row present

/-- A call that fails tells of no events. -/
theorem not_resumes_error {formats : Formats} {request : Request} {error : String}
    {rows : List (EventRow × List Uuid)} :
    ¬ Wire.Resumes formats (request, .error error) (.fetchEvents (.ok rows)) := by
  intro resumes
  cases (eq_of_reads_fetchEvents resumes rfl).2.2

section Steps

variable {formats : Formats} {site : Site}

/-- More may happen to the backend. -/
theorem Traced.grow (traced : site.Traced formats) {backend : Backend}
    (grown : site.log ⊆ backend.processor.log) (session : Option Nat) :
    ({ site with backend := backend, session := session } : Site).Traced formats where
  store := traced.store.mono grown
  requests := traced.requests
  responses := by
    intro answer present rows resumes row among
    exact (traced.responses answer present rows resumes row among).mono grown

theorem Traced.step {workers : Nat} {next : Site} (traced : site.Traced formats)
    (stepped : Step formats site next) {actions : List Backend.Action}
    (reached : Transition.follow Backend.step (.new workers) actions = some site.backend)
    (regular : ∀ row, Stored next.log row → row.Regular) : next.Traced formats := by
  cases stepped with
  | backend taken => exact traced.grow (log_subset_backend taken) site.session
  | connect unconnected registered => exact traced.grow (log_subset_backend registered) _
  | dispatch dispatchable sent =>
      rename_i request message
      exact
        { store := traced.store.dispatch request
          requests := by
            rw [List.forall_mem_append, List.forall_mem_singleton]
            exact ⟨traced.requests, sent⟩
          responses := traced.responses }
  | unsendable dispatchable thrown =>
      rename_i request error
      exact
        { store := traced.store.dispatch request
          requests := traced.requests
          responses := by
            rw [List.forall_mem_append, List.forall_mem_singleton]
            exact ⟨traced.responses, fun rows resumes => absurd resumes not_resumes_error⟩ }
  | serve found statements followed effect =>
      rename_i index request message database actions backend
      have grown := log_subset_follow followed
      exact
        { store := traced.store.mono grown
          requests := fun entry present => traced.requests entry (List.mem_of_mem_eraseIdx present)
          responses := by
            rw [List.forall_mem_append, List.forall_mem_singleton]
            refine ⟨(traced.grow grown none).responses, fun rows resumes row among => ?_⟩
            have sent := traced.requests _ (List.mem_of_getElem? found)
            have tablesRegular : ∀ event ∈ site.tables.events, event.Regular := by
              intro event present
              exact regular event ((stored_of_tables reached present).mono grown)
            have present := mem_of_resumes sent tablesRegular resumes row among
            exact (stored_of_tables reached present).mono grown }
  | fail found =>
      exact
        { store := traced.store
          requests := fun entry present => traced.requests entry (List.mem_of_mem_eraseIdx present)
          responses := by
            rw [List.forall_mem_append, List.forall_mem_singleton]
            exact ⟨traced.responses, fun rows resumes => absurd resumes not_resumes_error⟩ }
  | lose found =>
      exact
        { store := traced.store
          requests := traced.requests
          responses := by
            intro answer present rows resumes
            rcases List.mem_or_eq_of_mem_set present with old | rfl
            · exact traced.responses answer old rows resumes
            · exact absurd resumes not_resumes_error }
  | receive found resumes =>
      rename_i index answer response
      exact
        { store := by
            apply allTold_receive traced.store
            rintro rows rfl
            exact traced.responses answer (List.mem_of_getElem? found) rows resumes
          requests := traced.requests
          responses := fun answer present =>
            traced.responses answer (List.mem_of_mem_eraseIdx present) }
  | hear connected next hears =>
      rename_i session row event
      have stored := stored_of_sentTo reached (List.mem_of_getElem? next)
      have same : row = event := EventRow.serialize_injOn formats (regular row stored) hears.1 hears.2
      exact
        { store := allTold_subscribeNewEvent traced.store (same ▸ stored)
          requests := traced.requests
          responses := traced.responses }
  | miss connected next =>
      exact
        { store := traced.store
          requests := traced.requests
          responses := traced.responses }

end Steps

/-! ## Every run -/

theorem traced_initial (formats : Formats) (workers : Nat) (today : Int) :
    (initial workers today).Traced formats where
  store := by
    intro id entity found
    cases found
  requests := by
    intro entry present
    cases present
  responses := by
    intro answer present
    cases present

theorem traced_of_run {formats : Formats} {workers : Nat} {today : Int} {site : Site}
    (run : Relation.ReflTransGen (Step formats) (initial workers today) site)
    (regular : ∀ row, Stored site.log row → row.Regular) :
    (∃ actions, Transition.follow Backend.step (.new workers) actions = some site.backend) ∧
      site.Traced formats := by
  induction run with
  | refl => exact ⟨⟨[], rfl⟩, traced_initial formats workers today⟩
  | tail earlier stepped inductionHypothesis =>
      rcases stepped.follow with ⟨actions, followed⟩
      have grown := log_subset_follow followed
      rcases inductionHypothesis fun row stored => regular row (stored.mono grown) with
        ⟨⟨before, reached⟩, traced⟩
      refine ⟨⟨before ++ actions, ?_⟩, traced.step stepped reached regular⟩
      rw [follow_append, reached]
      exact followed

/-- The backend may go on by itself. -/
theorem run_of_follow (formats : Formats) {actions : List Backend.Action} (site : Site)
    {backend : Backend}
    (followed : Transition.follow Backend.step site.backend actions = some backend) :
    Relation.ReflTransGen (Step formats) site { site with backend := backend } := by
  induction actions generalizing site with
  | nil =>
      cases followed
      exact .refl
  | cons action actions inductionHypothesis =>
      rcases Option.bind_eq_some_iff.mp followed with ⟨next, taken, rest⟩
      exact .head (.backend taken) (inductionHypothesis { site with backend := next } rest)

/-- The event of the desk. -/
def deskRow : EventRow :=
  ⟨.ofNat 3, ⟨.luminosity, .luminosity 1 2, ⟨1608119495, 0⟩, ⟨1608119496, 0⟩, .ofNat 1⟩⟩

end Site

end Bug.Frontend
