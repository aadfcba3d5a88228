import Bug.Db.Database
import Bug.Db.Integrity
import Bug.Primitive.Grouped

/-!
# The messages of the endpoints

Every HTTP endpoint sends one message to the database actor and awaits its
answer.  The events are read together with their labels by two statements, which
no transaction holds together: the rows of other clients may change in between.
The labels of all events come from one join and are grouped by their event.
-/

namespace Bug.Db

open Bug.Grouped

/-- What comes back for a message.  A worker that panics closes the mailbox. -/
abbrev Answer (α : Type) := Except MailboxError (Except Error α)

/-- The messages, by what they are answered with. -/
inductive Query : Type → Type where
  | selectDevices : Query (List Device)
  | insertDevice (value : NewDevice) : Query (Device × UInt64)
  | deleteDevice (id : Uuid) : Query Unit
  | selectLabels : Query (List Label)
  | insertLabel (value : NewLabel) : Query Label
  | deleteLabel (id : Uuid) : Query Unit
  | selectEvents : Query (List (EventRow × List Label))
  | selectEvent (id : Uuid) : Query (EventRow × List Label)

namespace Tables

/-- `EventLabel::belonging_to`. -/
def belongingTo (tables : Tables) (events : List Uuid) : List EventLabel :=
  tables.eventsLabels.filter fun row => row.eventId ∈ events

/-- `inner_join(labels::table)`. -/
def joinLabels (tables : Tables) (rows : List EventLabel) : List (EventLabel × Label) :=
  rows.flatMap fun row =>
    (tables.labels.filter fun label => label.id = row.labelId).map fun label => (row, label)

/-- All events as the first statement finds them, with their labels as the second
one does. -/
def listEvents (first second : Tables) : Option (List (EventRow × List Label)) :=
  let events := first.events
  let joined := second.joinLabels (second.belongingTo (events.map EventRow.id))
  (groupedBy EventRow.id (fun row => row.1.eventId) joined events).map fun labels =>
    (labels.zip events).map fun (labels, event) => (event, labels.map Prod.snd)

/-- One event as the first statement finds it, with its labels as the second one
does. -/
def readEvent (first second : Tables) (id : Uuid) : Except Error (EventRow × List Label) :=
  match first.events.filter fun event => event.id = id with
  | [] => .error (.diesel true)
  | event :: _ => .ok (event, (second.joinLabels (second.belongingTo [event.id])).map Prod.snd)

/-! ## The labels of the listed events -/

theorem labelsOf_eq_joinLabels (tables : Tables) (rows : List EventLabel) (event : Uuid) :
    ((tables.joinLabels rows).filter fun row => row.1.eventId = event).map Prod.snd =
      (rows.filter fun row => row.eventId = event).flatMap fun row =>
        tables.labels.filter fun label => label.id = row.labelId := by
  induction rows with
  | nil => rfl
  | cons row rows ih =>
      rw [joinLabels, List.flatMap_cons, List.filter_append, List.map_append]
      rw [joinLabels] at ih
      rw [ih, List.filter_map, List.filter_cons]
      by_cases same : row.eventId = event
      · simp [same, Function.comp_def]
      · simp [same, Function.comp_def]

/-- The rows of a listed event belong to the listing. -/
theorem filter_belongingTo {tables : Tables} {events : List Uuid} {event : Uuid}
    (present : event ∈ events) :
    (tables.belongingTo events).filter (fun row => row.eventId = event) =
      tables.eventsLabels.filter fun row => row.eventId = event := by
  rw [belongingTo, List.filter_filter]
  apply List.filter_congr
  intro row _
  by_cases same : row.eventId = event
  · simp [same, present]
  · simp [same]

/-- A list next to what is computed from it. -/
theorem zip_map_self {α β : Type} (compute : α → β) (entries : List α) :
    (entries.map compute).zip entries = entries.map fun entry => (compute entry, entry) := by
  induction entries with
  | nil => rfl
  | cons entry entries ih => rw [List.map_cons, List.zip_cons_cons, ih, List.map_cons]

theorem labels_of_listed {tables : Tables} {events : List Uuid} {event : Uuid}
    (present : event ∈ events) :
    ((tables.joinLabels (tables.belongingTo events)).filter fun row =>
      row.1.eventId = event).map Prod.snd = tables.labelsOf event := by
  rw [labelsOf_eq_joinLabels, filter_belongingTo present, labelsOf]

theorem eventId_of_mem_joinLabels {tables : Tables} {events : List Uuid} {row : EventLabel × Label}
    (present : row ∈ tables.joinLabels (tables.belongingTo events)) : row.1.eventId ∈ events := by
  rcases List.mem_flatMap.mp present with ⟨joined, belongs, found⟩
  rcases List.mem_map.mp found with ⟨label, -, rfl⟩
  exact of_decide_eq_true (List.mem_filter.mp belongs).2

/-- The listing has every event once, with its own labels. -/
theorem listEvents_eq {first : Tables} (integral : first.Integral) (second : Tables) :
    first.listEvents second =
      some (first.events.map fun event => (event, second.labelsOf event.id)) := by
  have known : ∀ row ∈ second.joinLabels (second.belongingTo (first.events.map EventRow.id)),
      row.1.eventId ∈ first.events.map EventRow.id := fun row present =>
    eventId_of_mem_joinLabels present
  have listed : ∀ event ∈ first.events,
      ((second.joinLabels (second.belongingTo (first.events.map EventRow.id))).filter fun row =>
        row.1.eventId = event.id).map Prod.snd = second.labelsOf event.id := by
    intro event present
    exact labels_of_listed (List.mem_map_of_mem present)
  have zipped := groupedBy_eq integral.events known
  rw [listEvents, zipped, Option.map_some]
  congr 1
  rw [zip_map_self, List.map_map]
  apply List.map_congr_left
  intro event present
  exact congrArg (Prod.mk event) (listed event present)

/-- A single event comes with the labels that the listing has for it. -/
theorem readEvent_of_mem {first : Tables} (integral : first.Integral) (second : Tables)
    {event : EventRow} (present : event ∈ first.events) :
    first.readEvent second event.id = .ok (event, second.labelsOf event.id) := by
  rcases filter_eq_singleton integral.events (List.mem_map_of_mem present) with
    ⟨found, stored, same, single⟩
  have isEvent : found = event := List.inj_on_of_nodup_map integral.events stored present same
  subst isEvent
  have every : (second.joinLabels (second.belongingTo [found.id])).filter
      (fun row => row.1.eventId = found.id) = second.joinLabels (second.belongingTo [found.id]) := by
    rw [List.filter_eq_self]
    intro row present
    exact decide_eq_true (List.mem_singleton.mp (eventId_of_mem_joinLabels present))
  rw [readEvent, single]
  change Except.ok (found, _) = _
  rw [← every, labels_of_listed List.mem_cons_self]

theorem readEvent_of_absent {first : Tables} (second : Tables) {id : Uuid}
    (absent : id ∉ first.events.map EventRow.id) :
    first.readEvent second id = .error (.diesel true) := by
  have none : (first.events.filter fun event => event.id = id) = [] := by
    rw [List.filter_eq_nil_iff]
    intro event present same
    exact absent (List.mem_map.mpr ⟨event, present, of_decide_eq_true same⟩)
  rw [readEvent, none]

end Tables

namespace Query

/-- The handlers of the actor, given the keys and the secret that an insert
generates. -/
def handle (id credentialId : Uuid) (secret : UInt64) (tables : Tables) :
    {α : Type} → Query α → Tables × Answer α
  | _, selectDevices => (tables, .ok (.ok tables.devices))
  | _, insertDevice value =>
      let device : Device := ⟨id, value.name, value.description⟩
      let credential : DeviceCredential := ⟨credentialId, toBeBytes secret, device.id⟩
      match (tables.insertDevice device).bind fun inserted =>
          inserted.insertCredential credential with
      | some created => (created, .ok (.ok (device, secret)))
      | none => (tables, .ok (.error (.diesel false)))
  | _, deleteDevice id =>
      (tables.deleteDevice id, .ok (Database.deleteReply (tables.countDevices id)))
  | _, selectLabels => (tables, .ok (.ok tables.labels))
  | _, insertLabel value =>
      let label : Label :=
        ⟨id, value.eventKind, value.name, value.description, value.rule, value.deviceId⟩
      match tables.insertLabel label with
      | some created => (created, .ok (.ok label))
      | none => (tables, .ok (.error (.diesel false)))
  | _, deleteLabel id =>
      (tables.deleteLabel id, .ok (Database.deleteReply (tables.countLabels id)))
  | _, selectEvents =>
      match tables.listEvents tables with
      | some events => (tables, .ok (.ok events))
      | none => (tables, .error .closed)
  | _, selectEvent id => (tables, .ok (tables.readEvent tables id))

end Query

end Bug.Db
