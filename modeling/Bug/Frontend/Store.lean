import Bug.Db.Schema
import Bug.Frontend.Dayjs
import Bug.Frontend.Slice
import Mathlib.Data.List.Sort

/-!
# The frontend's store and its sagas

A saga sends a request and, when the response arrives, puts its actions one
after the other.  Responses are normalised first: the entities of a response are
collected under their identifiers, a device starts without labels, and a label
or an event refers to its device.  What the label sagas put reaches the device
and the event slice as well.
-/

namespace Bug.Frontend

open Bug.Db

structure Store where
  device : DeviceSlice
  label : LabelSlice
  event : EventSlice

/-! ## Normalisation -/

namespace DeviceEntity

def ofRow (row : Device) (secret : Option String) : DeviceEntity where
  name := row.name
  description := row.description
  secret := secret
  labels := []

end DeviceEntity

namespace LabelEntity

def ofRow (row : Label) : LabelEntity where
  eventKind := row.eventKind
  name := row.name
  description := row.description
  rule := row.rule
  device := row.deviceId

end LabelEntity

namespace EventEntity

def ofRow (row : EventRow) (labels : List Uuid) : EventEntity where
  kind := row.value.kind
  payload := row.value.payload
  startedAt := row.value.startedAt
  endedAt := row.value.endedAt
  device := row.value.deviceId
  labels := .rekeyed labels

/-- The time of `sortComparer`. -/
def unixMilli (event : EventEntity) : Int :=
  (dayjs event.startedAt).unixMilli

end EventEntity

def normalizeDevices (rows : List Device) : Entities Uuid DeviceEntity :=
  .ofList (rows.map fun row => (row.id, .ofRow row none))

def normalizeLabels (rows : List Label) : Entities Uuid LabelEntity :=
  .ofList (rows.map fun row => (row.id, .ofRow row))

def normalizeEvents (rows : List (EventRow × List Uuid)) : Entities Uuid EventEntity :=
  .ofList (rows.map fun row => (row.1.id, .ofRow row.1 row.2))

theorem labels_eq_nil_of_normalizeDevices {rows : List Device} :
    ∀ id device, (normalizeDevices rows).lookup id = some device → device.labels = [] := by
  unfold normalizeDevices
  apply Entities.forall_ofList
  intro entry present
  rcases List.mem_map.mp present with ⟨row, _, rfl⟩
  rfl

/-- `selectAll` of the event slice, whose adapter sorts all events by their start. -/
def EventSlice.selectAll (slice : EventSlice) : List (Uuid × EventEntity) :=
  slice.entities.entries.insertionSort fun left right => left.2.unixMilli ≤ right.2.unixMilli

/-- `groupByDeviceId`: the labels under their devices, in the order in which the
devices come up. -/
def groupByDeviceId (labels : List (Uuid × LabelEntity)) : LabelGroups :=
  (uniq (labels.map fun label => label.2.device)).map fun device =>
    (device, labels.filter fun label => label.2.device = device)

namespace Store

def initial (today : Int) : Store where
  device := .initial
  label := .initial
  event := .initial today

/-! ## The sagas after their responses -/

def createDevice (store : Store) : Except String (Device × String) → Store
  | .ok (row, secret) =>
      { store with device := store.device.createSuccess row.id (.ofRow row (some secret)) }
  | .error error => { store with device := store.device.createFailure error }

def fetchDevices (store : Store) : Except String (List Device) → Store
  | .ok rows => { store with device := store.device.fetchSuccess (normalizeDevices rows) }
  | .error error => { store with device := store.device.fetchFailure error }

def deleteDevice (store : Store) (id : Uuid) : Except String Unit → Store
  | .ok () => { store with device := store.device.deleteSuccess id }
  | .error error => { store with device := store.device.deleteFailure error }

/-- Creating a label for an event of a device.  An error of the last put is
caught like an error of the request. -/
def createLabel (store : Store) (device event : Uuid) : Except String Label → Store
  | .ok row =>
      let label := (row.id, LabelEntity.ofRow row)
      let created : Store :=
        { store with
          label := store.label.createSuccess label.1 label.2
          device := DeviceSlice.addDevicesLabels store.device [(device, [label])] }
      match store.event.addEventsLabels [(event, [label])] with
      | some events => { created with event := events }
      | none =>
          { created with label := created.label.createFailure "object is not iterable" }
  | .error error => { store with label := store.label.createFailure error }

def fetchLabels (store : Store) : Except String (List Label) → Store
  | .ok rows =>
      let labels := normalizeLabels rows
      { store with
        label := store.label.fetchSuccess labels
        device := DeviceSlice.addDevicesLabels store.device (groupByDeviceId labels.entries) }
  | .error error => { store with label := store.label.fetchFailure error }

def deleteLabel (store : Store) (label : Uuid × LabelEntity) : Except String Unit → Store
  | .ok () =>
      { store with
        device := DeviceSlice.deleteDevicesLabels store.device [(label.2.device, [label])]
        label := store.label.deleteSuccess label.1 }
  | .error error => { store with label := store.label.deleteFailure error }

def fetchEvents (store : Store) : Except String (List (EventRow × List Uuid)) → Store
  | .ok rows => { store with event := store.event.fetchSuccess (normalizeEvents rows) }
  | .error error => { store with event := store.event.fetchFailure error }

/-- An event arrives over the websocket, which does not tell its labels. -/
def subscribeNewEvent (store : Store) (row : EventRow) : Store :=
  { store with event := store.event.addEvent row.id (.ofRow row []) }

/-! ## Selecting events -/

/-- The labels of a selected event: those of an array are looked up, and anything
else is left as it is. -/
inductive SelectedLabels where
  | labels (entities : List (Option LabelEntity))
  | raw (ids : List Uuid)

structure SelectedEvent where
  id : Uuid
  event : EventEntity
  device : Option DeviceEntity
  labels : SelectedLabels

def denormalize (store : Store) (entry : Uuid × EventEntity) : SelectedEvent where
  id := entry.1
  event := entry.2
  device := store.device.entities.lookup entry.2.device
  labels :=
    match entry.2.labels with
    | .array ids => .labels (ids.map store.label.entities.lookup)
    | .indexed ids => .raw ids

/-- `makeSelectorEvents`: all events by their start. -/
def selectEvents (store : Store) : List SelectedEvent :=
  store.event.selectAll.map store.denormalize

end Store

end Bug.Frontend
