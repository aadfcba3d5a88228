import Bug.Db.Device
import Bug.Db.Label
import Mathlib.Data.List.Nodup

/-!
# The tables of the database

Rows are lists in the order of their insertion.  A statement that violates a
primary key, a unique constraint or a foreign key fails; deleting a row deletes
the rows that refer to it.
-/

namespace Bug.Db

open Bug.Encoding

structure DeviceCredential where
  id : Uuid
  secret : Bytes
  deviceId : Uuid
  deriving DecidableEq

/-- A row of `events`. -/
structure EventRow where
  id : Uuid
  value : NewEvent
  deriving DecidableEq

structure EventLabel where
  id : Uuid
  eventId : Uuid
  labelId : Uuid
  deriving DecidableEq

/-- The unique constraint of `labels`. -/
def Label.SameKey (left right : Label) : Prop :=
  left.eventKind = right.eventKind ∧ left.name = right.name ∧ left.deviceId = right.deviceId

instance (left right : Label) : Decidable (left.SameKey right) :=
  inferInstanceAs (Decidable (_ ∧ _ ∧ _))

structure Tables where
  devices : List Device
  credentials : List DeviceCredential
  labels : List Label
  events : List EventRow
  eventsLabels : List EventLabel
  deriving DecidableEq

namespace Tables

def empty : Tables where
  devices := []
  credentials := []
  labels := []
  events := []
  eventsLabels := []

def HasDevice (tables : Tables) (id : Uuid) : Prop :=
  id ∈ tables.devices.map Device.id

instance (tables : Tables) (id : Uuid) : Decidable (tables.HasDevice id) :=
  inferInstanceAs (Decidable (id ∈ tables.devices.map Device.id))

def insertDevice (tables : Tables) (device : Device) : Option Tables :=
  if tables.HasDevice device.id then
    none
  else
    some { tables with devices := tables.devices ++ [device] }

def insertCredential (tables : Tables) (credential : DeviceCredential) : Option Tables :=
  if credential.id ∈ tables.credentials.map DeviceCredential.id ∨
      ¬ tables.HasDevice credential.deviceId then
    none
  else
    some { tables with credentials := tables.credentials ++ [credential] }

def insertLabel (tables : Tables) (label : Label) : Option Tables :=
  if label.id ∈ tables.labels.map Label.id ∨ ¬ tables.HasDevice label.deviceId ∨
      ∃ other ∈ tables.labels, other.SameKey label then
    none
  else
    some { tables with labels := tables.labels ++ [label] }

def insertEvent (tables : Tables) (event : EventRow) : Option Tables :=
  if event.id ∈ tables.events.map EventRow.id ∨ ¬ tables.HasDevice event.value.deviceId then
    none
  else
    some { tables with events := tables.events ++ [event] }

def insertEventLabel (tables : Tables) (row : EventLabel) : Option Tables :=
  if row.id ∈ tables.eventsLabels.map EventLabel.id ∨ row.eventId ∉ tables.events.map EventRow.id ∨
      row.labelId ∉ tables.labels.map Label.id ∨
      ∃ other ∈ tables.eventsLabels, other.eventId = row.eventId ∧ other.labelId = row.labelId then
    none
  else
    some { tables with eventsLabels := tables.eventsLabels ++ [row] }

/-- The labels joined to an event. -/
def labelsOf (tables : Tables) (event : Uuid) : List Label :=
  (tables.eventsLabels.filter fun row => row.eventId = event).flatMap fun row =>
    tables.labels.filter fun label => label.id = row.labelId

/-- Delete the events and labels that fail a test, and the rows that refer to
them. -/
def keep (tables : Tables) (events : EventRow → Bool) (labels : Label → Bool) : Tables :=
  let removedEvents := tables.events.filter fun event => !events event
  let removedLabels := tables.labels.filter fun label => !labels label
  { tables with
    labels := tables.labels.filter labels
    events := tables.events.filter events
    eventsLabels := tables.eventsLabels.filter fun row =>
      row.eventId ∉ removedEvents.map EventRow.id ∧ row.labelId ∉ removedLabels.map Label.id }

/-- `DELETE FROM devices WHERE id = …` and its cascades. -/
def deleteDevice (tables : Tables) (id : Uuid) : Tables :=
  { tables.keep (fun event => event.value.deviceId ≠ id) (fun label => label.deviceId ≠ id) with
    devices := tables.devices.filter fun device => device.id ≠ id
    credentials := tables.credentials.filter fun credential => credential.deviceId ≠ id }

/-- `DELETE FROM labels WHERE id = …` and its cascades. -/
def deleteLabel (tables : Tables) (id : Uuid) : Tables :=
  tables.keep (fun _ => true) (fun label => label.id ≠ id)

/-- How many devices the statement deletes itself. -/
def countDevices (tables : Tables) (id : Uuid) : Nat :=
  (tables.devices.filter fun device => device.id = id).length

def countLabels (tables : Tables) (id : Uuid) : Nat :=
  (tables.labels.filter fun label => label.id = id).length

/-! ## Device keys -/

theorem map_id_deleteDevice (tables : Tables) (id : Uuid) :
    (tables.deleteDevice id).devices.map Device.id =
      (tables.devices.map Device.id).filter (fun other => other ≠ id) := by
  rw [List.filter_map]
  rfl

theorem map_deviceId_deleteDevice (tables : Tables) (id : Uuid) :
    (tables.deleteDevice id).credentials.map DeviceCredential.deviceId =
      (tables.credentials.map DeviceCredential.deviceId).filter (fun other => other ≠ id) := by
  rw [List.filter_map]
  rfl

theorem length_filter_eq_count {α : Type} (rows : List α) (key : α → Uuid) (id : Uuid) :
    (rows.filter fun row => key row = id).length = (rows.map key).count id := by
  induction rows with
  | nil => rfl
  | cons row rows ih =>
      by_cases same : key row = id
      · simp [same, ih]
      · simp [same, ih]

theorem mem_labels_insertLabel {tables next : Tables} {label : Label}
    (inserted : tables.insertLabel label = some next) : label ∈ next.labels := by
  unfold insertLabel at inserted
  split at inserted
  · cases inserted
  · cases inserted
    exact List.mem_append_right _ (List.mem_singleton.mpr rfl)

/-! ## Primary keys -/

/-- No two devices and no two labels have the same key. -/
structure Keyed (tables : Tables) : Prop where
  devices : (tables.devices.map Device.id).Nodup
  labels : (tables.labels.map Label.id).Nodup

section Keyed

variable {tables next : Tables}

theorem keyed_empty : Keyed empty := by
  constructor
  · exact List.nodup_nil
  · exact List.nodup_nil

theorem nodup_map_concat {α β : Type} {key : α → β} {rows : List α} {row : α}
    (distinct : (rows.map key).Nodup) (absent : key row ∉ rows.map key) :
    ((rows ++ [row]).map key).Nodup := by
  rw [List.map_append, List.map_singleton]
  exact List.nodup_append_comm.mp (List.nodup_cons.mpr ⟨absent, distinct⟩)

theorem nodup_map_filter {α β : Type} {key : α → β} {rows : List α}
    (distinct : (rows.map key).Nodup) (keep : α → Bool) : ((rows.filter keep).map key).Nodup :=
  (List.filter_sublist.map key).nodup distinct

theorem keyed_insertDevice (keyed : tables.Keyed) {device : Device}
    (inserted : tables.insertDevice device = some next) : next.Keyed := by
  unfold insertDevice at inserted
  split at inserted
  · cases inserted
  · rename_i absent
    cases inserted
    exact ⟨nodup_map_concat keyed.devices absent, keyed.labels⟩

theorem keyed_insertCredential (keyed : tables.Keyed) {credential : DeviceCredential}
    (inserted : tables.insertCredential credential = some next) : next.Keyed := by
  unfold insertCredential at inserted
  split at inserted
  · cases inserted
  · cases inserted
    exact ⟨keyed.devices, keyed.labels⟩

theorem keyed_insertLabel (keyed : tables.Keyed) {label : Label}
    (inserted : tables.insertLabel label = some next) : next.Keyed := by
  unfold insertLabel at inserted
  split at inserted
  · cases inserted
  · rename_i possible
    cases inserted
    have absent : label.id ∉ tables.labels.map Label.id := fun present => possible (Or.inl present)
    exact ⟨keyed.devices, nodup_map_concat keyed.labels absent⟩

theorem keyed_insertEvent (keyed : tables.Keyed) {event : EventRow}
    (inserted : tables.insertEvent event = some next) : next.Keyed := by
  unfold insertEvent at inserted
  split at inserted
  · cases inserted
  · cases inserted
    exact ⟨keyed.devices, keyed.labels⟩

theorem keyed_insertEventLabel (keyed : tables.Keyed) {row : EventLabel}
    (inserted : tables.insertEventLabel row = some next) : next.Keyed := by
  unfold insertEventLabel at inserted
  split at inserted
  · cases inserted
  · cases inserted
    exact ⟨keyed.devices, keyed.labels⟩

theorem countDevices_eq_one (keyed : tables.Keyed) {id : Uuid} (present : tables.HasDevice id) :
    tables.countDevices id = 1 := by
  rw [countDevices, length_filter_eq_count]
  exact List.count_eq_one_of_mem keyed.devices present

theorem keyed_deleteDevice (keyed : tables.Keyed) (id : Uuid) : (tables.deleteDevice id).Keyed := by
  constructor
  · exact nodup_map_filter keyed.devices _
  · exact nodup_map_filter keyed.labels _

theorem keyed_deleteLabel (keyed : tables.Keyed) (id : Uuid) : (tables.deleteLabel id).Keyed := by
  constructor
  · exact keyed.devices
  · exact nodup_map_filter keyed.labels _

end Keyed

end Tables

end Bug.Db
