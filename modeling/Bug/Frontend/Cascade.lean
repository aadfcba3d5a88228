import Bug.Frontend.System

/-!
# Deleting a device

The database deletes the labels and the events of a device together with it.
The store only removes the device.  A store that holds what the database holds
therefore does so again after the deletion exactly when the device has neither
labels nor events.
-/

namespace Bug.Frontend

open Bug.Db
open Bug.Transition

namespace DeviceEntity

def toRow (id : Uuid) (entity : DeviceEntity) : Device where
  id := id
  name := entity.name
  description := entity.description

end DeviceEntity

namespace LabelEntity

def toRow (id : Uuid) (entity : LabelEntity) : Label where
  id := id
  eventKind := entity.eventKind
  name := entity.name
  description := entity.description
  rule := entity.rule
  deviceId := entity.device

end LabelEntity

namespace EventEntity

def toRow (id : Uuid) (entity : EventEntity) : EventRow where
  id := id
  value :=
    { kind := entity.kind
      payload := entity.payload
      startedAt := entity.startedAt
      endedAt := entity.endedAt
      deviceId := entity.device }

end EventEntity

namespace Store

def devices (store : Store) : List Device :=
  store.device.entities.entries.map fun entry => entry.2.toRow entry.1

def labels (store : Store) : List Label :=
  store.label.entities.entries.map fun entry => entry.2.toRow entry.1

def events (store : Store) : List EventRow :=
  store.event.entities.entries.map fun entry => entry.2.toRow entry.1

/-- The store holds the rows of the database. -/
structure Consistent (store : Store) (tables : Tables) : Prop where
  devices : ∀ row, row ∈ store.devices ↔ row ∈ tables.devices
  labels : ∀ row, row ∈ store.labels ↔ row ∈ tables.labels
  events : ∀ row, row ∈ store.events ↔ row ∈ tables.events

/-- Nothing of the device is left. -/
structure Cleared (store : Store) (id : Uuid) : Prop where
  labels : ∀ row ∈ store.labels, row.deviceId ≠ id
  events : ∀ row ∈ store.events, row.value.deviceId ≠ id

end Store

/-- The database has neither labels nor events of the device. -/
structure Bare (tables : Tables) (id : Uuid) : Prop where
  labels : ∀ row ∈ tables.labels, row.deviceId ≠ id
  events : ∀ row ∈ tables.events, row.value.deviceId ≠ id

/-! ## The deletion on both sides -/

namespace Store

section Deletion

variable {store : Store} {tables : Tables} {id : Uuid}

theorem mem_devices_deleteDevice_iff {row : Device} :
    row ∈ ((store.dispatch (.deleteDevice id)).deleteDevice id (.ok ())).devices ↔
      row ∈ store.devices ∧ row.id ≠ id := by
  constructor
  · intro present
    rcases List.mem_map.mp present with ⟨entry, kept, rfl⟩
    rcases List.mem_filter.mp kept with ⟨stored, different⟩
    exact ⟨List.mem_map_of_mem stored, of_decide_eq_true different⟩
  · rintro ⟨present, different⟩
    rcases List.mem_map.mp present with ⟨entry, stored, rfl⟩
    exact List.mem_map.mpr ⟨entry, List.mem_filter.mpr ⟨stored, decide_eq_true different⟩, rfl⟩

theorem labels_deleteDevice :
    ((store.dispatch (.deleteDevice id)).deleteDevice id (.ok ())).labels = store.labels :=
  rfl

theorem events_deleteDevice :
    ((store.dispatch (.deleteDevice id)).deleteDevice id (.ok ())).events = store.events :=
  rfl

/-- The rows of the device are the only difference. -/
theorem consistent_deleteDevice_of_bare (consistent : store.Consistent tables)
    (bare : Bare tables id) :
    ((store.dispatch (.deleteDevice id)).deleteDevice id (.ok ())).Consistent
      (tables.deleteDevice id) := by
  constructor
  · intro row
    rw [mem_devices_deleteDevice_iff, consistent.devices row]
    simp [Tables.deleteDevice]
  · intro row
    rw [labels_deleteDevice, consistent.labels row]
    constructor
    · intro present
      exact List.mem_filter.mpr ⟨present, decide_eq_true (bare.labels row present)⟩
    · exact List.mem_of_mem_filter
  · intro row
    rw [events_deleteDevice, consistent.events row]
    constructor
    · intro present
      exact List.mem_filter.mpr ⟨present, decide_eq_true (bare.events row present)⟩
    · exact List.mem_of_mem_filter

/-- The database has nothing of the device any more. -/
theorem cleared_of_consistent {next : Store}
    (consistent : next.Consistent (tables.deleteDevice id)) : next.Cleared id := by
  constructor
  · intro row present
    exact of_decide_eq_true (List.mem_filter.mp ((consistent.labels row).mp present)).2
  · intro row present
    exact of_decide_eq_true (List.mem_filter.mp ((consistent.events row).mp present)).2

theorem cleared_of_bare (consistent : store.Consistent tables) (bare : Bare tables id) :
    ((store.dispatch (.deleteDevice id)).deleteDevice id (.ok ())).Cleared id := by
  constructor
  · intro row present
    exact bare.labels row ((consistent.labels row).mp present)
  · intro row present
    exact bare.events row ((consistent.events row).mp present)

theorem bare_of_cleared (consistent : store.Consistent tables)
    (cleared : ((store.dispatch (.deleteDevice id)).deleteDevice id (.ok ())).Cleared id) :
    Bare tables id := by
  constructor
  · intro row present
    exact cleared.labels row ((consistent.labels row).mpr present)
  · intro row present
    exact cleared.events row ((consistent.events row).mpr present)

end Deletion

end Store

/-! ## The round trip of the request -/

namespace World

theorem follow_deleteDevice {today : Int} {world : World} (reachable : Reachable today world)
    {id : Uuid} (present : world.tables.HasDevice id) (generated : Generated) :
    ∃ next,
      follow step world
        [.dispatch (.deleteDevice id), .serve world.requests.length generated,
          .receive world.responses.length] = some next ∧
      next.store = (world.store.dispatch (.deleteDevice id)).deleteDevice id (.ok ()) ∧
      next.tables = world.tables.deleteDevice id := by
  have single := Tables.countDevices_eq_one (keyed_of_reachable reachable) present
  have unused : world.Unused (world.tables.deleteDevice id) := by
    intro label stored _
    exact issued_of_reachable reachable (List.mem_of_mem_filter stored)
  have served : Frontend.serve world.tables generated (.deleteDevice id) =
      (world.tables.deleteDevice id, .deleteDevice id (.ok ())) := by
    rw [Frontend.serve, single]
    rfl
  have trip := @follow_roundTrip world (.deleteDevice id) generated trivial
  rw [served] at trip
  exact trip unused

/-- After the deletion of a device, a store that held what the database held
holds what is left of it if and only if the device had neither labels nor events;
and only then nothing of the device is left in it. -/
theorem consistent_deleteDevice_iff {today : Int} {world : World}
    (reachable : Reachable today world) (consistent : world.store.Consistent world.tables)
    {id : Uuid} (present : world.tables.HasDevice id) (generated : Generated) :
    ∃ next,
      follow step world
        [.dispatch (.deleteDevice id), .serve world.requests.length generated,
          .receive world.responses.length] = some next ∧
      (next.store.Consistent next.tables ↔ Bare world.tables id) ∧
      (next.store.Cleared id ↔ Bare world.tables id) := by
  rcases follow_deleteDevice reachable present generated with ⟨next, reached, store, tables⟩
  refine ⟨next, reached, ?_⟩
  rw [store, tables]
  constructor
  · constructor
    · intro remaining
      exact Store.bare_of_cleared consistent (Store.cleared_of_consistent remaining)
    · exact Store.consistent_deleteDevice_of_bare consistent
  · constructor
    · exact Store.bare_of_cleared consistent
    · exact Store.cleared_of_bare consistent

/-- A device without labels and events is gone from both sides. -/
theorem consistent_deleteDevice_bare :
    let generated : Generated := ⟨.ofNat 0, .ofNat 0, 0⟩
    ∃ world next,
      follow step (initial 0)
        [.execute (.insertDevice ⟨.ofNat 1, "bug", ""⟩), .dispatch .fetchDevices,
          .serve 0 generated, .receive 0] = some world ∧
      follow step world
        [.dispatch (.deleteDevice (.ofNat 1)), .serve world.requests.length generated,
          .receive world.responses.length] = some next ∧
      Bare world.tables (.ofNat 1) ∧ next.store.Consistent next.tables := by
  intro generated
  have fetched : ∃ world,
      follow step (initial 0)
        [.execute (.insertDevice ⟨.ofNat 1, "bug", ""⟩), .dispatch .fetchDevices,
          .serve 0 generated, .receive 0] = some world ∧
      world.tables = { Tables.empty with devices := [⟨.ofNat 1, "bug", ""⟩] } ∧
      world.store.devices = [⟨.ofNat 1, "bug", ""⟩] ∧ world.store.labels = [] ∧
      world.store.events = [] := ⟨_, rfl, rfl, rfl, rfl, rfl⟩
  rcases fetched with ⟨world, reached, tables, devices, labels, events⟩
  have consistent : world.store.Consistent world.tables := by
    constructor
    · intro row
      rw [tables, devices]
    · intro row
      rw [tables, labels]
      rfl
    · intro row
      rw [tables, events]
      rfl
  have present : world.tables.HasDevice (.ofNat 1) := by
    rw [tables]
    exact List.mem_cons_self
  have bare : Bare world.tables (.ofNat 1) := by
    constructor
    · intro row stored
      rw [tables] at stored
      cases stored
    · intro row stored
      rw [tables] at stored
      cases stored
  rcases consistent_deleteDevice_iff ⟨_, reached⟩ consistent present generated with
    ⟨next, deleted, exact, _⟩
  exact ⟨world, next, reached, deleted, bare, exact.mpr bare⟩

/-- A deleted device leaves its label and its event in the store. -/
theorem not_consistent_deleteDevice_example :
    let generated : Generated := ⟨.ofNat 0, .ofNat 0, 0⟩
    let device : Device := ⟨.ofNat 1, "bug", ""⟩
    let label : Label :=
      ⟨.ofNat 2, .luminosity, "bright", "", .luminosityDifference (.gt 100), .ofNat 1⟩
    let event : EventRow :=
      ⟨.ofNat 3, ⟨.luminosity, .luminosity 0 100, ⟨0, 0⟩, ⟨1, 0⟩, .ofNat 1⟩⟩
    ∃ world next,
      follow step (initial 0)
        [.execute (.insertDevice device), .execute (.insertLabel label),
          .execute (.insertEvent event), .dispatch .fetchDevices, .serve 0 generated, .receive 0,
          .dispatch .fetchLabels, .serve 0 generated, .receive 0, .dispatch .fetchEvents,
          .serve 0 generated, .receive 0] = some world ∧
      world.store.Consistent world.tables ∧
      follow step world [.dispatch (.deleteDevice device.id), .serve 0 generated, .receive 0] =
        some next ∧
      next.tables = .empty ∧ next.store.devices = [] ∧ next.store.labels = [label] ∧
      next.store.events = [event] ∧ ¬ next.store.Consistent next.tables ∧
      ¬ next.store.Cleared device.id := by
  intro generated device label event
  have stale : ∀ store : Store, store.labels = [label] →
      ¬ store.Consistent .empty ∧ ¬ store.Cleared device.id := by
    intro store labels
    have listed : label ∈ store.labels := by
      rw [labels]
      exact List.mem_cons_self
    constructor
    · intro consistent
      cases (consistent.labels label).mp listed
    · intro cleared
      exact cleared.labels label listed rfl
  refine ⟨_, _, rfl, ?_, rfl, rfl, rfl, rfl, rfl, ?_⟩
  · constructor
    · intro row
      rfl
    · intro row
      rfl
    · intro row
      rfl
  · exact stale _ rfl

end World

end Bug.Frontend
