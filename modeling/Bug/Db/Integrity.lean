import Bug.Db.Schema

/-!
# Referential integrity

The statements keep more than the primary keys: every label and every event
belongs to a stored device, and every row of `events_labels` joins a stored event
and a stored label that no other row joins.  So the join behind the labels of an
event meets exactly one label for each of its rows.
-/

namespace Bug.Db.Tables

/-- The constraints that hold between the rows. -/
structure Integral (tables : Tables) : Prop where
  keyed : tables.Keyed
  events : (tables.events.map EventRow.id).Nodup
  joined : (tables.eventsLabels.map fun row => (row.eventId, row.labelId)).Nodup
  labelDevices : ∀ label ∈ tables.labels, tables.HasDevice label.deviceId
  eventDevices : ∀ event ∈ tables.events, tables.HasDevice event.value.deviceId
  rowEvents : ∀ row ∈ tables.eventsLabels, row.eventId ∈ tables.events.map EventRow.id
  rowLabels : ∀ row ∈ tables.eventsLabels, row.labelId ∈ tables.labels.map Label.id

theorem integral_empty : empty.Integral where
  keyed := keyed_empty
  events := List.nodup_nil
  joined := List.nodup_nil
  labelDevices := List.forall_mem_nil _
  eventDevices := List.forall_mem_nil _
  rowEvents := List.forall_mem_nil _
  rowLabels := List.forall_mem_nil _

/-! ## Inserting -/

section Insert

variable {tables next : Tables}

theorem hasDevice_insertDevice {device : Device} (inserted : tables.insertDevice device = some next)
    {id : Uuid} (present : tables.HasDevice id) : next.HasDevice id := by
  unfold insertDevice at inserted
  split at inserted
  · cases inserted
  · cases inserted
    rw [HasDevice, List.map_append]
    exact List.mem_append_left _ present

theorem integral_insertDevice (integral : tables.Integral) {device : Device}
    (inserted : tables.insertDevice device = some next) : next.Integral := by
  have keyed := keyed_insertDevice integral.keyed inserted
  have kept : ∀ id, tables.HasDevice id → next.HasDevice id :=
    fun id present => hasDevice_insertDevice inserted present
  unfold insertDevice at inserted
  split at inserted
  · cases inserted
  · cases inserted
    exact {
      keyed := keyed
      events := integral.events
      joined := integral.joined
      labelDevices := fun label present => kept _ (integral.labelDevices label present)
      eventDevices := fun event present => kept _ (integral.eventDevices event present)
      rowEvents := integral.rowEvents
      rowLabels := integral.rowLabels }

theorem integral_insertCredential (integral : tables.Integral) {credential : DeviceCredential}
    (inserted : tables.insertCredential credential = some next) : next.Integral := by
  have keyed := keyed_insertCredential integral.keyed inserted
  unfold insertCredential at inserted
  split at inserted
  · cases inserted
  · cases inserted
    exact { integral with keyed := keyed }

theorem integral_insertLabel (integral : tables.Integral) {label : Label}
    (inserted : tables.insertLabel label = some next) : next.Integral := by
  have keyed := keyed_insertLabel integral.keyed inserted
  unfold insertLabel at inserted
  split at inserted
  · cases inserted
  · rename_i possible
    cases inserted
    have device : tables.HasDevice label.deviceId := by
      by_contra absent
      exact possible (Or.inr (Or.inl absent))
    refine { integral with keyed := keyed, labelDevices := ?_, rowLabels := ?_ }
    · intro other present
      rcases List.mem_append.mp present with old | new
      · exact integral.labelDevices other old
      · rw [List.mem_singleton.mp new]
        exact device
    · intro row present
      rw [List.map_append]
      exact List.mem_append_left _ (integral.rowLabels row present)

theorem integral_insertEvent (integral : tables.Integral) {event : EventRow}
    (inserted : tables.insertEvent event = some next) : next.Integral := by
  have keyed := keyed_insertEvent integral.keyed inserted
  unfold insertEvent at inserted
  split at inserted
  · cases inserted
  · rename_i possible
    cases inserted
    have absent : event.id ∉ tables.events.map EventRow.id :=
      fun present => possible (Or.inl present)
    have device : tables.HasDevice event.value.deviceId := by
      by_contra missing
      exact possible (Or.inr missing)
    refine { integral with
      keyed := keyed, events := ?_, eventDevices := ?_, rowEvents := ?_ }
    · exact nodup_map_concat integral.events absent
    · intro other present
      rcases List.mem_append.mp present with old | new
      · exact integral.eventDevices other old
      · rw [List.mem_singleton.mp new]
        exact device
    · intro row present
      rw [List.map_append]
      exact List.mem_append_left _ (integral.rowEvents row present)

theorem integral_insertEventLabel (integral : tables.Integral) {row : EventLabel}
    (inserted : tables.insertEventLabel row = some next) : next.Integral := by
  have keyed := keyed_insertEventLabel integral.keyed inserted
  unfold insertEventLabel at inserted
  split at inserted
  · cases inserted
  · rename_i possible
    cases inserted
    simp only [not_or, not_not, not_exists, not_and] at possible
    rcases possible with ⟨-, event, label, new⟩
    refine { integral with
      keyed := keyed, joined := ?_, rowEvents := ?_, rowLabels := ?_ }
    · apply nodup_map_concat integral.joined
      intro present
      rcases List.mem_map.mp present with ⟨other, stored, same⟩
      rw [Prod.mk.injEq] at same
      exact new other stored same.1 same.2
    · intro other present
      rcases List.mem_append.mp present with old | isRow
      · exact integral.rowEvents other old
      · rw [List.mem_singleton.mp isRow]
        exact event
    · intro other present
      rcases List.mem_append.mp present with old | isRow
      · exact integral.rowLabels other old
      · rw [List.mem_singleton.mp isRow]
        exact label

end Insert

/-! ## Deleting -/

section Delete

variable {tables : Tables}

/-- A key that is not among those of the removed rows is still among the others. -/
theorem mem_map_filter_of_kept {α : Type} {rows : List α} {key : α → Uuid} {kept : α → Bool}
    {id : Uuid} (present : id ∈ rows.map key)
    (unremoved : id ∉ (rows.filter fun row => !kept row).map key) :
    id ∈ (rows.filter kept).map key := by
  rcases List.mem_map.mp present with ⟨row, stored, rfl⟩
  by_cases isKept : kept row = true
  · exact List.mem_map_of_mem (List.mem_filter.mpr ⟨stored, isKept⟩)
  · apply absurd _ unremoved
    exact List.mem_map_of_mem (List.mem_filter.mpr ⟨stored, by simpa using isKept⟩)

theorem integral_keep (integral : tables.Integral) (events : EventRow → Bool)
    (labels : Label → Bool) : (tables.keep events labels).Integral where
  keyed := ⟨integral.keyed.devices, nodup_map_filter integral.keyed.labels _⟩
  events := nodup_map_filter integral.events _
  joined := nodup_map_filter integral.joined _
  labelDevices := by
    intro label present
    exact integral.labelDevices label (List.mem_of_mem_filter present)
  eventDevices := by
    intro event present
    exact integral.eventDevices event (List.mem_of_mem_filter present)
  rowEvents := by
    intro row present
    rcases List.mem_filter.mp present with ⟨stored, unremoved⟩
    exact mem_map_filter_of_kept (integral.rowEvents row stored) (of_decide_eq_true unremoved).1
  rowLabels := by
    intro row present
    rcases List.mem_filter.mp present with ⟨stored, unremoved⟩
    exact mem_map_filter_of_kept (integral.rowLabels row stored) (of_decide_eq_true unremoved).2

theorem integral_deleteLabel (integral : tables.Integral) (id : Uuid) :
    (tables.deleteLabel id).Integral :=
  integral_keep integral _ _

theorem integral_deleteDevice (integral : tables.Integral) (id : Uuid) :
    (tables.deleteDevice id).Integral := by
  have kept : ∀ other, tables.HasDevice other → other ≠ id →
      (tables.deleteDevice id).HasDevice other := by
    intro other present different
    rw [HasDevice, map_id_deleteDevice]
    exact List.mem_filter.mpr ⟨present, decide_eq_true different⟩
  have rest := integral_keep integral (fun event => event.value.deviceId ≠ id)
    (fun label => label.deviceId ≠ id)
  refine { rest with
    keyed := keyed_deleteDevice integral.keyed id, labelDevices := ?_, eventDevices := ?_ }
  · intro label present
    rcases List.mem_filter.mp present with ⟨stored, different⟩
    exact kept _ (integral.labelDevices label stored) (of_decide_eq_true different)
  · intro event present
    rcases List.mem_filter.mp present with ⟨stored, different⟩
    exact kept _ (integral.eventDevices event stored) (of_decide_eq_true different)

end Delete

/-! ## The labels of an event -/

/-- The row of a stored key. -/
theorem filter_eq_singleton {α : Type} {rows : List α} {key : α → Uuid}
    (distinct : (rows.map key).Nodup) {id : Uuid} (present : id ∈ rows.map key) :
    ∃ row, row ∈ rows ∧ key row = id ∧ (rows.filter fun row => key row = id) = [row] := by
  have count : (rows.filter fun row => key row = id).length = 1 := by
    rw [length_filter_eq_count]
    exact List.count_eq_one_of_mem distinct present
  rcases List.length_eq_one_iff.mp count with ⟨row, single⟩
  have found : row ∈ rows.filter fun row => key row = id := by
    rw [single]
    exact List.mem_cons_self
  rcases List.mem_filter.mp found with ⟨stored, same⟩
  exact ⟨row, stored, of_decide_eq_true same, single⟩

/-- The join meets one label for each row of the event. -/
theorem map_id_labelsOf {tables : Tables} (integral : tables.Integral) (event : Uuid) :
    (tables.labelsOf event).map Label.id =
      (tables.eventsLabels.filter fun row => row.eventId = event).map EventLabel.labelId := by
  have one : ∀ row ∈ tables.eventsLabels.filter fun row => row.eventId = event,
      ((tables.labels.filter fun label => label.id = row.labelId).map Label.id) =
        [row.labelId] := by
    intro row present
    rcases filter_eq_singleton integral.keyed.labels
      (integral.rowLabels row (List.mem_of_mem_filter present)) with ⟨label, -, same, single⟩
    rw [single, List.map_singleton, same]
  rw [labelsOf, List.map_flatMap, List.flatMap_congr one]
  exact List.map_eq_flatMap.symm

theorem nodup_labelsOf {tables : Tables} (integral : tables.Integral) (event : Uuid) :
    ((tables.labelsOf event).map Label.id).Nodup := by
  rw [map_id_labelsOf integral]
  apply List.Nodup.map_on
  · intro left leftPresent right rightPresent same
    have leftEvent := of_decide_eq_true (List.mem_filter.mp leftPresent).2
    have rightEvent := of_decide_eq_true (List.mem_filter.mp rightPresent).2
    apply List.inj_on_of_nodup_map integral.joined (List.mem_of_mem_filter leftPresent)
      (List.mem_of_mem_filter rightPresent)
    rw [leftEvent, rightEvent, same]
  · exact List.Nodup.filter _ (List.Nodup.of_map _ integral.joined)

/-- An event that is not stored has no labels. -/
theorem labelsOf_of_absent {tables : Tables} (integral : tables.Integral) {event : Uuid}
    (absent : event ∉ tables.events.map EventRow.id) : tables.labelsOf event = [] := by
  have none : (tables.eventsLabels.filter fun row => row.eventId = event) = [] := by
    rw [List.filter_eq_nil_iff]
    intro row present same
    exact absent (of_decide_eq_true same ▸ integral.rowEvents row present)
  rw [labelsOf, none, List.flatMap_nil]

end Bug.Db.Tables
