import Bug.Frontend.System

/-!
# Events that list a deleted label

Creating a label lists it in its device and in the event it was created for.
Deleting it takes it off its device only: no reducer ever takes a label off an
event.  So the events of the store list a label after its deletion exactly when
an earlier step has linked it to one of them.
-/

namespace Bug.Frontend

open Bug.Db
open Bug.Transition

namespace EventEntity

/-- What creating a label does to its event. -/
def link (label : Uuid) (event : EventEntity) : EventEntity :=
  match event.labels with
  | .array ids => event.setLabels (.array (uniq (ids ++ [label])))
  | .indexed _ => event

theorem mem_ids_link_iff {event : EventEntity} {label other : Uuid} :
    other ∈ (event.link label).labels.ids ↔
      other ∈ event.labels.ids ∨ (other = label ∧ ∃ ids, event.labels = .array ids) := by
  unfold link
  split
  · rename_i ids iterable
    change other ∈ uniq (ids ++ [label]) ↔ _
    rw [mem_uniq_iff, List.mem_append, List.mem_singleton, iterable]
    simp [EventLabels.ids]
  · rename_i ids rekeyed
    rw [rekeyed]
    simp

end EventEntity

namespace Store

/-- No event lists the label. -/
def Unlisted (store : Store) (label : Uuid) : Prop :=
  ∀ id event, store.event.entities.lookup id = some event → label ∉ event.labels.ids

/-- The response lists the label in an event of the store: it is created for an
event whose labels can be iterated, or it comes with a new event. -/
def Links (store : Store) (label : Uuid) : Response → Prop
  | .createLabel _ event (.ok row) =>
      row.id = label ∧ ∃ entity ids, store.event.entities.lookup event = some entity ∧
        entity.labels = .array ids
  | .createLabel _ _ (.error _) => False
  | .fetchEvents (.ok rows) =>
      ∃ id entity, (normalizeEvents rows).lookup id = some entity ∧
        store.event.entities.lookup id = none ∧ label ∈ entity.labels.ids
  | .fetchEvents (.error _) => False
  | .fetchDevices _ => False
  | .createDevice _ => False
  | .deleteDevice _ _ => False
  | .fetchLabels _ => False
  | .deleteLabel _ _ => False

/-! ## What the sagas leave of the events -/

theorem lookup_event_createLabel (store : Store) (device event : Uuid) (row : Label) (id : Uuid) :
    (store.createLabel device event (.ok row)).event.entities.lookup id =
      if id = event then (store.event.entities.lookup id).map (.link row.id)
      else store.event.entities.lookup id := by
  have listing : store.event.addEventsLabels [(event, [(row.id, .ofRow row)])] =
      (store.event.listing (event, [(row.id, .ofRow row)])).map fun update =>
        { store.event with entities := store.event.entities.replaceOne update.1 update.2 } := by
    unfold EventSlice.addEventsLabels
    rw [List.mapM_cons, List.mapM_nil]
    cases store.event.listing (event, [(row.id, .ofRow row)]) with
    | none => rfl
    | some update => rfl
  unfold createLabel
  simp only [listing, EventSlice.listing, EventSlice.labelsOf]
  cases found : store.event.entities.lookup event with
  | none =>
      change (store.event.entities.replaceOne event _).lookup id = _
      rw [Entities.lookup_replaceOne]
      split
      · rename_i same
        rw [same, found]
        rfl
      · rfl
  | some entity =>
      cases labels : entity.labels with
      | array ids =>
          simp only [Option.map_some, labels]
          change (store.event.entities.replaceOne event _).lookup id = _
          rw [Entities.lookup_replaceOne]
          split
          · rename_i same
            rw [same, found, Option.map_some, Option.map_some, EventEntity.link, labels]
            rfl
          · rfl
      | indexed ids =>
          simp only [Option.map_some, labels, Option.map_none]
          split
          · rename_i same
            rw [same, found, Option.map_some, EventEntity.link, labels]
          · rfl

theorem lookup_event_fetchEvents (store : Store) (rows : List (EventRow × List Uuid)) (id : Uuid) :
    (store.fetchEvents (.ok rows)).event.entities.lookup id =
      (store.event.entities.lookup id).or ((normalizeEvents rows).lookup id) :=
  Entities.lookup_addMany store.event.entities (normalizeEvents rows).entries id

theorem unlisted_createLabel_iff {store : Store} {device event : Uuid} {row : Label}
    {label : Uuid} :
    (store.createLabel device event (.ok row)).Unlisted label ↔
      store.Unlisted label ∧ ¬ store.Links label (.createLabel device event (.ok row)) := by
  constructor
  · intro unlisted
    constructor
    · intro id entity found listed
      by_cases same : id = event
      · apply unlisted id (entity.link row.id)
        · rw [lookup_event_createLabel, if_pos same, found]
          rfl
        · exact EventEntity.mem_ids_link_iff.mpr (Or.inl listed)
      · apply unlisted id entity _ listed
        rw [lookup_event_createLabel, if_neg same]
        exact found
    · rintro ⟨rfl, entity, ids, found, iterable⟩
      apply unlisted event (entity.link row.id)
      · rw [lookup_event_createLabel, if_pos rfl, found]
        rfl
      · exact EventEntity.mem_ids_link_iff.mpr (Or.inr ⟨rfl, ids, iterable⟩)
  · rintro ⟨unlisted, unlinked⟩ id entity found listed
    rw [lookup_event_createLabel] at found
    split at found
    · rename_i same
      rcases Option.map_eq_some_iff.mp found with ⟨stored, storedFound, rfl⟩
      rcases EventEntity.mem_ids_link_iff.mp listed with old | ⟨new, ids, iterable⟩
      · exact unlisted id stored storedFound old
      · exact unlinked ⟨new.symm, stored, ids, same ▸ storedFound, iterable⟩
    · exact unlisted id entity found listed

theorem unlisted_fetchEvents_iff {store : Store} {rows : List (EventRow × List Uuid)}
    {label : Uuid} :
    (store.fetchEvents (.ok rows)).Unlisted label ↔
      store.Unlisted label ∧ ¬ store.Links label (.fetchEvents (.ok rows)) := by
  constructor
  · intro unlisted
    constructor
    · intro id entity found
      apply unlisted id entity
      rw [lookup_event_fetchEvents, found]
      rfl
    · rintro ⟨id, entity, fetched, absent, listed⟩
      apply unlisted id entity _ listed
      rw [lookup_event_fetchEvents, absent]
      exact fetched
  · rintro ⟨unlisted, unlinked⟩ id entity found listed
    rw [lookup_event_fetchEvents] at found
    rcases Option.or_eq_some_iff.mp found with old | ⟨absent, new⟩
    · exact unlisted id entity old listed
    · exact unlinked ⟨id, entity, new, absent, listed⟩

/-- The other sagas leave the events alone. -/
theorem unlisted_receive_iff {store : Store} {response : Response} {label : Uuid} :
    (store.receive response).Unlisted label ↔
      store.Unlisted label ∧ ¬ store.Links label response := by
  have untouched : ∀ {next : Store}, next.event.entities = store.event.entities →
      (next.Unlisted label ↔ store.Unlisted label ∧ ¬ False) := by
    intro next same
    rw [Unlisted, same]
    simp [Unlisted]
  cases response with
  | fetchDevices result =>
      cases result with
      | error error => exact untouched rfl
      | ok rows => exact untouched rfl
  | createDevice result =>
      cases result with
      | error error => exact untouched rfl
      | ok created => exact untouched rfl
  | deleteDevice id result =>
      cases result with
      | error error => exact untouched rfl
      | ok done => exact untouched rfl
  | fetchLabels result =>
      cases result with
      | error error => exact untouched rfl
      | ok rows => exact untouched rfl
  | createLabel device event result =>
      cases result with
      | error error => exact untouched rfl
      | ok row => exact unlisted_createLabel_iff
  | deleteLabel deleted result =>
      cases result with
      | error error => exact untouched rfl
      | ok done => exact untouched rfl
  | fetchEvents result =>
      cases result with
      | error error => exact untouched rfl
      | ok rows => exact unlisted_fetchEvents_iff

/-- An announced event has no labels. -/
theorem unlisted_subscribeNewEvent_iff {store : Store} {row : EventRow} {label : Uuid} :
    (store.subscribeNewEvent row).Unlisted label ↔ store.Unlisted label := by
  constructor
  · intro unlisted id entity found
    apply unlisted id entity
    change (store.event.entities.addOne row.id (.ofRow row [])).lookup id = some entity
    rw [Entities.lookup_addOne, found]
    rfl
  · intro unlisted
    apply Entities.forall_addOne unlisted
    exact List.not_mem_nil

end Store

namespace World

/-- The step links the label to an event of the store. -/
def Links (world : World) (label : Uuid) : Action → Prop
  | .receive index => ∃ response, world.responses[index]? = some response ∧
      world.store.Links label response
  | .dispatch _ => False
  | .serve _ _ => False
  | .fail _ _ => False
  | .lose _ _ => False
  | .announce _ => False
  | .execute _ => False

/-- A label stays unlisted exactly when the step does not link it. -/
theorem unlisted_transition_iff {world next : World} {action : Action} {label : Uuid}
    (transition : Transition world action next) :
    next.store.Unlisted label ↔ world.store.Unlisted label ∧ ¬ world.Links label action := by
  cases transition with
  | dispatched dispatchable =>
      rw [Store.Unlisted, (Store.entities_dispatch _ _).2.2]
      simp [Store.Unlisted, Links]
  | served found unused => simp [Links]
  | failed found => simp [Links]
  | lost found => simp [Links]
  | received found =>
      rw [Store.unlisted_receive_iff]
      simp [Links, found]
  | announced found =>
      rw [Store.unlisted_subscribeNewEvent_iff]
      simp [Links]
  | executed executed unused => simp [Links]

theorem unlisted_iff {today : Int} {actions : List Action} {world : World} {label : Uuid}
    (reached : follow step (initial today) actions = some world) :
    world.store.Unlisted label ↔
      Throughout step (fun state action => ¬ state.Links label action) (initial today) actions := by
  have kept : ∀ state action next, step state action = some next →
      (next.store.Unlisted label ↔
        state.store.Unlisted label ∧ ¬ state.Links label action) := by
    intro state action next stepped
    exact unlisted_transition_iff (transition_of_step stepped)
  rw [follow_iff_throughout kept reached]
  apply and_iff_right
  intro id event found
  cases found

end World

/-! ## Labels that are undefined -/

namespace Store

namespace SelectedEvent

/-- No label of the event is undefined. -/
def Defined (selected : SelectedEvent) : Prop :=
  match selected.labels with
  | .labels entities => none ∉ entities
  | .raw _ => True

end SelectedEvent

/-- The labels of the events that can be iterated are there. -/
def Resolved (store : Store) : Prop :=
  ∀ id event, store.event.entities.lookup id = some event → ∀ ids, event.labels = .array ids →
    ∀ label ∈ ids, ∃ entity, store.label.entities.lookup label = some entity

theorem defined_of_resolved {store : Store} (resolved : store.Resolved) :
    ∀ selected ∈ store.selectEvents, selected.Defined := by
  intro selected present
  rcases List.mem_map.mp present with ⟨entry, sorted, rfl⟩
  have found := Entities.mem_entries_iff.mp ((List.mem_insertionSort _).mp sorted)
  unfold SelectedEvent.Defined denormalize
  cases labels : entry.2.labels with
  | array ids =>
      intro undefined
      rcases List.mem_map.mp undefined with ⟨label, listed, missing⟩
      rcases resolved entry.1 entry.2 found ids labels label listed with ⟨entity, stored⟩
      rw [stored] at missing
      cases missing
  | indexed ids => exact trivial

section Resolved

variable {store : Store}

theorem Resolved.mono (resolved : store.Resolved) {next : Store}
    (sameEvents : next.event.entities = store.event.entities)
    (kept : ∀ label entity, store.label.entities.lookup label = some entity →
      next.label.entities.lookup label = some entity) : next.Resolved := by
  intro id event found ids iterable label listed
  rw [sameEvents] at found
  rcases resolved id event found ids iterable label listed with ⟨entity, stored⟩
  exact ⟨entity, kept label entity stored⟩

theorem Resolved.of_same (resolved : store.Resolved) {next : Store}
    (sameEvents : next.event.entities = store.event.entities)
    (sameLabels : next.label.entities = store.label.entities) : next.Resolved := by
  apply resolved.mono sameEvents
  intro label entity stored
  rw [sameLabels]
  exact stored

theorem label_createLabel (store : Store) (device event : Uuid) (row : Label) :
    (store.createLabel device event (.ok row)).label.entities =
      store.label.entities.addOne row.id (.ofRow row) := by
  unfold createLabel
  simp only
  split
  · rfl
  · rfl

/-- The label is there before an event lists it. -/
theorem resolved_createLabel (resolved : store.Resolved) (device event : Uuid) (row : Label) :
    (store.createLabel device event (.ok row)).Resolved := by
  intro id entity found ids iterable label listed
  rw [label_createLabel]
  have kept : ∀ other value, store.label.entities.lookup other = some value →
      (store.label.entities.addOne row.id (.ofRow row)).lookup other = some value := by
    intro other value stored
    rw [Entities.lookup_addOne, stored]
    rfl
  have origin : (∃ stored storedIds, store.event.entities.lookup id = some stored ∧
      stored.labels = .array storedIds ∧ label ∈ storedIds) ∨ label = row.id := by
    rw [lookup_event_createLabel] at found
    split at found
    · rcases Option.map_eq_some_iff.mp found with ⟨stored, storedFound, rfl⟩
      cases storedLabels : stored.labels with
      | array storedIds =>
          have member : label ∈ (stored.link row.id).labels.ids := by
            rw [iterable]
            exact listed
          rcases EventEntity.mem_ids_link_iff.mp member with old | ⟨new, _⟩
          · rw [storedLabels] at old
            exact Or.inl ⟨stored, storedIds, storedFound, storedLabels, old⟩
          · exact Or.inr new
      | indexed storedIds =>
          rw [EventEntity.link, storedLabels] at iterable
          simp only [storedLabels, reduceCtorEq] at iterable
    · exact Or.inl ⟨entity, ids, found, iterable, listed⟩
  rcases origin with ⟨stored, storedIds, storedFound, storedIterable, storedListed⟩ | rfl
  · rcases resolved id stored storedFound storedIds storedIterable label storedListed with
      ⟨value, valueFound⟩
    exact ⟨value, kept label value valueFound⟩
  · exact Entities.exists_lookup_addOne _ _ _

/-- The labels of a response cannot be iterated unless there are none. -/
theorem ids_eq_nil_of_ofRow {row : EventRow} {labels ids : List Uuid}
    (iterable : (EventEntity.ofRow row labels).labels = .array ids) : ids = [] := by
  cases labels with
  | nil =>
      cases iterable
      rfl
  | cons label labels => cases iterable

theorem resolved_fetchEvents (resolved : store.Resolved) (rows : List (EventRow × List Uuid)) :
    (store.fetchEvents (.ok rows)).Resolved := by
  have fetched : ∀ id event, (normalizeEvents rows).lookup id = some event →
      ∀ ids, event.labels = .array ids → ids = [] := by
    apply Entities.forall_ofList
    intro entry present
    rcases List.mem_map.mp present with ⟨row, _, rfl⟩
    intro ids iterable
    exact ids_eq_nil_of_ofRow iterable
  intro id event found ids iterable label listed
  rw [lookup_event_fetchEvents] at found
  rcases Option.or_eq_some_iff.mp found with old | ⟨_, new⟩
  · exact resolved id event old ids iterable label listed
  · rw [fetched id event new ids iterable] at listed
    cases listed

theorem resolved_deleteLabel (resolved : store.Resolved) {label : Uuid × LabelEntity}
    (unlisted : store.Unlisted label.1) : (store.deleteLabel label (.ok ())).Resolved := by
  intro id event found ids iterable other listed
  have different : other ≠ label.1 := by
    rintro rfl
    apply unlisted id event found
    rw [iterable]
    exact listed
  rcases resolved id event found ids iterable other listed with ⟨entity, stored⟩
  refine ⟨entity, ?_⟩
  change (store.label.entities.removeOne label.1).lookup other = some entity
  rw [Entities.lookup_removeOne, if_neg different]
  exact stored

theorem resolved_receive (resolved : store.Resolved) {response : Response}
    (unlisted : ∀ label, response = .deleteLabel label (.ok ()) → store.Unlisted label.1) :
    (store.receive response).Resolved := by
  cases response with
  | fetchDevices result =>
      cases result with
      | error error => exact resolved.of_same rfl rfl
      | ok rows => exact resolved.of_same rfl rfl
  | createDevice result =>
      cases result with
      | error error => exact resolved.of_same rfl rfl
      | ok created => exact resolved.of_same rfl rfl
  | deleteDevice id result =>
      cases result with
      | error error => exact resolved.of_same rfl rfl
      | ok done => exact resolved.of_same rfl rfl
  | fetchLabels result =>
      cases result with
      | error error => exact resolved.of_same rfl rfl
      | ok rows =>
          refine resolved.mono rfl ?_
          intro label entity stored
          exact Entities.lookup_addMany_of_lookup stored _
  | createLabel device event result =>
      cases result with
      | error error => exact resolved.of_same rfl rfl
      | ok row => exact resolved_createLabel resolved device event row
  | deleteLabel label result =>
      cases result with
      | error error => exact resolved.of_same rfl rfl
      | ok done => exact resolved_deleteLabel resolved (unlisted label rfl)
  | fetchEvents result =>
      cases result with
      | error error => exact resolved.of_same rfl rfl
      | ok rows => exact resolved_fetchEvents resolved rows

theorem resolved_subscribeNewEvent (resolved : store.Resolved) (row : EventRow) :
    (store.subscribeNewEvent row).Resolved := by
  apply Entities.forall_addOne resolved
  intro ids iterable label listed
  rw [ids_eq_nil_of_ofRow iterable] at listed
  cases listed

end Resolved

end Store

namespace World

/-- No event lists a label whose deletion is confirmed. -/
def Spares (world : World) (action : Action) : Prop :=
  ∀ index label, action = .receive index →
    world.responses[index]? = some (.deleteLabel label (.ok ())) → world.store.Unlisted label.1

theorem resolved_transition {world next : World} {action : Action}
    (resolved : world.store.Resolved) (spares : world.Spares action)
    (transition : Transition world action next) : next.store.Resolved := by
  cases transition with
  | dispatched dispatchable =>
      rcases Store.entities_dispatch world.store _ with ⟨_, sameLabels, sameEvents⟩
      exact resolved.of_same sameEvents sameLabels
  | served found unused => exact resolved
  | failed found => exact resolved
  | lost found => exact resolved
  | received found =>
      rename_i index response
      apply Store.resolved_receive resolved
      rintro label rfl
      exact spares index label rfl found
  | announced found => exact Store.resolved_subscribeNewEvent resolved _
  | executed executed unused => exact resolved

/-- When the deletion of a label is confirmed, no event lists the label if and
only if no step of the run has linked it; and as long as this holds of every
confirmed deletion, no selected event has an undefined label. -/
theorem unlisted_deleteLabel_iff {today : Int} {actions : List Action} {world : World}
    (reached : follow step (initial today) actions = some world) :
    (∀ index label next, world.responses[index]? = some (.deleteLabel label (.ok ())) →
      step world (.receive index) = some next →
        (next.store.Unlisted label.1 ↔
          Throughout step (fun state action => ¬ state.Links label.1 action) (initial today)
            actions)) ∧
    (Throughout step Spares (initial today) actions →
      ∀ selected ∈ world.store.selectEvents, selected.Defined) := by
  constructor
  · intro index label next answered stepped
    rw [unlisted_transition_iff (transition_of_step stepped), unlisted_iff reached]
    simp [Links, answered, Store.Links]
  · intro throughout
    have init : (initial today).store.Resolved := by
      intro id event found
      cases found
    have preserved : ∀ state action next, state.store.Resolved → state.Spares action →
        step state action = some next → next.store.Resolved := by
      intro state action next resolved spares stepped
      exact resolved_transition resolved spares (transition_of_step stepped)
    exact Store.defined_of_resolved (follow_invariant preserved init throughout reached)

/-- A label that was only ever fetched is listed in no event after its deletion. -/
theorem unlisted_deleteLabel_fetched :
    let generated : Generated := ⟨.ofNat 0, .ofNat 0, 0⟩
    let label : Label :=
      ⟨.ofNat 2, .luminosity, "bright", "", .luminosityDifference (.gt 100), .ofNat 1⟩
    let actions : List Action :=
      [.execute (.insertDevice ⟨.ofNat 1, "bug", ""⟩), .execute (.insertLabel label),
        .dispatch .fetchLabels, .serve 0 generated, .receive 0,
        .dispatch (.deleteLabel (label.id, .ofRow label)), .serve 0 generated]
    ∃ world next, follow step (initial 0) actions = some world ∧
      world.responses[0]? = some (.deleteLabel (label.id, .ofRow label) (.ok ())) ∧
      step world (.receive 0) = some next ∧ next.store.Unlisted label.id ∧
      Throughout step (fun state action => ¬ state.Links label.id action) (initial 0) actions := by
  intro generated label actions
  have answer : ∃ world, follow step (initial 0) actions = some world ∧
      world.responses[0]? = some (.deleteLabel (label.id, .ofRow label) (.ok ())) ∧
      ∃ next, step world (.receive 0) = some next ∧ next.store.event.entities.entries = [] :=
    ⟨_, rfl, rfl, _, rfl, rfl⟩
  rcases answer with ⟨world, reached, answered, next, stepped, noEvents⟩
  have unlisted : next.store.Unlisted label.id := by
    intro id event found
    rw [Entities.lookup, noEvents] at found
    cases found
  refine ⟨world, next, reached, answered, stepped, unlisted, ?_⟩
  exact ((unlisted_deleteLabel_iff reached).1 0 _ next answered stepped).mp unlisted

/-- The label created for an event and deleted again is still listed in it, and
selecting the event finds no such label. -/
theorem listed_deleteLabel_created :
    let event : EventRow :=
      ⟨.ofNat 3, ⟨.luminosity, .luminosity 0 100, ⟨0, 0⟩, ⟨1, 0⟩, .ofNat 1⟩⟩
    let label : Label :=
      ⟨.ofNat 2, .luminosity, "bright", "", .luminosityDifference (.gt 100), .ofNat 1⟩
    let generated : Generated := ⟨label.id, .ofNat 0, 0⟩
    ∃ world next,
      follow step (initial 0)
        [.execute (.insertDevice ⟨.ofNat 1, "bug", ""⟩), .execute (.insertEvent event),
          .dispatch .fetchDevices, .serve 0 generated, .receive 0,
          .dispatch .fetchEvents, .serve 0 generated, .receive 0,
          .dispatch (.createLabel ⟨.luminosity, "bright", "", label.rule, .ofNat 1⟩ event.id),
          .serve 0 generated, .receive 0,
          .dispatch (.deleteLabel (label.id, .ofRow label)), .serve 0 generated] = some world ∧
      world.responses[0]? = some (.deleteLabel (label.id, .ofRow label) (.ok ())) ∧
      step world (.receive 0) = some next ∧
      ¬ next.store.Unlisted label.id ∧
      ∃ selected ∈ next.store.selectEvents, ¬ selected.Defined := by
  intro event label generated
  refine ⟨_, _, rfl, rfl, rfl, ?_, ?_⟩
  · intro unlisted
    exact unlisted event.id _ rfl List.mem_cons_self
  · refine ⟨_, List.mem_cons_self, ?_⟩
    intro defined
    exact defined List.mem_cons_self

end World

end Bug.Frontend
