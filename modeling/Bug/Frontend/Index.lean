import Bug.Frontend.System

/-!
# The labels of the devices

The labels that the devices list are an index of the label slice: no label is
listed twice, and each listed label is there and belongs to the device.  The
index holds in every reachable world, because a key names the same label
wherever it is met: in the database, in a response that arrives late, or in the
store.
-/

namespace Bug.Frontend

open Bug.Db
open Bug.Transition

/-- A device lists labels of its own, none twice. -/
def Listing (labels : Entities Uuid LabelEntity) (id : Uuid) (device : DeviceEntity) : Prop :=
  device.labels.Nodup ∧
    ∀ label ∈ device.labels, ∃ entity, labels.lookup label = some entity ∧ entity.device = id

namespace Store

def Indexed (store : Store) : Prop :=
  ∀ id device, store.device.entities.lookup id = some device →
    Listing store.label.entities id device

end Store

/-! ## The reducers of the device slice -/

theorem listing_of_labels_eq_nil {labels : Entities Uuid LabelEntity} {id : Uuid}
    {device : DeviceEntity} (none : device.labels = []) : Listing labels id device := by
  unfold Listing
  rw [none]
  constructor
  · exact List.nodup_nil
  · intro label present
    cases present

theorem listing_mono {labels others : Entities Uuid LabelEntity} {id : Uuid} {device : DeviceEntity}
    (kept : ∀ label entity, labels.lookup label = some entity → others.lookup label = some entity)
    (listing : Listing labels id device) : Listing others id device := by
  constructor
  · exact listing.1
  · intro label present
    rcases listing.2 label present with ⟨entity, found, own⟩
    exact ⟨entity, kept label entity found, own⟩

namespace DeviceSlice

theorem exists_device_of_mem_labelsOf {slice : DeviceSlice} {id label : Uuid}
    (present : label ∈ slice.labelsOf id) :
    ∃ device, slice.entities.lookup id = some device ∧ label ∈ device.labels := by
  unfold labelsOf at present
  cases found : slice.entities.lookup id with
  | none =>
      rw [found] at present
      cases present
  | some device =>
      rw [found] at present
      exact ⟨device, rfl, present⟩

/-- Listing labels in the devices they belong to keeps the index. -/
theorem listing_addDevicesLabels {slice : DeviceSlice} {payload : LabelGroups}
    {labels : Entities Uuid LabelEntity}
    (indexed : ∀ id device, slice.entities.lookup id = some device → Listing labels id device)
    (grouped : ∀ group ∈ payload, ∀ label ∈ group.2,
      ∃ entity, labels.lookup label.1 = some entity ∧ entity.device = group.1) :
    ∀ id device, (addDevicesLabels slice payload).entities.lookup id = some device →
      Listing labels id device := by
  apply Entities.forall_updateMany indexed
  intro update present device _
  rcases List.mem_map.mp present with ⟨group, member, rfl⟩
  constructor
  · exact nodup_uniq _
  · intro label listed
    rcases List.mem_append.mp (mem_uniq_iff.mp listed) with old | new
    · rcases exists_device_of_mem_labelsOf old with ⟨stored, found, storedListed⟩
      exact (indexed _ stored found).2 label storedListed
    · rcases List.mem_map.mp new with ⟨added, addedMember, rfl⟩
      exact grouped group member added addedMember

/-- A label dropped from its device is listed nowhere. -/
theorem labels_deleteDevicesLabels {slice : DeviceSlice} {label : Uuid × LabelEntity}
    {labels : Entities Uuid LabelEntity}
    (indexed : ∀ id device, slice.entities.lookup id = some device → Listing labels id device)
    (own : ∀ entity, labels.lookup label.1 = some entity → entity.device = label.2.device)
    {id : Uuid} {device : DeviceEntity}
    (found : (deleteDevicesLabels slice [(label.2.device, [label])]).entities.lookup id =
      some device) :
    device.labels.Nodup ∧ ∀ other ∈ device.labels, other ≠ label.1 ∧
      ∃ entity, labels.lookup other = some entity ∧ entity.device = id := by
  change (slice.entities.updateOne label.2.device
    (slice.unlisting (label.2.device, [label])).2).lookup id = some device at found
  rw [Entities.lookup_updateOne] at found
  split at found
  · rename_i same
    rcases Option.map_eq_some_iff.mp found with ⟨stored, storedFound, rfl⟩
    have current : slice.labelsOf label.2.device = stored.labels := by
      rw [labelsOf, ← same, storedFound]
      rfl
    have storedListing := indexed id stored storedFound
    change ((slice.labelsOf label.2.device).filter _).Nodup ∧
      ∀ other ∈ (slice.labelsOf label.2.device).filter _, _
    rw [current]
    constructor
    · exact storedListing.1.filter _
    · intro other present
      rcases List.mem_filter.mp present with ⟨member, kept⟩
      constructor
      · simpa using kept
      · exact storedListing.2 other member
  · rename_i different
    have storedListing := indexed id device found
    constructor
    · exact storedListing.1
    · intro other present
      rcases storedListing.2 other present with ⟨entity, entityFound, entityOwn⟩
      constructor
      · rintro rfl
        exact different (entityOwn.symm.trans (own entity entityFound))
      · exact ⟨entity, entityFound, entityOwn⟩

/-- Dropping a label from its device keeps the index, also without the label. -/
theorem listing_deleteDevicesLabels {slice : DeviceSlice} {label : Uuid × LabelEntity}
    {labels : Entities Uuid LabelEntity}
    (indexed : ∀ id device, slice.entities.lookup id = some device → Listing labels id device)
    (own : ∀ entity, labels.lookup label.1 = some entity → entity.device = label.2.device) :
    ∀ id device,
      (deleteDevicesLabels slice [(label.2.device, [label])]).entities.lookup id = some device →
        Listing (labels.removeOne label.1) id device := by
  intro id device found
  rcases labels_deleteDevicesLabels indexed own found with ⟨nodup, listed⟩
  constructor
  · exact nodup
  · intro other present
    rcases listed other present with ⟨kept, entity, entityFound, entityOwn⟩
    refine ⟨entity, ?_, entityOwn⟩
    rw [Entities.lookup_removeOne, if_neg kept]
    exact entityFound

end DeviceSlice

theorem mem_of_mem_groupByDeviceId {labels : List (Uuid × LabelEntity)}
    {group : Uuid × List (Uuid × LabelEntity)} (present : group ∈ groupByDeviceId labels)
    {label : Uuid × LabelEntity} (member : label ∈ group.2) :
    label ∈ labels ∧ label.2.device = group.1 := by
  rcases List.mem_map.mp present with ⟨device, _, rfl⟩
  rcases List.mem_filter.mp member with ⟨listed, own⟩
  exact ⟨listed, of_decide_eq_true own⟩

/-! ## Keys that name one label -/

/-- A key names one label. -/
def Determined (issued : List Label) : Prop :=
  ∀ label ∈ issued, ∀ other ∈ issued, label.id = other.id → label = other

/-- A label of the store that was once a row of the database. -/
def Known (issued : List Label) (label : Uuid × LabelEntity) : Prop :=
  ∃ row ∈ issued, label = (row.id, .ofRow row)

theorem known_mono {issued others : List Label} (included : issued ⊆ others)
    {label : Uuid × LabelEntity} (known : Known issued label) : Known others label := by
  rcases known with ⟨row, present, same⟩
  exact ⟨row, included present, same⟩

theorem eq_of_known {issued : List Label} (determined : Determined issued) {id : Uuid}
    {left right : LabelEntity} (leftKnown : Known issued (id, left))
    (rightKnown : Known issued (id, right)) : left = right := by
  rcases leftKnown with ⟨row, present, same⟩
  rcases rightKnown with ⟨other, otherPresent, otherSame⟩
  cases same
  rcases Prod.mk.inj otherSame with ⟨sameKey, rfl⟩
  rw [determined row present other otherPresent sameKey]

theorem known_of_normalizeLabels {issued rows : List Label} (known : ∀ row ∈ rows, row ∈ issued) :
    ∀ label ∈ (normalizeLabels rows).entries, Known issued label := by
  have every : ∀ id entity, (normalizeLabels rows).lookup id = some entity →
      Known issued (id, entity) := by
    apply Entities.forall_ofList
    intro entry present
    rcases List.mem_map.mp present with ⟨row, rowPresent, rfl⟩
    exact ⟨row, known row rowPresent, rfl⟩
  intro label present
  exact every label.1 label.2 (Entities.mem_entries_iff.mp present)

/-- What is known of a response: its labels are rows of the database. -/
def Response.Sound (issued : List Label) : Response → Prop
  | .fetchLabels (.ok rows) => ∀ row ∈ rows, row ∈ issued
  | .fetchLabels (.error _) => True
  | .createLabel device _ (.ok row) => row ∈ issued ∧ row.deviceId = device
  | .createLabel _ _ (.error _) => True
  | .deleteLabel label _ => Known issued label
  | .fetchDevices _ => True
  | .createDevice _ => True
  | .deleteDevice _ _ => True
  | .fetchEvents _ => True

def Request.Sound (issued : List Label) : Request → Prop
  | .deleteLabel label => Known issued label
  | .createLabel _ _ => True
  | .fetchDevices => True
  | .createDevice _ => True
  | .deleteDevice _ => True
  | .fetchLabels => True
  | .fetchEvents => True

namespace Store

/-- The store knows its labels and indexes them. -/
structure Sound (issued : List Label) (store : Store) : Prop where
  known : ∀ id entity, store.label.entities.lookup id = some entity → Known issued (id, entity)
  indexed : store.Indexed

section Sagas

variable {issued : List Label} {store : Store}

theorem sound_dispatch (sound : store.Sound issued) (request : Request) :
    (store.dispatch request).Sound issued := by
  rcases entities_dispatch store request with ⟨sameDevices, sameLabels, _⟩
  constructor
  · rw [sameLabels]
    exact sound.known
  · rw [Indexed, sameDevices, sameLabels]
    exact sound.indexed

theorem sound_createDevice (sound : store.Sound issued)
    (result : Except String (Device × String)) : (store.createDevice result).Sound issued := by
  cases result with
  | error error => exact ⟨sound.known, sound.indexed⟩
  | ok created =>
      constructor
      · exact sound.known
      · apply Entities.forall_addOne sound.indexed
        exact listing_of_labels_eq_nil rfl

theorem sound_fetchDevices (sound : store.Sound issued) (result : Except String (List Device)) :
    (store.fetchDevices result).Sound issued := by
  cases result with
  | error error => exact ⟨sound.known, sound.indexed⟩
  | ok rows =>
      constructor
      · exact sound.known
      · apply Entities.forall_addMany sound.indexed
        intro entry present
        apply listing_of_labels_eq_nil
        exact labels_eq_nil_of_normalizeDevices entry.1 entry.2
          (Entities.mem_entries_iff.mp present)

theorem sound_deleteDevice (sound : store.Sound issued) (id : Uuid)
    (result : Except String Unit) : (store.deleteDevice id result).Sound issued := by
  cases result with
  | error error => exact ⟨sound.known, sound.indexed⟩
  | ok done =>
      constructor
      · exact sound.known
      · exact Entities.forall_removeOne sound.indexed id

/-- The label is in the slice before its device lists it. -/
theorem sound_createLabel (determined : Determined issued) (sound : store.Sound issued)
    (device event : Uuid) {result : Except String Label}
    (answered : (Response.createLabel device event result).Sound issued) :
    (store.createLabel device event result).Sound issued := by
  cases result with
  | error error => exact ⟨sound.known, sound.indexed⟩
  | ok row =>
      rcases answered with ⟨present, own⟩
      have known : ∀ id entity,
          (store.label.entities.addOne row.id (.ofRow row)).lookup id = some entity →
            Known issued (id, entity) := by
        apply Entities.forall_addOne sound.known
        exact ⟨row, present, rfl⟩
      have indexed : ∀ id entity,
          (DeviceSlice.addDevicesLabels store.device
              [(device, [(row.id, .ofRow row)])]).entities.lookup id = some entity →
            Listing (store.label.entities.addOne row.id (.ofRow row)) id entity := by
        apply DeviceSlice.listing_addDevicesLabels
        · intro id entity found
          apply listing_mono _ (sound.indexed id entity found)
          intro label value valueFound
          rw [Entities.lookup_addOne, valueFound]
          rfl
        · intro group member label listed
          cases List.mem_singleton.mp member
          cases List.mem_singleton.mp listed
          rcases Entities.exists_lookup_addOne store.label.entities row.id (.ofRow row) with
            ⟨entity, found⟩
          refine ⟨entity, found, ?_⟩
          rw [eq_of_known determined (known row.id entity found) ⟨row, present, rfl⟩]
          exact own
      unfold createLabel
      simp only
      split
      · exact ⟨known, indexed⟩
      · exact ⟨known, indexed⟩

theorem sound_fetchLabels (determined : Determined issued) (sound : store.Sound issued)
    {result : Except String (List Label)} (answered : (Response.fetchLabels result).Sound issued) :
    (store.fetchLabels result).Sound issued := by
  cases result with
  | error error => exact ⟨sound.known, sound.indexed⟩
  | ok rows =>
      have fetched := known_of_normalizeLabels answered
      have known : ∀ id entity,
          (store.label.entities.addMany (normalizeLabels rows).entries).lookup id = some entity →
            Known issued (id, entity) :=
        Entities.forall_addMany sound.known fetched
      constructor
      · exact known
      · apply DeviceSlice.listing_addDevicesLabels
        · intro id entity found
          apply listing_mono _ (sound.indexed id entity found)
          intro label value valueFound
          exact Entities.lookup_addMany_of_lookup valueFound _
        · intro group member label listed
          rcases mem_of_mem_groupByDeviceId member listed with ⟨present, own⟩
          have added : label.1 ∈ (normalizeLabels rows).entries.map Prod.fst :=
            List.mem_map_of_mem present
          rcases Entities.exists_lookup_addMany added with ⟨entity, found⟩
          refine ⟨entity, found, ?_⟩
          rw [eq_of_known determined (known label.1 entity found) (fetched label present)]
          exact own

/-- No device but its own lists a deleted label. -/
theorem sound_deleteLabel (determined : Determined issued) (sound : store.Sound issued)
    {label : Uuid × LabelEntity} (known : Known issued label) (result : Except String Unit) :
    (store.deleteLabel label result).Sound issued := by
  cases result with
  | error error => exact ⟨sound.known, sound.indexed⟩
  | ok done =>
      constructor
      · exact Entities.forall_removeOne sound.known label.1
      · apply DeviceSlice.listing_deleteDevicesLabels sound.indexed
        intro entity found
        rw [eq_of_known determined (sound.known label.1 entity found) known]

theorem sound_fetchEvents (sound : store.Sound issued)
    (result : Except String (List (EventRow × List Uuid))) :
    (store.fetchEvents result).Sound issued := by
  cases result with
  | error error => exact ⟨sound.known, sound.indexed⟩
  | ok rows => exact ⟨sound.known, sound.indexed⟩

theorem sound_receive (determined : Determined issued) (sound : store.Sound issued)
    {response : Response} (answered : response.Sound issued) :
    (store.receive response).Sound issued := by
  cases response with
  | fetchDevices result => exact sound_fetchDevices sound result
  | createDevice result => exact sound_createDevice sound result
  | deleteDevice id result => exact sound_deleteDevice sound id result
  | fetchLabels result => exact sound_fetchLabels determined sound answered
  | createLabel device event result =>
      exact sound_createLabel determined sound device event answered
  | deleteLabel label result => exact sound_deleteLabel determined sound answered result
  | fetchEvents result => exact sound_fetchEvents sound result

end Sagas

end Store

/-! ## Every step -/

namespace Response

theorem sound_mono {issued others : List Label} (included : issued ⊆ others) {response : Response}
    (sound : response.Sound issued) : response.Sound others := by
  cases response with
  | fetchDevices result => exact trivial
  | createDevice result => exact trivial
  | deleteDevice id result => exact trivial
  | fetchLabels result =>
      cases result with
      | error error => exact trivial
      | ok rows =>
          intro row present
          exact included (sound row present)
  | createLabel device event result =>
      cases result with
      | error error => exact trivial
      | ok row => exact ⟨included sound.1, sound.2⟩
  | deleteLabel label result => exact known_mono included sound
  | fetchEvents result => exact trivial

theorem sound_lose {issued : List Label} {response : Response} (sound : response.Sound issued)
    (error : String) : (response.lose error).Sound issued := by
  cases response with
  | fetchDevices result => exact trivial
  | createDevice result => exact trivial
  | deleteDevice id result => exact trivial
  | fetchLabels result => exact trivial
  | createLabel device event result => exact trivial
  | deleteLabel label result => exact sound
  | fetchEvents result => exact trivial

end Response

namespace Request

theorem sound_mono {issued others : List Label} (included : issued ⊆ others) {request : Request}
    (sound : request.Sound issued) : request.Sound others := by
  cases request with
  | fetchDevices => exact trivial
  | createDevice value => exact trivial
  | deleteDevice id => exact trivial
  | fetchLabels => exact trivial
  | createLabel value event => exact trivial
  | deleteLabel label => exact known_mono included sound
  | fetchEvents => exact trivial

/-- Only a label that the store has is deleted. -/
theorem sound_of_dispatchable {issued : List Label} {store : Store} (sound : store.Sound issued)
    {request : Request} (dispatchable : store.Dispatchable request) : request.Sound issued := by
  cases request with
  | fetchDevices => exact trivial
  | createDevice value => exact trivial
  | deleteDevice id => exact trivial
  | fetchLabels => exact trivial
  | createLabel value event => exact trivial
  | deleteLabel label => exact sound.known label.1 label.2 dispatchable
  | fetchEvents => exact trivial

theorem sound_fail {issued : List Label} {request : Request} (sound : request.Sound issued)
    (error : String) : (request.fail error).Sound issued := by
  cases request with
  | fetchDevices => exact trivial
  | createDevice value => exact trivial
  | deleteDevice id => exact trivial
  | fetchLabels => exact trivial
  | createLabel value event => exact trivial
  | deleteLabel label => exact sound
  | fetchEvents => exact trivial

/-- The backend answers with labels of its own, and a created label has the
requested device. -/
theorem sound_serve {issued : List Label} {request : Request} (sound : request.Sound issued)
    (tables : Tables) (generated : Generated) :
    (serve tables generated request).2.Sound
      (issued ++ (serve tables generated request).1.labels) := by
  cases request with
  | fetchDevices => exact trivial
  | createDevice value =>
      simp only [serve]
      split
      · exact trivial
      · exact trivial
  | deleteDevice id => exact trivial
  | fetchLabels =>
      intro row present
      exact List.mem_append_right _ present
  | createLabel value event =>
      simp only [serve]
      split
      · rename_i created inserted
        exact ⟨List.mem_append_right _ (Tables.mem_labels_insertLabel inserted), rfl⟩
      · exact trivial
  | deleteLabel label => exact known_mono (List.subset_append_left _ _) sound
  | fetchEvents => exact trivial

end Request

namespace World

structure Sound (world : World) : Prop where
  determined : Determined world.issued
  requests : ∀ request ∈ world.requests, request.Sound world.issued
  responses : ∀ response ∈ world.responses, response.Sound world.issued
  store : world.store.Sound world.issued

theorem sound_initial (today : Int) : (initial today).Sound := by
  constructor
  · intro label present
    cases present
  · intro request present
    cases present
  · intro response present
    cases present
  · constructor
    · intro id entity found
      cases found
    · intro id device found
      cases found

/-- A generated key is new, and a key of the database names one row. -/
theorem determined_append {world : World} (determined : Determined world.issued) {tables : Tables}
    (keyed : tables.Keyed) (unused : world.Unused tables) :
    Determined (world.issued ++ tables.labels) := by
  have stored : ∀ label ∈ tables.labels, ∀ other ∈ world.issued, label.id = other.id →
      label = other := by
    intro label present other otherPresent same
    have reused : label.id ∈ world.issued.map Label.id :=
      List.mem_map.mpr ⟨other, otherPresent, same.symm⟩
    exact determined label (unused label present reused) other otherPresent same
  intro label present other otherPresent same
  rcases List.mem_append.mp present with old | new
  · rcases List.mem_append.mp otherPresent with otherOld | otherNew
    · exact determined label old other otherOld same
    · exact (stored other otherNew label old same.symm).symm
  · rcases List.mem_append.mp otherPresent with otherOld | otherNew
    · exact stored label new other otherOld same
    · exact List.inj_on_of_nodup_map keyed.labels new otherNew same

theorem Sound.settled {world : World} (sound : world.Sound) {tables : Tables}
    (keyed : tables.Keyed) (unused : world.Unused tables) :
    Sound { world with tables := tables, issued := world.issued ++ tables.labels } := by
  have included : world.issued ⊆ world.issued ++ tables.labels := List.subset_append_left _ _
  constructor
  · exact determined_append sound.determined keyed unused
  · intro request present
    exact Request.sound_mono included (sound.requests request present)
  · intro response present
    exact Response.sound_mono included (sound.responses response present)
  · constructor
    · intro id entity found
      exact known_mono included (sound.store.known id entity found)
    · exact sound.store.indexed

theorem sound_transition {world next : World} {action : Action} (keyed : world.tables.Keyed)
    (sound : world.Sound) (transition : Transition world action next) : next.Sound := by
  cases transition with
  | dispatched dispatchable =>
      rename_i request
      refine ⟨sound.determined, ?_, sound.responses, Store.sound_dispatch sound.store request⟩
      exact List.forall_mem_append.mpr ⟨sound.requests,
        List.forall_mem_singleton.mpr (Request.sound_of_dispatchable sound.store dispatchable)⟩
  | served found unused =>
      rename_i index generated request
      have settled := sound.settled (keyed_serve keyed generated request) unused
      refine ⟨settled.determined, ?_, ?_, settled.store⟩
      · intro other present
        exact settled.requests other (List.mem_of_mem_eraseIdx present)
      · have asked := sound.requests request (List.mem_of_getElem? found)
        exact List.forall_mem_append.mpr ⟨settled.responses,
          List.forall_mem_singleton.mpr (Request.sound_serve asked world.tables generated)⟩
  | failed found =>
      rename_i index error request
      refine ⟨sound.determined, ?_, ?_, sound.store⟩
      · intro other present
        exact sound.requests other (List.mem_of_mem_eraseIdx present)
      · have asked := sound.requests request (List.mem_of_getElem? found)
        exact List.forall_mem_append.mpr ⟨sound.responses,
          List.forall_mem_singleton.mpr (Request.sound_fail asked error)⟩
  | lost found =>
      rename_i index error response
      refine ⟨sound.determined, sound.requests, ?_, sound.store⟩
      intro other present
      rcases List.mem_or_eq_of_mem_set present with old | rfl
      · exact sound.responses other old
      · exact Response.sound_lose (sound.responses response (List.mem_of_getElem? found)) error
  | received found =>
      rename_i index response
      refine ⟨sound.determined, sound.requests, ?_, ?_⟩
      · intro other present
        exact sound.responses other (List.mem_of_mem_eraseIdx present)
      · exact Store.sound_receive sound.determined sound.store
          (sound.responses response (List.mem_of_getElem? found))
  | announced found =>
      exact ⟨sound.determined, sound.requests, sound.responses,
        ⟨sound.store.known, sound.store.indexed⟩⟩
  | executed executed unused =>
      have settled := sound.settled (keyed_execute keyed executed) unused
      exact ⟨settled.determined, settled.requests, settled.responses, settled.store⟩

theorem sound_of_reachable {today : Int} {world : World} (reachable : Reachable today world) :
    world.Sound := by
  have both : world.tables.Keyed ∧ world.Sound := by
    apply invariant_of_reachable _ _ reachable
    · exact ⟨Tables.keyed_empty, sound_initial today⟩
    · rintro state action next ⟨keyed, sound⟩ transition
      exact ⟨keyed_transition keyed transition, sound_transition keyed sound transition⟩
  exact both.2

/-- In every reachable store, no device lists a label twice, and every label a
device lists is there and belongs to the device. -/
theorem indexed_of_reachable {today : Int} {world : World} (reachable : Reachable today world) :
    ∀ id device, world.store.device.entities.lookup id = some device →
      device.labels.Nodup ∧
        ∀ label ∈ device.labels, ∃ entity,
          world.store.label.entities.lookup label = some entity ∧ entity.device = id :=
  (sound_of_reachable reachable).store.indexed

/-- A response that left the backend before the deletion of a label brings the
label back, into its slice and into its device. -/
theorem indexed_of_reachable_late :
    let generated : Generated := ⟨.ofNat 0, .ofNat 0, 0⟩
    let label : Label :=
      ⟨.ofNat 2, .luminosity, "bright", "", .luminosityDifference (.gt 100), .ofNat 1⟩
    let reached := follow step (initial 0)
      [.execute (.insertDevice ⟨.ofNat 1, "bug", ""⟩), .execute (.insertLabel label),
        .dispatch .fetchDevices, .serve 0 generated, .receive 0,
        .dispatch .fetchLabels, .dispatch .fetchLabels, .serve 0 generated, .serve 0 generated,
        .receive 0, .dispatch (.deleteLabel (label.id, .ofRow label)), .serve 0 generated,
        .receive 1, .receive 0]
    reached.map (fun world => (world.store.device.entities.lookup (.ofNat 1)).map
      DeviceEntity.labels) = some (some [label.id]) ∧
    ∀ world, reached = some world → ∀ id device,
      world.store.device.entities.lookup id = some device →
        device.labels.Nodup ∧
          ∀ label ∈ device.labels, ∃ entity,
            world.store.label.entities.lookup label = some entity ∧ entity.device = id := by
  intro generated label reached
  constructor
  · rfl
  · intro world final
    exact indexed_of_reachable ⟨_, final⟩

end World

end Bug.Frontend
