import Bug.Frontend.Store

/-!
# Loading a page

A page asks for the devices and for the labels at once, and the responses arrive
in either order.  A device starts without labels, and the labels of a response
are listed in the devices that are there.  So the labels are listed when the
devices arrive first, and no label is ever listed when the labels arrive first.
-/

namespace Bug.Frontend

open Bug.Db

namespace Store

/-- Both requests are on their way. -/
def loading (today : Int) : Store :=
  { initial today with
    device := (initial today).device.fetchStart
    label := (initial today).label.fetchStart }

def devicesFirst (today : Int) (devices : List Device) (labels : List Label) : Store :=
  ((loading today).fetchDevices (.ok devices)).fetchLabels (.ok labels)

def labelsFirst (today : Int) (devices : List Device) (labels : List Label) : Store :=
  ((loading today).fetchLabels (.ok labels)).fetchDevices (.ok devices)

/-- Every label is listed in its device. -/
def EveryLabelListed (store : Store) : Prop :=
  ∀ id label, store.label.entities.lookup id = some label →
    ∃ device, store.device.entities.lookup label.device = some device ∧ id ∈ device.labels

/-- The order of the two responses makes no difference, and every label is
listed in its device. -/
def OrderIndependent (today : Int) (devices : List Device) (labels : List Label) : Prop :=
  (labelsFirst today devices labels).device.entities =
      (devicesFirst today devices labels).device.entities ∧
    (labelsFirst today devices labels).label.entities =
      (devicesFirst today devices labels).label.entities ∧
    EveryLabelListed (labelsFirst today devices labels)

/-- Updating a device that is not there adds nothing. -/
theorem labelsFirst_labels_eq_nil (today : Int) (devices : List Device) (labels : List Label) :
    ∀ id device, (labelsFirst today devices labels).device.entities.lookup id = some device →
      device.labels = [] := by
  have absent : ∀ id device,
      ((loading today).fetchLabels (.ok labels)).device.entities.lookup id = some device →
        False := by
    apply Entities.forall_updateMany
    · intro id device found
      cases found
    · intro update _ device impossible
      exact impossible
  apply Entities.forall_addMany
  · intro id device found
    exact absurd found (absent id device)
  · intro entry present
    exact labels_eq_nil_of_normalizeDevices entry.1 entry.2 (Entities.mem_entries_iff.mp present)

/-- A label of the response is in the store. -/
theorem exists_label_of_labelsFirst {today : Int} {devices : List Device} {labels : List Label}
    {row : Label} (present : row ∈ labels) :
    ∃ label, (labelsFirst today devices labels).label.entities.lookup row.id = some label := by
  apply Entities.exists_lookup_addMany
  apply Entities.mem_keys_ofList_iff.mpr
  rw [List.map_map]
  exact List.mem_map_of_mem present

theorem nodup_groupByDeviceId (labels : List (Uuid × LabelEntity)) :
    ((groupByDeviceId labels).map Prod.fst).Nodup := by
  rw [groupByDeviceId, List.map_map]
  exact (List.map_id' _).symm ▸ nodup_uniq _

/-- A label of the payload is listed in a device that is there. -/
theorem mem_labels_of_addDevicesLabels {slice : DeviceSlice} {payload : LabelGroups}
    (distinct : (payload.map Prod.fst).Nodup) {id : Uuid} {group : List (Uuid × LabelEntity)}
    (present : (id, group) ∈ payload) {label : Uuid × LabelEntity} (member : label ∈ group)
    {device : DeviceEntity} (found : slice.entities.lookup id = some device) :
    ∃ updated, (DeviceSlice.addDevicesLabels slice payload).entities.lookup id = some updated ∧
      label.1 ∈ updated.labels := by
  have keys : ((payload.map slice.listing).map Prod.fst).Nodup := by
    rw [List.map_map]
    exact distinct
  have listed : slice.listing (id, group) ∈ payload.map slice.listing :=
    List.mem_map_of_mem present
  have update : (DeviceSlice.addDevicesLabels slice payload).entities.lookup id = _ :=
    Entities.lookup_updateMany_of_mem keys listed
  rw [found] at update
  exact ⟨_, update, mem_uniq_iff.mpr (List.mem_append_right _ (List.mem_map_of_mem member))⟩

/-- When the devices arrive first, every label is listed in its device. -/
theorem everyLabelListed_devicesFirst (today : Int) {devices : List Device} {labels : List Label}
    (known : ∀ label ∈ labels, label.deviceId ∈ devices.map Device.id) :
    EveryLabelListed (devicesFirst today devices labels) := by
  intro id label found
  have normalized : (normalizeLabels labels).lookup id = some label := by
    revert found
    apply Entities.forall_addMany
    · intro key value impossible
      cases impossible
    · intro entry present
      exact Entities.mem_entries_iff.mp present
  have deviceKnown : label.device ∈ devices.map Device.id := by
    revert normalized
    apply Entities.forall_ofList
    intro entry present
    rcases List.mem_map.mp present with ⟨row, rowPresent, rfl⟩
    exact known row rowPresent
  have deviceStored : ∃ device,
      ((loading today).fetchDevices (.ok devices)).device.entities.lookup label.device =
        some device := by
    apply Entities.exists_lookup_addMany
    apply Entities.mem_keys_ofList_iff.mpr
    rw [List.map_map]
    exact deviceKnown
  rcases deviceStored with ⟨device, stored⟩
  have entry : (id, label) ∈ (normalizeLabels labels).entries :=
    Entities.mem_entries_iff.mpr normalized
  have grouped : (label.device, (normalizeLabels labels).entries.filter fun other =>
      other.2.device = label.device) ∈ groupByDeviceId (normalizeLabels labels).entries := by
    apply List.mem_map.mpr
    exact ⟨label.device, mem_uniq_iff.mpr (List.mem_map.mpr ⟨(id, label), entry, rfl⟩), rfl⟩
  have member : (id, label) ∈ (normalizeLabels labels).entries.filter fun other =>
      other.2.device = label.device :=
    List.mem_filter.mpr ⟨entry, decide_eq_true rfl⟩
  exact mem_labels_of_addDevicesLabels (nodup_groupByDeviceId _) grouped member stored

/-- The two loads are independent of their order, with every label listed, if and
only if there are no labels. -/
theorem orderIndependent_iff (today : Int) (devices : List Device) (labels : List Label) :
    OrderIndependent today devices labels ↔ labels = [] := by
  constructor
  · rintro ⟨_, _, listed⟩
    cases labels with
    | nil => rfl
    | cons row labels =>
        rcases exists_label_of_labelsFirst List.mem_cons_self with ⟨label, found⟩
        rcases listed row.id label found with ⟨device, deviceFound, member⟩
        rw [labelsFirst_labels_eq_nil today devices _ _ device deviceFound] at member
        cases member
  · rintro rfl
    refine ⟨rfl, rfl, ?_⟩
    intro id label found
    cases found

/-- With one device and one label of it, the label is listed only when the
devices arrive first. -/
theorem not_orderIndependent_example :
    let device : Device := ⟨.ofNat 1, "bug", ""⟩
    let label : Label :=
      ⟨.ofNat 2, .luminosity, "bright", "", .luminosityDifference (.gt 100), .ofNat 1⟩
    label.deviceId ∈ [device].map Device.id ∧
      (labelsFirst 0 [device] [label]).device.entities.lookup (.ofNat 1) =
        some ⟨"bug", "", none, []⟩ ∧
      (devicesFirst 0 [device] [label]).device.entities.lookup (.ofNat 1) =
        some ⟨"bug", "", none, [.ofNat 2]⟩ ∧
      ¬ OrderIndependent 0 [device] [label] := by
  intro device label
  refine ⟨List.mem_cons_self, rfl, rfl, ?_⟩
  rintro ⟨sameDevices, _, _⟩
  have sameLabels := congrArg (fun entities => entities.lookup (.ofNat 1)) sameDevices
  cases sameLabels

end Store

end Bug.Frontend
