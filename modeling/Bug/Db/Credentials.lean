import Bug.Db.Database
import Mathlib.Data.List.Nodup

/-!
# Every device has its credential

In every database reached, the credentials belong to the devices one by one: the
lists of their device keys are the same.  Open transactions hold keys that are
neither stored nor held by another transaction, so a commit keeps the keys
distinct.
-/

namespace Bug.Db

open Bug.Encoding
open Bug.Transition

namespace Worker

/-- A written credential belongs to the written device and holds its secret. -/
def Sound : Worker → Prop
  | credentialed device credential secret =>
      credential.deviceId = device.id ∧ credential.secret = toBeBytes secret
  | free => True
  | begun _ => True
  | inserted _ => True

end Worker

namespace Database

/-- The open transaction of a worker has written a device. -/
def Holds (database : Database) (index : Nat) (device : Device) : Prop :=
  ∃ worker, database.workers[index]? = some worker ∧ worker.device? = some device

structure Consistent (database : Database) : Prop where
  distinct : (database.committed.devices.map Device.id).Nodup
  matched : database.committed.credentials.map DeviceCredential.deviceId =
    database.committed.devices.map Device.id
  unstored : ∀ index device, database.Holds index device →
    ¬ database.committed.HasDevice device.id
  apart : ∀ left right first second, database.Holds left first → database.Holds right second →
    first.id = second.id → left = right
  sound : ∀ worker ∈ database.workers, worker.Sound

theorem not_holds_new {workers index : Nat} {device : Device} :
    ¬ (new workers).Holds index device := by
  rintro ⟨worker, found, written⟩
  rw [List.eq_of_mem_replicate (List.mem_of_getElem? found)] at written
  cases written

theorem consistent_new (workers : Nat) : (new workers).Consistent where
  distinct := List.nodup_nil
  matched := rfl
  unstored := by
    intro index device holds
    exact absurd holds not_holds_new
  apart := by
    intro left right first second leftHolds
    exact absurd leftHolds not_holds_new
  sound := by
    intro worker present
    rw [List.eq_of_mem_replicate present]
    exact trivial

/-! ## One step -/

theorem holds_setWorker {database : Database} {index other : Nat} {worker : Worker}
    {device : Device} (holds : (database.setWorker index worker).Holds other device) :
    (other = index ∧ worker.device? = some device) ∨
      (other ≠ index ∧ database.Holds other device) := by
  rcases holds with ⟨current, found, written⟩
  rcases getElem?_set_cases found with ⟨same, rfl⟩ | ⟨different, unchanged⟩
  · exact Or.inl ⟨same, written⟩
  · exact Or.inr ⟨different, current, unchanged, written⟩

theorem sound_setWorker {database : Database} {index : Nat} {worker : Worker}
    (others : ∀ other ∈ database.workers, other.Sound) (sound : worker.Sound) :
    ∀ other ∈ (database.setWorker index worker).workers, other.Sound := by
  intro other present
  rcases List.mem_or_eq_of_mem_set present with kept | rfl
  · exact others other kept
  · exact sound

/-- A worker that writes no other device keeps the keys apart. -/
theorem Consistent.setWorker {database : Database} (consistent : database.Consistent)
    {index : Nat} {worker : Worker}
    (written : ∀ device, worker.device? = some device → database.Holds index device)
    (sound : worker.Sound) : (database.setWorker index worker).Consistent := by
  have held : ∀ other device, (database.setWorker index worker).Holds other device →
      database.Holds other device := by
    intro other device holds
    rcases holds_setWorker holds with ⟨rfl, writes⟩ | ⟨_, holds⟩
    · exact written device writes
    · exact holds
  exact {
    distinct := consistent.distinct
    matched := consistent.matched
    unstored := fun other device holds => consistent.unstored other device (held other device holds)
    apart := fun left right first second leftHolds rightHolds same =>
      consistent.apart left right first second (held left first leftHolds)
        (held right second rightHolds) same
    sound := sound_setWorker consistent.sound sound }

/-- A device under a key that is neither stored nor locked keeps the keys
apart. -/
theorem Consistent.insertDevice {database : Database} (consistent : database.Consistent)
    {index : Nat} {device : Device} (unlocked : ¬ database.DeviceLocked device.id)
    (unstored : ¬ database.committed.HasDevice device.id) :
    (database.setWorker index (.inserted device)).Consistent := by
  have locked : ∀ other otherDevice, database.Holds other otherDevice →
      otherDevice.id ≠ device.id := by
    rintro other otherDevice ⟨worker, found, written⟩ same
    exact unlocked ⟨worker, List.mem_of_getElem? found, otherDevice, written, same⟩
  constructor
  · exact consistent.distinct
  · exact consistent.matched
  · intro other otherDevice holds
    rcases holds_setWorker holds with ⟨rfl, writes⟩ | ⟨_, holds⟩
    · cases writes
      exact unstored
    · exact consistent.unstored other otherDevice holds
  · intro left right first second leftHolds rightHolds same
    rcases holds_setWorker leftHolds with ⟨leftIndex, leftWrites⟩ | ⟨_, leftHeld⟩
    · cases leftWrites
      rcases holds_setWorker rightHolds with ⟨rightIndex, _⟩ | ⟨_, rightHeld⟩
      · rw [leftIndex, rightIndex]
      · exact absurd same.symm (locked right second rightHeld)
    · rcases holds_setWorker rightHolds with ⟨_, rightWrites⟩ | ⟨_, rightHeld⟩
      · cases rightWrites
        exact absurd same (locked left first leftHeld)
      · exact consistent.apart left right first second leftHeld rightHeld same
  · exact sound_setWorker consistent.sound trivial

theorem hasDevice_visible_iff {database : Database} {device : Device}
    {credential : DeviceCredential} {secret : UInt64} {id : Uuid} :
    (database.visible (.credentialed device credential secret)).HasDevice id ↔
      database.committed.HasDevice id ∨ id = device.id := by
  simp [Tables.HasDevice, visible, Worker.device?]

/-- Committing a device and its credential keeps the keys matched. -/
theorem Consistent.commit {database : Database} (consistent : database.Consistent)
    {index : Nat} {device : Device} {credential : DeviceCredential} {secret : UInt64}
    (found : database.workers[index]? = some (.credentialed device credential secret)) :
    { database.setWorker index .free with
      committed := database.visible (.credentialed device credential secret) }.Consistent := by
  have sound : (Worker.credentialed device credential secret).Sound :=
    consistent.sound _ (List.mem_of_getElem? found)
  have holding : database.Holds index device := ⟨_, found, rfl⟩
  have unstored := consistent.unstored index device holding
  constructor
  · change ((database.committed.devices ++ [device]).map Device.id).Nodup
    exact Tables.nodup_map_concat consistent.distinct unstored
  · change (database.committed.credentials ++ [credential]).map DeviceCredential.deviceId =
      (database.committed.devices ++ [device]).map Device.id
    rw [List.map_append, List.map_append, consistent.matched, List.map_singleton,
      List.map_singleton, sound.1]
  · intro other otherDevice holds
    rcases holds_setWorker holds with ⟨_, writes⟩ | ⟨different, holds⟩
    · cases writes
    · rw [hasDevice_visible_iff]
      rintro (stored | same)
      · exact consistent.unstored other otherDevice holds stored
      · exact different (consistent.apart other index otherDevice device holds holding same)
  · intro left right first second leftHolds rightHolds same
    rcases holds_setWorker leftHolds with ⟨_, leftWrites⟩ | ⟨_, leftHolds⟩
    · cases leftWrites
    · rcases holds_setWorker rightHolds with ⟨_, rightWrites⟩ | ⟨_, rightHolds⟩
      · cases rightWrites
      · exact consistent.apart left right first second leftHolds rightHolds same
  · exact sound_setWorker consistent.sound trivial

/-- Deleting a device deletes its credential with it. -/
theorem Consistent.deleteDevice {database : Database} (consistent : database.Consistent)
    (id : Uuid) :
    { database with committed := database.committed.deleteDevice id }.Consistent := by
  constructor
  · rw [Tables.map_id_deleteDevice]
    exact consistent.distinct.filter _
  · rw [Tables.map_id_deleteDevice, Tables.map_deviceId_deleteDevice, consistent.matched]
  · intro index device holds stored
    rw [Tables.HasDevice, Tables.map_id_deleteDevice] at stored
    exact consistent.unstored index device holds (List.mem_of_mem_filter stored)
  · exact consistent.apart
  · exact consistent.sound

theorem Consistent.answer {database : Database} (consistent : database.Consistent)
    (reply : Reply) : (database.answer reply).Consistent where
  distinct := consistent.distinct
  matched := consistent.matched
  unstored := consistent.unstored
  apart := consistent.apart
  sound := consistent.sound

theorem Consistent.elsewhere {database : Database} (consistent : database.Consistent)
    {tables : Tables} (devices : tables.devices = database.committed.devices)
    (credentials : tables.credentials = database.committed.credentials) :
    { database with committed := tables }.Consistent := by
  constructor
  · rw [devices]
    exact consistent.distinct
  · rw [devices, credentials]
    exact consistent.matched
  · intro index device holds stored
    rw [Tables.HasDevice, devices] at stored
    exact consistent.unstored index device holds stored
  · exact consistent.apart
  · exact consistent.sound

theorem Consistent.of_transition {database next : Database} {action : Action}
    (consistent : database.Consistent) (transition : Transition database action next) :
    next.Consistent := by
  cases transition with
  | begun found =>
      apply consistent.setWorker
      · intro device written
        cases written
      · exact trivial
  | inserted found unlocked unstored => exact consistent.insertDevice unlocked unstored
  | credentialed found =>
      apply consistent.setWorker
      · intro device written
        cases written
        exact ⟨_, found, rfl⟩
      · exact ⟨rfl, rfl⟩
  | committed found => exact (consistent.commit found).answer _
  | rolledBack found =>
      apply Consistent.answer
      apply consistent.setWorker
      · intro device written
        cases written
      · exact trivial
  | deletedDevice => exact (consistent.deleteDevice _).answer _
  | elsewhere devices credentials => exact consistent.elsewhere devices credentials

/-! ## Every run -/

theorem Consistent.of_follow {start database : Database} {actions : List Action}
    (consistent : start.Consistent) (reached : follow step start actions = some database) :
    database.Consistent := by
  have preserved : ∀ database action next, Consistent database →
      step database action = some next → next.Consistent := by
    intro database action next consistent stepped
    exact consistent.of_transition (transition_of_step stepped)
  exact follow_preserves preserved consistent reached

theorem consistent_of_reached {workers : Nat} {actions : List Action} {database : Database}
    (reached : follow step (new workers) actions = some database) : database.Consistent :=
  (consistent_new workers).of_follow reached

/-- No deletion answers with an unexpected number of devices. -/
theorem countDevices_le_one {database : Database} (consistent : database.Consistent) (id : Uuid) :
    database.committed.countDevices id ≤ 1 := by
  rw [Tables.countDevices, Tables.length_filter_eq_count]
  exact List.nodup_iff_count_le_one.mp consistent.distinct id

/-- In every database reached, every device has exactly one credential and every
credential belongs to a device. -/
theorem credential_per_device {workers : Nat} {actions : List Action} {database : Database}
    (reached : follow step (new workers) actions = some database) :
    (∀ device ∈ database.committed.devices, ∃ credential,
      database.committed.credentials.filter (fun row => row.deviceId = device.id) =
        [credential]) ∧
    (∀ credential ∈ database.committed.credentials, ∃ device ∈ database.committed.devices,
      device.id = credential.deviceId) := by
  have consistent := consistent_of_reached reached
  constructor
  · intro device stored
    apply List.length_eq_one_iff.mp
    have present : device.id ∈ database.committed.devices.map Device.id :=
      List.mem_map_of_mem stored
    rw [Tables.length_filter_eq_count, consistent.matched]
    exact List.count_eq_one_of_mem consistent.distinct present
  · intro credential stored
    have present : credential.deviceId ∈ database.committed.devices.map Device.id := by
      rw [← consistent.matched]
      exact List.mem_map_of_mem stored
    exact List.mem_map.mp present

/-- Two workers, one of them rolled back after its first insert, and a deletion
while the other transaction is open. -/
theorem credential_per_device_example :
    ∃ database : Database,
      follow step (new 2)
        [.begin 0 ⟨"a", ""⟩, .begin 1 ⟨"b", ""⟩, .insertDevice 0 (.ofNat 1),
          .insertDevice 1 (.ofNat 2), .fail 1 .poolError, .insertCredential 0 (.ofNat 3) 7,
          .deleteDevice (.ofNat 1) true, .commit 0 true] = some database ∧
      (∀ device ∈ database.committed.devices, ∃ credential,
        database.committed.credentials.filter (fun row => row.deviceId = device.id) =
          [credential]) ∧
      (∀ credential ∈ database.committed.credentials, ∃ device ∈ database.committed.devices,
        device.id = credential.deviceId) := by
  have reached : follow step (new 2)
      [.begin 0 ⟨"a", ""⟩, .begin 1 ⟨"b", ""⟩, .insertDevice 0 (.ofNat 1),
        .insertDevice 1 (.ofNat 2), .fail 1 .poolError, .insertCredential 0 (.ofNat 3) 7,
        .deleteDevice (.ofNat 1) true, .commit 0 true] = some _ :=
    rfl
  exact ⟨_, reached, credential_per_device reached⟩

end Database

/-! ## Looking a device up by its secret -/

theorem toBeBytes_injective : Function.Injective toBeBytes := by
  intro left right equal
  have digits : leBytes 8 left.toNat = leBytes 8 right.toNat := List.reverse_injective equal
  have leftValue : leValue (leBytes 8 left.toNat) = left.toNat := leValue_leBytes left.toNat_lt
  have rightValue : leValue (leBytes 8 right.toNat) = right.toNat :=
    leValue_leBytes right.toNat_lt
  apply UInt64.toNat_inj.mp
  rw [← leftValue, ← rightValue, digits]

namespace Tables

/-- The rows of `SelectMsg<u64, Device>`: the devices joined with their
credentials, where the credential is the given secret. -/
def selectBySecret (tables : Tables) (secret : UInt64) : List Device :=
  tables.devices.flatMap fun device =>
    (tables.credentials.filter fun credential =>
      credential.deviceId = device.id ∧ credential.secret = toBeBytes secret).map fun _ => device

/-- A credential with this secret is stored for the device. -/
def HasSecret (tables : Tables) (device : Device) (secret : UInt64) : Prop :=
  device ∈ tables.devices ∧ ∃ credential ∈ tables.credentials,
    credential.deviceId = device.id ∧ credential.secret = toBeBytes secret

theorem mem_selectBySecret_iff (tables : Tables) (secret : UInt64) (device : Device) :
    device ∈ tables.selectBySecret secret ↔ tables.HasSecret device secret := by
  simp only [selectBySecret, HasSecret, List.mem_flatMap, List.mem_map, List.mem_filter,
    decide_eq_true_eq]
  constructor
  · rintro ⟨found, stored, credential, ⟨present, agrees⟩, rfl⟩
    exact ⟨stored, credential, present, agrees⟩
  · rintro ⟨stored, credential, present, agrees⟩
    exact ⟨device, stored, credential, ⟨present, agrees⟩, rfl⟩

theorem HasSecret.deleteDevice {tables : Tables} {device : Device} {secret : UInt64}
    (stored : tables.HasSecret device secret) {id : Uuid} (other : device.id ≠ id) :
    (tables.deleteDevice id).HasSecret device secret := by
  rcases stored with ⟨present, credential, credentialPresent, belongs, agrees⟩
  have kept : credential.deviceId ≠ id := belongs ▸ other
  exact ⟨List.mem_filter.mpr ⟨present, decide_eq_true other⟩, credential,
    List.mem_filter.mpr ⟨credentialPresent, decide_eq_true kept⟩, belongs, agrees⟩

theorem HasSecret.of_subset {tables next : Tables} {device : Device} {secret : UInt64}
    (stored : tables.HasSecret device secret) (devices : tables.devices ⊆ next.devices)
    (credentials : tables.credentials ⊆ next.credentials) : next.HasSecret device secret := by
  rcases stored with ⟨present, credential, credentialPresent, agrees⟩
  exact ⟨devices present, credential, credentials credentialPresent, agrees⟩

end Tables

namespace Database

/-- A device has one secret. -/
theorem Consistent.secret_unique {database : Database} (consistent : database.Consistent)
    {device : Device} {left right : UInt64} (leftStored : database.committed.HasSecret device left)
    (rightStored : database.committed.HasSecret device right) : left = right := by
  rcases leftStored with ⟨_, leftCredential, leftPresent, leftBelongs, leftAgrees⟩
  rcases rightStored with ⟨_, rightCredential, rightPresent, rightBelongs, rightAgrees⟩
  have distinct : (database.committed.credentials.map DeviceCredential.deviceId).Nodup := by
    rw [consistent.matched]
    exact consistent.distinct
  have same : leftCredential = rightCredential :=
    List.inj_on_of_nodup_map distinct leftPresent rightPresent
      (leftBelongs.trans rightBelongs.symm)
  apply toBeBytes_injective
  rw [← leftAgrees, ← rightAgrees, same]

/-- The secret of a device stays stored until the device is deleted. -/
theorem hasSecret_of_transition {database next : Database} {action : Action} {device : Device}
    {secret : UInt64} (transition : Transition database action next)
    (stored : database.committed.HasSecret device secret)
    (kept : ∀ acknowledged, action ≠ .deleteDevice device.id acknowledged) :
    next.committed.HasSecret device secret := by
  cases transition with
  | begun found => exact stored
  | inserted found unlocked unstored => exact stored
  | credentialed found => exact stored
  | committed found =>
      exact stored.of_subset (List.subset_append_left _ _) (List.subset_append_left _ _)
  | rolledBack found => exact stored
  | deletedDevice =>
      apply stored.deleteDevice
      rintro rfl
      exact kept _ rfl
  | elsewhere devices credentials =>
      apply stored.of_subset
      · rw [devices]
        exact List.Subset.refl _
      · rw [credentials]
        exact List.Subset.refl _

theorem hasSecret_of_follow {database next : Database} {actions : List Action} {device : Device}
    {secret : UInt64} (reached : follow step database actions = some next)
    (stored : database.committed.HasSecret device secret)
    (kept : ∀ acknowledged, .deleteDevice device.id acknowledged ∉ actions) :
    next.committed.HasSecret device secret := by
  induction actions generalizing database with
  | nil =>
      cases reached
      exact stored
  | cons action actions ih =>
      rcases Option.bind_eq_some_iff.mp reached with ⟨middle, stepped, rest⟩
      apply ih rest
      · apply hasSecret_of_transition (transition_of_step stepped) stored
        intro acknowledged equal
        exact kept acknowledged (equal ▸ List.mem_cons_self)
      · intro acknowledged later
        exact kept acknowledged (List.mem_cons_of_mem _ later)

/-- The device and the secret that a commit answers with are stored. -/
theorem hasSecret_of_created {database next : Database} {index : Nat} {device : Device}
    {secret : UInt64} (consistent : database.Consistent)
    (stepped : database.step (.commit index true) = some next)
    (created : next.replies.getLast? = some (.created device secret)) :
    next.committed.HasSecret device secret := by
  simp only [step] at stepped
  split at stepped
  · rename_i written credential generated found
    have sound := consistent.sound _ (List.mem_of_getElem? found)
    cases stepped
    rw [answer, List.getLast?_append, List.getLast?_singleton] at created
    cases created
    exact ⟨List.mem_append_right _ List.mem_cons_self, credential,
      List.mem_append_right _ List.mem_cons_self, sound⟩
  · cases stepped

end Database

end Bug.Db
