import Bug.Db.Schema
import Bug.Transition.Labelled

/-!
# The database actor

Several workers share the database.  Each handles one message at a time on its
own connection; what a worker has written inside an open transaction is its own
until it commits.  Any statement may fail, which rolls the transaction back, and
the acknowledgement of a statement that did take effect may get lost.  An insert
whose key another open transaction has written waits for that transaction.
-/

namespace Bug.Db

open Bug.Encoding
open Bug.Transition

structure NewDevice where
  name : String
  description : String
  deriving DecidableEq

/-- `u64::to_be_bytes`. -/
def toBeBytes (secret : UInt64) : Bytes :=
  (leBytes 8 secret.toNat).reverse

/-- Where a worker stands in the handler of `InsertMsg<NewDevice, (Device, u64)>`. -/
inductive Worker where
  | free
  /-- The transaction has begun. -/
  | begun (value : NewDevice)
  /-- The device is inserted. -/
  | inserted (device : Device)
  /-- The credential is inserted, too. -/
  | credentialed (device : Device) (credential : DeviceCredential) (secret : UInt64)
  deriving DecidableEq

/-- What the handlers of the actor answer. -/
inductive Reply where
  | created (device : Device) (secret : UInt64)
  | deleted (id : Uuid) (result : Except Error Unit)
  | failed (error : Error)

structure Database where
  committed : Tables
  workers : List Worker
  replies : List Reply

namespace Worker

/-- The device written by the open transaction. -/
def device? : Worker → Option Device
  | free => none
  | begun _ => none
  | inserted device => some device
  | credentialed device _ _ => some device

/-- The credential written by the open transaction. -/
def credential? : Worker → Option DeviceCredential
  | credentialed _ credential _ => some credential
  | free => none
  | begun _ => none
  | inserted _ => none

end Worker

namespace Database

inductive Action where
  /-- A worker takes a message and begins its transaction. -/
  | begin (worker : Nat) (value : NewDevice)
  /-- `INSERT INTO devices` with the generated key. -/
  | insertDevice (worker : Nat) (id : Uuid)
  /-- `INSERT INTO device_credentials` with the generated key. -/
  | insertCredential (worker : Nat) (id : Uuid) (secret : UInt64)
  | commit (worker : Nat) (acknowledged : Bool)
  /-- The statement of a worker fails. -/
  | fail (worker : Nat) (error : Error)
  /-- The handler of `DeleteMsg<Uuid, Device>`. -/
  | deleteDevice (id : Uuid) (acknowledged : Bool)
  | insertLabel (id : Uuid) (value : NewLabel)
  | deleteLabel (id : Uuid)
  | insertEvent (id : Uuid) (value : NewEvent)

def new (workers : Nat) : Database where
  committed := .empty
  workers := List.replicate workers .free
  replies := []

def setWorker (database : Database) (index : Nat) (worker : Worker) : Database :=
  { database with workers := database.workers.set index worker }

def answer (database : Database) (reply : Reply) : Database :=
  { database with replies := database.replies ++ [reply] }

/-- `ROLLBACK` and the error of the failed statement. -/
def rollback (database : Database) (index : Nat) (error : Error) : Database :=
  (database.setWorker index .free).answer (.failed error)

/-- What the statements of an open transaction see. -/
def visible (database : Database) (worker : Worker) : Tables :=
  { database.committed with
    devices := database.committed.devices ++ worker.device?.toList
    credentials := database.committed.credentials ++ worker.credential?.toList }

/-- Another open transaction has written this key. -/
def DeviceLocked (database : Database) (id : Uuid) : Prop :=
  ∃ worker ∈ database.workers, ∃ device ∈ worker.device?, device.id = id

instance (database : Database) (id : Uuid) : Decidable (database.DeviceLocked id) :=
  inferInstanceAs
    (Decidable (∃ worker ∈ database.workers, ∃ device ∈ worker.device?, device.id = id))

def CredentialLocked (database : Database) (id : Uuid) : Prop :=
  ∃ worker ∈ database.workers, ∃ credential ∈ worker.credential?, credential.id = id

instance (database : Database) (id : Uuid) : Decidable (database.CredentialLocked id) :=
  inferInstanceAs
    (Decidable (∃ worker ∈ database.workers, ∃ credential ∈ worker.credential?, credential.id = id))

/-- The answer to a deletion that deleted a number of devices. -/
def deleteReply : Nat → Except Error Unit
  | 0 => .error (.diesel true)
  | 1 => .ok ()
  | num => .error (.unexpected s!"expect 1 device to be deleted, but got {num}")

def step : LabelledStep Database Action
  | database, .begin index value =>
      match database.workers[index]? with
      | some .free => some (database.setWorker index (.begun value))
      | _ => none
  | database, .insertDevice index id =>
      match database.workers[index]? with
      | some (.begun value) =>
          let device : Device := ⟨id, value.name, value.description⟩
          if database.DeviceLocked id then
            none
          else
            match (database.visible (.begun value)).insertDevice device with
            | none => some (database.rollback index (.diesel false))
            | some _ => some (database.setWorker index (.inserted device))
      | _ => none
  | database, .insertCredential index id secret =>
      match database.workers[index]? with
      | some (.inserted device) =>
          let credential : DeviceCredential := ⟨id, toBeBytes secret, device.id⟩
          if database.CredentialLocked id then
            none
          else
            match (database.visible (.inserted device)).insertCredential credential with
            | none => some (database.rollback index (.diesel false))
            | some _ =>
                some (database.setWorker index (.credentialed device credential secret))
      | _ => none
  | database, .commit index acknowledged =>
      match database.workers[index]? with
      | some (.credentialed device credential secret) =>
          let reply := if acknowledged then .created device secret else .failed (.diesel false)
          some ({ database.setWorker index .free with
            committed := database.visible (.credentialed device credential secret) }.answer reply)
      | _ => none
  | database, .fail index error =>
      match database.workers[index]? with
      | some .free => none
      | some _ => some (database.rollback index error)
      | none => none
  | database, .deleteDevice id acknowledged =>
      let reply :=
        if acknowledged then
          .deleted id (deleteReply (database.committed.countDevices id))
        else
          .failed (.diesel false)
      some ({ database with committed := database.committed.deleteDevice id }.answer reply)
  | database, .insertLabel id value =>
      (database.committed.insertLabel
        ⟨id, value.eventKind, value.name, value.description, value.rule, value.deviceId⟩).map
          fun tables => { database with committed := tables }
  | database, .deleteLabel id =>
      some { database with committed := database.committed.deleteLabel id }
  | database, .insertEvent id value =>
      (database.committed.insertEvent ⟨id, value⟩).map
        fun tables => { database with committed := tables }

/-! ## Everything a step can do to the devices -/

inductive Transition (database : Database) : Action → Database → Prop
  | begun {index : Nat} {value : NewDevice} : database.workers[index]? = some .free →
      Transition database (.begin index value) (database.setWorker index (.begun value))
  | inserted {index : Nat} {value : NewDevice} {id : Uuid} :
      database.workers[index]? = some (.begun value) → ¬ database.DeviceLocked id →
      ¬ database.committed.HasDevice id →
      Transition database (.insertDevice index id)
        (database.setWorker index (.inserted ⟨id, value.name, value.description⟩))
  | credentialed {index : Nat} {device : Device} {id : Uuid} {secret : UInt64} :
      database.workers[index]? = some (.inserted device) →
      Transition database (.insertCredential index id secret)
        (database.setWorker index
          (.credentialed device ⟨id, toBeBytes secret, device.id⟩ secret))
  | committed {index : Nat} {device : Device} {credential : DeviceCredential} {secret : UInt64}
      {acknowledged : Bool} :
      database.workers[index]? = some (.credentialed device credential secret) →
      Transition database (.commit index acknowledged)
        ({ database.setWorker index .free with
          committed := database.visible (.credentialed device credential secret) }.answer
            (if acknowledged then .created device secret else .failed (.diesel false)))
  | rolledBack {index : Nat} {worker : Worker} {action : Action} {error : Error} :
      database.workers[index]? = some worker →
      Transition database action (database.rollback index error)
  | deletedDevice {id : Uuid} {acknowledged : Bool} :
      Transition database (.deleteDevice id acknowledged)
        ({ database with committed := database.committed.deleteDevice id }.answer
          (if acknowledged then .deleted id (deleteReply (database.committed.countDevices id))
            else .failed (.diesel false)))
  | elsewhere {action : Action} {tables : Tables} :
      tables.devices = database.committed.devices →
      tables.credentials = database.committed.credentials →
      Transition database action { database with committed := tables }

theorem insertDevice_visible_begun {database : Database} {value : NewDevice} {device : Device}
    {tables : Tables}
    (inserted : (database.visible (.begun value)).insertDevice device = some tables) :
    ¬ database.committed.HasDevice device.id := by
  intro present
  have visible : (database.visible (.begun value)).HasDevice device.id := by
    simpa [Tables.HasDevice, Database.visible, Worker.device?] using present
  rw [Tables.insertDevice, if_pos visible] at inserted
  cases inserted

theorem transition_of_step {database next : Database} {action : Action}
    (stepped : database.step action = some next) : Transition database action next := by
  cases action with
  | begin index value =>
      simp only [step] at stepped
      split at stepped
      · rename_i free
        cases stepped
        exact .begun free
      · cases stepped
  | insertDevice index id =>
      simp only [step] at stepped
      split at stepped
      · rename_i value begun
        split at stepped
        · cases stepped
        · rename_i unlocked
          split at stepped
          · cases stepped
            exact .rolledBack begun
          · rename_i tables inserted
            cases stepped
            exact .inserted begun unlocked (insertDevice_visible_begun inserted)
      · cases stepped
  | insertCredential index id secret =>
      simp only [step] at stepped
      split at stepped
      · rename_i device inserted
        split at stepped
        · cases stepped
        · split at stepped
          · cases stepped
            exact .rolledBack inserted
          · cases stepped
            exact .credentialed inserted
      · cases stepped
  | commit index acknowledged =>
      simp only [step] at stepped
      split at stepped
      · rename_i device credential secret ready
        cases stepped
        exact .committed ready
      · cases stepped
  | fail index error =>
      simp only [step] at stepped
      split at stepped
      · cases stepped
      · rename_i worker busy running
        cases stepped
        exact .rolledBack running
      · cases stepped
  | deleteDevice id acknowledged =>
      cases stepped
      exact .deletedDevice
  | insertLabel id value =>
      rcases Option.map_eq_some_iff.mp stepped with ⟨tables, inserted, rfl⟩
      unfold Tables.insertLabel at inserted
      split at inserted
      · cases inserted
      · cases inserted
        exact .elsewhere rfl rfl
  | deleteLabel id =>
      cases stepped
      exact .elsewhere rfl rfl
  | insertEvent id value =>
      rcases Option.map_eq_some_iff.mp stepped with ⟨tables, inserted, rfl⟩
      unfold Tables.insertEvent at inserted
      split at inserted
      · cases inserted
      · cases inserted
        exact .elsewhere rfl rfl

end Database

end Bug.Db
