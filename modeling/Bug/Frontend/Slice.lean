import Bug.Db.Label
import Bug.Primitive.Entities

/-!
# The slices of the frontend's store

Devices, labels and events are kept by their identifiers, each next to the
status of the requests about it.  Devices and events also list the labels that
belong to them.  The reducers below are those of the three slices.
-/

namespace Bug.Frontend

open Bug.Db

/-- The status of the requests of one kind. -/
structure Status where
  pending : Bool
  resolved : Bool
  rejected : Option String
  deriving DecidableEq

namespace Status

def initial : Status where
  pending := false
  resolved := false
  rejected := none

/-- `wrapPendingReducer`. -/
def start (_ : Status) : Status where
  pending := true
  resolved := false
  rejected := none

/-- `wrapSuccessReducer`. -/
def succeed (_ : Status) : Status where
  pending := false
  resolved := true
  rejected := none

/-- `wrapFailureReducer`. -/
def fail (_ : Status) (error : String) : Status where
  pending := false
  resolved := false
  rejected := some error

end Status

/-- `NormalizedDevice`. -/
structure DeviceEntity where
  name : String
  description : String
  secret : Option String
  labels : List Uuid
  deriving DecidableEq

/-- `NormalizedLabel`. -/
structure LabelEntity where
  eventKind : EventKind
  name : String
  description : String
  rule : LabelRule
  device : Uuid
  deriving DecidableEq

/-- The labels of an event.  Rekeying turns an array that is not empty into an
object with the indices as its keys, which cannot be iterated. -/
inductive EventLabels where
  | array (ids : List Uuid)
  | indexed (ids : List Uuid)
  deriving DecidableEq

namespace EventLabels

def ids : EventLabels → List Uuid
  | array ids => ids
  | indexed ids => ids

/-- The labels of a response after rekeying. -/
def rekeyed : List Uuid → EventLabels
  | [] => array []
  | id :: ids => indexed (id :: ids)

end EventLabels

/-- `NormalizedEvent`. -/
structure EventEntity where
  kind : EventKind
  payload : Db.EventPayload
  startedAt : DateTime
  endedAt : DateTime
  device : Uuid
  labels : EventLabels
  deriving DecidableEq

/-- A slice with requests that fetch, create and delete. -/
structure Slice (β : Type) where
  entities : Entities Uuid β
  fetch : Status
  create : Status
  delete : Status

namespace Slice

variable {β : Type}

def initial : Slice β where
  entities := .empty
  fetch := .initial
  create := .initial
  delete := .initial

def fetchStart (slice : Slice β) : Slice β :=
  { slice with fetch := slice.fetch.start }

def fetchFailure (slice : Slice β) (error : String) : Slice β :=
  { slice with fetch := slice.fetch.fail error }

def fetchSuccess (slice : Slice β) (payload : Entities Uuid β) : Slice β :=
  { slice with
    entities := slice.entities.addMany payload.entries
    fetch := slice.fetch.succeed }

def createStart (slice : Slice β) : Slice β :=
  { slice with create := slice.create.start }

def createFailure (slice : Slice β) (error : String) : Slice β :=
  { slice with create := slice.create.fail error }

def createSuccess (slice : Slice β) (id : Uuid) (payload : β) : Slice β :=
  { slice with
    entities := slice.entities.addOne id payload
    create := slice.create.succeed }

def deleteStart (slice : Slice β) : Slice β :=
  { slice with delete := slice.delete.start }

def deleteFailure (slice : Slice β) (error : String) : Slice β :=
  { slice with delete := slice.delete.fail error }

def deleteSuccess (slice : Slice β) (id : Uuid) : Slice β :=
  { slice with
    entities := slice.entities.removeOne id
    delete := slice.delete.succeed }

end Slice

/-- Labels under the identifier of what they belong to. -/
abbrev LabelGroups := List (Uuid × List (Uuid × LabelEntity))

namespace DeviceEntity

def setLabels (labels : List Uuid) (device : DeviceEntity) : DeviceEntity :=
  { device with labels := labels }

end DeviceEntity

namespace EventEntity

def setLabels (labels : EventLabels) (event : EventEntity) : EventEntity :=
  { event with labels := labels }

end EventEntity

abbrev DeviceSlice := Slice DeviceEntity

abbrev LabelSlice := Slice LabelEntity

namespace DeviceSlice

/-- The labels of a device, none for a device that is not there. -/
def labelsOf (slice : DeviceSlice) (id : Uuid) : List Uuid :=
  ((slice.entities.lookup id).map DeviceEntity.labels).getD []

/-- The update of one device that lists the labels of a group. -/
def listing (slice : DeviceSlice) (group : Uuid × List (Uuid × LabelEntity)) :
    Uuid × (DeviceEntity → DeviceEntity) :=
  (group.1, .setLabels (uniq (slice.labelsOf group.1 ++ group.2.map Prod.fst)))

def addDevicesLabels (slice : DeviceSlice) (payload : LabelGroups) : DeviceSlice :=
  { slice with entities := slice.entities.updateMany (payload.map slice.listing) }

/-- The update of one device that drops the labels of a group. -/
def unlisting (slice : DeviceSlice) (group : Uuid × List (Uuid × LabelEntity)) :
    Uuid × (DeviceEntity → DeviceEntity) :=
  (group.1, .setLabels
    ((slice.labelsOf group.1).filter fun label => label ∉ group.2.map Prod.fst))

def deleteDevicesLabels (slice : DeviceSlice) (payload : LabelGroups) : DeviceSlice :=
  { slice with entities := slice.entities.updateMany (payload.map slice.unlisting) }

end DeviceSlice

/-- The event slice has no requests but fetching. -/
structure EventSlice where
  entities : Entities Uuid EventEntity
  fetch : Status
  /-- The start of the shown day in milliseconds. -/
  filterInDay : Int

namespace EventSlice

def initial (today : Int) : EventSlice where
  entities := .empty
  fetch := .initial
  filterInDay := today

def fetchStart (slice : EventSlice) : EventSlice :=
  { slice with fetch := slice.fetch.start }

def fetchFailure (slice : EventSlice) (error : String) : EventSlice :=
  { slice with fetch := slice.fetch.fail error }

def fetchSuccess (slice : EventSlice) (payload : Entities Uuid EventEntity) : EventSlice :=
  { slice with
    entities := slice.entities.addMany payload.entries
    fetch := slice.fetch.succeed }

def updateFilterInDay (slice : EventSlice) (filterInDay : Int) : EventSlice :=
  { slice with filterInDay := filterInDay }

def addEvent (slice : EventSlice) (id : Uuid) (event : EventEntity) : EventSlice :=
  { slice with entities := slice.entities.addOne id event }

/-- What an update spreads: the labels of an event, none for an event that is
not there, and an error for labels that cannot be iterated. -/
def labelsOf (slice : EventSlice) (id : Uuid) : Option (List Uuid) :=
  match (slice.entities.lookup id).map EventEntity.labels with
  | none => some []
  | some (.array ids) => some ids
  | some (.indexed _) => none

/-- The update of one event that lists the labels of a group. -/
def listing (slice : EventSlice) (group : Uuid × List (Uuid × LabelEntity)) :
    Option (Uuid × (EventEntity → EventEntity)) :=
  (slice.labelsOf group.1).map fun labels =>
    (group.1, .setLabels (.array (uniq (labels ++ group.2.map Prod.fst))))

/-- Undefined where the reducer throws. -/
def addEventsLabels (slice : EventSlice) (payload : LabelGroups) : Option EventSlice :=
  (payload.mapM slice.listing).map fun updates =>
    { slice with entities := slice.entities.replaceMany updates }

end EventSlice

end Bug.Frontend
