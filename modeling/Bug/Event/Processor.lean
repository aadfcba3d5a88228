import Bug.Db.Database

/-!
# The event processor and the websocket sessions

Handling an event returns a future that reads the labels, inserts the event and
then broadcasts it to the sessions registered at that moment.  Any number of
these futures run at the same time, next to new registrations and to everything
else that happens to the database.  Either call to the database may fail, and an
insertion may take effect and still be answered with an error.
-/

namespace Bug

open Bug.Db
open Bug.Transition

/-- Where the future of one event stands. -/
inductive EventFuture where
  /-- Before the answer to the label query. -/
  | selecting (msg : NewEvent)
  /-- Before the answer to the insertion. -/
  | inserting (msg : NewEvent)
  /-- Before `send_event`. -/
  | broadcasting (event : EventRow)
  | done (event : EventRow)
  | failed (error : Db.Error)
  deriving DecidableEq

namespace EventFuture

/-- The event, once its insertion was acknowledged. -/
def event? : EventFuture → Option EventRow
  | selecting _ => none
  | inserting _ => none
  | broadcasting event => some event
  | done event => some event
  | failed _ => none

def isDone : EventFuture → Bool
  | done _ => true
  | selecting _ => false
  | inserting _ => false
  | broadcasting _ => false
  | failed _ => false

end EventFuture

/-- What happened, in the order it happened. -/
inductive Happening where
  | inserted (future : Nat) (event : EventRow)
  | registered (session : Nat)
  | broadcast (future : Nat) (event : EventRow)
  | sent (session future : Nat) (event : EventRow)
  deriving DecidableEq

structure EventProcessor where
  database : Database
  futures : List EventFuture
  /-- The sessions registered for events. -/
  sessions : List Nat
  log : List Happening

/-- The conversion of a mailbox error. -/
def Db.Error.ofMailbox : MailboxError → Db.Error
  | .closed => .unexpected "mailbox error: closed"
  | .timeout => .unexpected "mailbox error: timeout"

namespace EventProcessor

inductive Action where
  | handle (msg : NewEvent)
  /-- The label query of a future is answered with the labels. -/
  | labels (future : Nat)
  /-- The database inserts the event of a future under the generated key. -/
  | insert (future : Nat) (id : Uuid) (acknowledged : Bool)
  /-- The pending call of a future is answered with an error. -/
  | fail (future : Nat) (error : MailboxError ⊕ Db.Error)
  | broadcast (future : Nat)
  | register
  /-- Something else happens to the database. -/
  | database (action : Database.Action)

def new (database : Database) : EventProcessor where
  database := database
  futures := []
  sessions := []
  log := []

def setFuture (processor : EventProcessor) (index : Nat) (future : EventFuture) :
    EventProcessor :=
  { processor with futures := processor.futures.set index future }

def record (processor : EventProcessor) (happened : List Happening) : EventProcessor :=
  { processor with log := processor.log ++ happened }

/-- `WsManager::register`. -/
def register (processor : EventProcessor) : EventProcessor :=
  { processor with sessions := processor.sessions ++ [processor.sessions.length] }.record
    [.registered processor.sessions.length]

/-- `WsManager::send_event`: one message to each registered session. -/
def sendEvent (processor : EventProcessor) (index : Nat) (event : EventRow) : EventProcessor :=
  processor.record
    (.broadcast index event :: processor.sessions.map fun session => .sent session index event)

def step : LabelledStep EventProcessor Action
  | processor, .handle msg =>
      some { processor with futures := processor.futures ++ [.selecting msg] }
  | processor, .labels index =>
      match processor.futures[index]? with
      | some (.selecting msg) => some (processor.setFuture index (.inserting msg))
      | _ => none
  | processor, .insert index id acknowledged =>
      match processor.futures[index]? with
      | some (.inserting msg) =>
          let event : EventRow := ⟨id, msg⟩
          match processor.database.committed.insertEvent event with
          | none => some (processor.setFuture index (.failed (.diesel false)))
          | some tables =>
              let future := if acknowledged then .broadcasting event else .failed (.diesel false)
              some (({ processor with
                database := { processor.database with committed := tables } }.setFuture
                  index future).record [.inserted index event])
      | _ => none
  | processor, .fail index error =>
      let failure := .failed (error.elim Error.ofMailbox id)
      match processor.futures[index]? with
      | some (.selecting _) => some (processor.setFuture index failure)
      | some (.inserting _) => some (processor.setFuture index failure)
      | _ => none
  | processor, .broadcast index =>
      match processor.futures[index]? with
      | some (.broadcasting event) =>
          some ((processor.setFuture index (.done event)).sendEvent index event)
      | _ => none
  | processor, .register => some processor.register
  | processor, .database action =>
      (processor.database.step action).map fun database => { processor with database := database }

/-! ## Everything a step can do -/

inductive Transition (processor : EventProcessor) : EventProcessor → Prop
  | handled (msg : NewEvent) :
      Transition processor { processor with futures := processor.futures ++ [.selecting msg] }
  | moved {index : Nat} {future next : EventFuture} :
      processor.futures[index]? = some future → future.isDone = false → next.event? = none →
      Transition processor (processor.setFuture index next)
  | inserted {index : Nat} {msg : NewEvent} {id : Uuid} {tables : Tables} {next : EventFuture} :
      processor.futures[index]? = some (.inserting msg) →
      (next = .broadcasting ⟨id, msg⟩ ∨ ∃ error, next = .failed error) →
      Transition processor
        (({ processor with
          database := { processor.database with committed := tables } }.setFuture
            index next).record [.inserted index ⟨id, msg⟩])
  | broadcast {index : Nat} {event : EventRow} :
      processor.futures[index]? = some (.broadcasting event) →
      Transition processor ((processor.setFuture index (.done event)).sendEvent index event)
  | registered : Transition processor processor.register
  | elsewhere (database : Database) : Transition processor { processor with database := database }

theorem transition_of_step {processor next : EventProcessor} {action : Action}
    (stepped : processor.step action = some next) : Transition processor next := by
  cases action with
  | handle msg =>
      cases stepped
      exact .handled msg
  | labels index =>
      simp only [step] at stepped
      split at stepped
      · rename_i msg selecting
        cases stepped
        exact .moved selecting rfl rfl
      · cases stepped
  | insert index id acknowledged =>
      simp only [step] at stepped
      split at stepped
      · rename_i msg inserting
        split at stepped
        · cases stepped
          exact .moved inserting rfl rfl
        · cases stepped
          apply Transition.inserted inserting
          cases acknowledged with
          | true => exact Or.inl rfl
          | false => exact Or.inr ⟨_, rfl⟩
      · cases stepped
  | fail index error =>
      simp only [step] at stepped
      split at stepped
      · rename_i msg selecting
        cases stepped
        exact .moved selecting rfl rfl
      · rename_i msg inserting
        cases stepped
        exact .moved inserting rfl rfl
      · cases stepped
  | broadcast index =>
      simp only [step] at stepped
      split at stepped
      · rename_i event broadcasting
        cases stepped
        exact .broadcast broadcasting
      · cases stepped
  | register =>
      cases stepped
      exact .registered
  | database action =>
      rcases Option.map_eq_some_iff.mp stepped with ⟨database, _, rfl⟩
      exact .elsewhere database

end EventProcessor

end Bug
