import Bug.Event.Broadcast
import Bug.Transition.Simulation

/-!
# Where the stored events come from

Every message that the event processor handles becomes one future, and a future
inserts at most one event, which has the values of its message.  If nothing else
inserts events, every stored event was inserted by a future.
-/

namespace Bug

open Bug.Db
open Bug.Transition

/-- An insertion of this future. -/
def Happening.isInserted (future : Nat) : Happening → Bool
  | .inserted byFuture _ => byFuture = future
  | .registered _ => false
  | .broadcast _ _ => false
  | .sent _ _ _ => false

/-- The future works on a message. -/
def EventFuture.Carries : EventFuture → NewEvent → Prop
  | selecting own, msg => own = msg
  | inserting own, msg => own = msg
  | broadcasting event, msg => event.value = msg
  | done event, msg => event.value = msg
  | failed _, _ => True

/-- The future has not reached the end of its insertion. -/
def EventFuture.Pending : EventFuture → Prop
  | selecting _ => True
  | inserting _ => True
  | broadcasting _ => False
  | done _ => False
  | failed _ => False

namespace EventProcessor

/-- The processor does not insert events but by its futures, and takes its
messages from the mailbox. -/
def Action.Own : Action → Prop
  | handle _ => False
  | database (.insertEvent _ _) => False
  | database _ => True
  | labels _ => True
  | insert _ _ _ => True
  | fail _ _ => True
  | broadcast _ => True
  | register => True

instance : (action : Action) → Decidable action.Own
  | .handle _ => .isFalse id
  | .database (.insertEvent _ _) => .isFalse id
  | .database (.begin _ _) => .isTrue trivial
  | .database (.insertDevice _ _) => .isTrue trivial
  | .database (.insertCredential _ _ _) => .isTrue trivial
  | .database (.commit _ _) => .isTrue trivial
  | .database (.fail _ _) => .isTrue trivial
  | .database (.deleteDevice _ _) => .isTrue trivial
  | .database (.insertLabel _ _) => .isTrue trivial
  | .database (.deleteLabel _) => .isTrue trivial
  | .labels _ => .isTrue trivial
  | .insert _ _ _ => .isTrue trivial
  | .fail _ _ => .isTrue trivial
  | .broadcast _ => .isTrue trivial
  | .register => .isTrue trivial

/-- The processor has handled the messages in their order. -/
structure Processed (processor : EventProcessor) (handled : List NewEvent) : Prop where
  carried : List.Forall₂ EventFuture.Carries processor.futures handled
  inserted : ∀ index row, .inserted index row ∈ processor.log → handled[index]? = some row.value
  once : ∀ index, processor.log.countP (Happening.isInserted index) ≤ 1
  unwritten : ∀ index, (∀ future, processor.futures[index]? = some future → future.Pending) →
    processor.log.countP (Happening.isInserted index) = 0
  stored : ∀ row ∈ processor.database.committed.events, ∃ index,
    .inserted index row ∈ processor.log
  recorded : processor.Recorded

/-! ## The rest of the database -/

/-- No other statement adds events. -/
theorem events_database {database next : Database} {action : Database.Action}
    (own : (Action.database action).Own) (stepped : database.step action = some next) :
    next.committed.events ⊆ database.committed.events := by
  cases action with
  | begin index value =>
      simp only [Database.step] at stepped
      split at stepped
      · cases stepped
        exact List.Subset.refl _
      · cases stepped
  | insertDevice index id =>
      simp only [Database.step] at stepped
      split at stepped
      · split at stepped
        · cases stepped
        · split at stepped
          · cases stepped
            exact List.Subset.refl _
          · cases stepped
            exact List.Subset.refl _
      · cases stepped
  | insertCredential index id secret =>
      simp only [Database.step] at stepped
      split at stepped
      · split at stepped
        · cases stepped
        · split at stepped
          · cases stepped
            exact List.Subset.refl _
          · cases stepped
            exact List.Subset.refl _
      · cases stepped
  | commit index acknowledged =>
      simp only [Database.step] at stepped
      split at stepped
      · cases stepped
        exact List.Subset.refl _
      · cases stepped
  | fail index error =>
      simp only [Database.step] at stepped
      split at stepped
      · cases stepped
      · cases stepped
        exact List.Subset.refl _
      · cases stepped
  | deleteDevice id acknowledged =>
      cases stepped
      exact List.filter_subset_self _
  | insertLabel id value =>
      rcases Option.map_eq_some_iff.mp stepped with ⟨tables, inserted, rfl⟩
      cases (Option.ite_none_left_eq_some.mp inserted).2
      exact List.Subset.refl _
  | deleteLabel id =>
      cases stepped
      exact List.filter_subset_self _
  | insertEvent id value => exact own.elim

/-! ## One step -/

section Steps

variable {processor : EventProcessor} {handled : List NewEvent}

theorem processed_new (database : Database) (empty : database.committed.events = []) :
    (new database).Processed [] where
  carried := .nil
  inserted := by
    intro index row present
    cases present
  once := fun index => Nat.zero_le 1
  unwritten := fun index _ => rfl
  stored := by
    intro row present
    change row ∈ database.committed.events at present
    rw [empty] at present
    cases present
  recorded := recorded_new database

/-- A message is handled. -/
theorem Processed.handle (processed : processor.Processed handled) (msg : NewEvent) :
    ({ processor with futures := processor.futures ++ [.selecting msg] } :
      EventProcessor).Processed (handled ++ [msg]) where
  carried := List.rel_append processed.carried (.cons rfl .nil)
  inserted := by
    intro index row present
    have found := processed.inserted index row present
    rw [List.getElem?_append_left (List.getElem?_eq_some_iff.mp found).1]
    exact found
  once := processed.once
  unwritten := by
    intro index pending
    apply processed.unwritten
    intro future found
    apply pending
    rw [List.getElem?_append_left (List.getElem?_eq_some_iff.mp found).1]
    exact found
  stored := processed.stored
  recorded := processed.recorded.of_transition (.handled msg)

/-- A future moves on before the end of its insertion. -/
theorem Processed.move (processed : processor.Processed handled) {index : Nat}
    {future next : EventFuture} (found : processor.futures[index]? = some future)
    (pending : future.Pending) (silent : next.event? = none)
    (carries : ∀ msg, future.Carries msg → next.Carries msg) :
    (processor.setFuture index next).Processed handled where
  carried := forall₂_set_left processed.carried found carries
  inserted := processed.inserted
  once := processed.once
  unwritten := by
    intro other pendingNow
    apply processed.unwritten
    intro current present
    by_cases same : index = other
    · subst same
      cases found.symm.trans present
      exact pending
    · apply pendingNow
      change (processor.futures.set index next)[other]? = some current
      rw [List.getElem?_set_ne same]
      exact present
  stored := processed.stored
  recorded := by
    apply processed.recorded.of_transition (.moved found _ silent)
    cases future with
    | selecting msg => rfl
    | inserting msg => rfl
    | broadcasting event => exact pending.elim
    | done event => exact pending.elim
    | failed error => exact pending.elim

/-- New entries and a future that is not pending any more. -/
theorem unwritten_append {recent : List Happening} (processed : processor.Processed handled)
    {index : Nat} {next : EventFuture} (finished : ¬ next.Pending)
    (inside : index < processor.futures.length)
    (silent : ∀ other, other ≠ index → recent.countP (Happening.isInserted other) = 0) :
    ∀ other, (∀ future, (processor.futures.set index next)[other]? = some future →
      future.Pending) →
        (processor.log ++ recent).countP (Happening.isInserted other) = 0 := by
  intro other pendingNow
  by_cases same : other = index
  · subst same
    exact absurd (pendingNow next (List.getElem?_set_self inside)) finished
  · rw [List.countP_append, silent other same, Nat.add_zero]
    apply processed.unwritten
    intro current present
    apply pendingNow
    rw [List.getElem?_set_ne (Ne.symm same)]
    exact present

/-- A future inserts its event. -/
theorem Processed.insert (processed : processor.Processed handled) {index : Nat} {msg : NewEvent}
    {id : Uuid} {tables : Tables} {next : EventFuture}
    (found : processor.futures[index]? = some (.inserting msg))
    (inserted : processor.database.committed.insertEvent ⟨id, msg⟩ = some tables)
    (result : next = .broadcasting ⟨id, msg⟩ ∨ ∃ error, next = .failed error) :
    (({ processor with
      database := { processor.database with committed := tables } }.setFuture index next).record
        [.inserted index ⟨id, msg⟩]).Processed handled where
  carried := by
    apply forall₂_set_left processed.carried found
    rintro other rfl
    rcases result with rfl | ⟨error, rfl⟩
    · rfl
    · exact trivial
  inserted := by
    intro other row present
    rcases List.mem_append.mp present with old | new
    · exact processed.inserted other row old
    · cases List.mem_singleton.mp new
      rcases getElem?_of_forall₂ processed.carried found with ⟨own, waiting, rfl⟩
      exact waiting
  once := by
    intro other
    change (processor.log ++ [_]).countP _ ≤ 1
    rw [List.countP_append, List.countP_singleton]
    by_cases same : index = other
    · subst same
      have unwritten := processed.unwritten index fun future present => by
        cases found.symm.trans present
        exact trivial
      rw [unwritten, Nat.zero_add]
      split
      · exact Nat.le_refl 1
      · exact Nat.zero_le 1
    · rw [if_neg (by simp [Happening.isInserted, same]), Nat.add_zero]
      exact processed.once other
  unwritten := by
    apply unwritten_append processed
    · rcases result with rfl | ⟨error, rfl⟩
      · exact fun pending => pending
      · exact fun pending => pending
    · exact (List.getElem?_eq_some_iff.mp found).1
    · intro other different
      rw [List.countP_singleton, if_neg (by simp [Happening.isInserted, Ne.symm different])]
  stored := by
    intro row present
    cases (Option.ite_none_left_eq_some.mp inserted).2
    rcases List.mem_append.mp present with old | new
    · rcases processed.stored row old with ⟨other, written⟩
      exact ⟨other, List.mem_append_left _ written⟩
    · rw [List.mem_singleton.mp new]
      exact ⟨index, List.mem_append_right _ List.mem_cons_self⟩
  recorded := processed.recorded.of_transition (.inserted found result)

theorem isInserted_sendEvent (sessions : List Nat) (index other : Nat) (event : EventRow) :
    (Happening.broadcast index event :: sessions.map fun session =>
      Happening.sent session index event).countP (Happening.isInserted other) = 0 := by
  rw [List.countP_eq_zero]
  intro entry present
  rcases List.mem_cons.mp present with rfl | sent
  · exact Bool.false_ne_true
  · rcases List.mem_map.mp sent with ⟨session, -, rfl⟩
    exact Bool.false_ne_true

/-- A future broadcasts its event. -/
theorem Processed.broadcast (processed : processor.Processed handled) {index : Nat}
    {event : EventRow} (found : processor.futures[index]? = some (.broadcasting event)) :
    ((processor.setFuture index (.done event)).sendEvent index event).Processed handled where
  carried := forall₂_set_left processed.carried found fun _ same => same
  inserted := by
    intro other row present
    rcases List.mem_append.mp present with old | new
    · exact processed.inserted other row old
    · rcases List.mem_cons.mp new with isBroadcast | isSent
      · cases isBroadcast
      · rcases List.mem_map.mp isSent with ⟨session, -, sent⟩
        cases sent
  once := by
    intro other
    change (processor.log ++ _).countP _ ≤ 1
    rw [List.countP_append]
    have silent := isInserted_sendEvent processor.sessions index other event
    exact Nat.le_trans (Nat.le_of_eq (congrArg _ silent)) (processed.once other)
  unwritten := by
    apply unwritten_append processed id (List.getElem?_eq_some_iff.mp found).1
    intro other _
    exact isInserted_sendEvent processor.sessions index other event
  stored := by
    intro row present
    rcases processed.stored row present with ⟨other, written⟩
    exact ⟨other, List.mem_append_left _ written⟩
  recorded := processed.recorded.of_transition (.broadcast found)

/-- A websocket session is registered. -/
theorem Processed.register (processed : processor.Processed handled) :
    processor.register.Processed handled where
  carried := processed.carried
  inserted := by
    intro other row present
    rcases List.mem_append.mp present with old | new
    · exact processed.inserted other row old
    · cases List.mem_singleton.mp new
  once := by
    intro other
    change (processor.log ++ [_]).countP _ ≤ 1
    rw [List.countP_append, List.countP_singleton]
    exact processed.once other
  unwritten := by
    intro other pending
    change (processor.log ++ [_]).countP _ = 0
    rw [List.countP_append, List.countP_singleton]
    exact processed.unwritten other pending
  stored := by
    intro row present
    rcases processed.stored row present with ⟨other, written⟩
    exact ⟨other, List.mem_append_left _ written⟩
  recorded := processed.recorded.of_transition .registered

theorem Processed.step {next : EventProcessor} {action : Action}
    (processed : processor.Processed handled) (own : action.Own)
    (stepped : processor.step action = some next) : next.Processed handled := by
  cases action with
  | handle msg => exact own.elim
  | labels index =>
      simp only [EventProcessor.step] at stepped
      split at stepped
      · rename_i msg selecting
        cases stepped
        exact processed.move selecting trivial rfl fun _ same => same
      · cases stepped
  | insert index id acknowledged =>
      simp only [EventProcessor.step] at stepped
      split at stepped
      · rename_i msg inserting
        split at stepped
        · cases stepped
          exact processed.move inserting trivial rfl fun _ _ => trivial
        · rename_i tables inserted
          cases stepped
          apply processed.insert inserting inserted
          cases acknowledged with
          | true => exact Or.inl rfl
          | false => exact Or.inr ⟨_, rfl⟩
      · cases stepped
  | fail index error =>
      simp only [EventProcessor.step] at stepped
      split at stepped
      · rename_i msg selecting
        cases stepped
        exact processed.move selecting trivial rfl fun _ _ => trivial
      · rename_i msg inserting
        cases stepped
        exact processed.move inserting trivial rfl fun _ _ => trivial
      · cases stepped
  | broadcast index =>
      simp only [EventProcessor.step] at stepped
      split at stepped
      · rename_i event broadcasting
        cases stepped
        exact processed.broadcast broadcasting
      · cases stepped
  | register =>
      cases stepped
      exact processed.register
  | database action =>
      rcases Option.map_eq_some_iff.mp stepped with ⟨database, changed, rfl⟩
      have events := events_database own changed
      exact
        { processed with
          stored := fun row present => processed.stored row (events present)
          recorded := processed.recorded.of_transition (.elsewhere database) }

end Steps

end EventProcessor

end Bug
