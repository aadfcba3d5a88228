import Bug.Event.Processor
import Bug.Transition.History
import Mathlib.Data.List.Nodup

/-!
# What the websocket sessions are sent

The history of the event processor orders insertions, registrations, broadcasts
and messages.  A broadcast is followed by one message to every session
registered before it, and it happens once per event that was inserted.
-/

namespace Bug

open Bug.Db
open Bug.Transition

/-- A message of this future to this session. -/
def Happening.isSent (session future : Nat) : Happening → Bool
  | .sent toSession fromFuture _ => toSession = session ∧ fromFuture = future
  | .inserted _ _ => false
  | .registered _ => false
  | .broadcast _ _ => false

namespace EventProcessor

structure Recorded (processor : EventProcessor) : Prop where
  distinct : processor.sessions.Nodup
  bounded : ∀ session ∈ processor.sessions, session < processor.sessions.length
  registered : ∀ session, .registered session ∈ processor.log ↔ session ∈ processor.sessions
  inserted : ∀ index future event, processor.futures[index]? = some future →
    future.event? = some event → .inserted index event ∈ processor.log
  quiet : ∀ index, (∀ event, processor.futures[index]? ≠ some (.done event)) →
    ∀ event, .broadcast index event ∉ processor.log ∧
      ∀ session, .sent session index event ∉ processor.log
  preceded : ∀ session index event,
    Preceded processor.log (.inserted index event) (.sent session index event)
  announced : ∀ index event,
    Preceded processor.log (.inserted index event) (.broadcast index event)
  heard : ∀ session index event, .sent session index event ∈ processor.log ↔
    HappensBefore processor.log (.registered session) (.broadcast index event)
  once : ∀ session index, processor.log.countP (Happening.isSent session index) ≤ 1

theorem recorded_new (database : Database) : (new database).Recorded where
  distinct := List.nodup_nil
  bounded := by
    intro session present
    cases present
  registered := by
    intro session
    constructor
    · intro present
      cases present
    · intro present
      cases present
  inserted := by
    intro index future event found
    cases found
  quiet := by
    intro index undone event
    constructor
    · exact List.not_mem_nil
    · intro session
      exact List.not_mem_nil
  preceded := fun session index event => preceded_nil _ _
  announced := fun index event => preceded_nil _ _
  heard := by
    intro session index event
    constructor
    · intro present
      cases present
    · intro ordered
      cases ordered.mem_early
  once := fun session index => Nat.zero_le 1

/-! ## One step -/

/-- Messages keep following registrations and broadcasts when the new entries
do. -/
theorem heard_append {log recent : List Happening} {session index : Nat} {event : EventRow}
    (heard : .sent session index event ∈ log ↔
      HappensBefore log (.registered session) (.broadcast index event))
    (new : .sent session index event ∈ recent ↔
      .registered session ∈ log ∧ .broadcast index event ∈ recent)
    (unordered : ¬ HappensBefore recent (.registered session) (.broadcast index event)) :
    .sent session index event ∈ log ++ recent ↔
      HappensBefore (log ++ recent) (.registered session) (.broadcast index event) := by
  rw [List.mem_append, happensBefore_append_iff, heard, new]
  simp [unordered]

theorem getElem?_set_of_undone {futures : List EventFuture} {index : Nat}
    {future next : EventFuture} (found : futures[index]? = some future)
    (undone : future.isDone = false) {other : Nat} {event : EventRow}
    (done : futures[other]? = some (.done event)) :
    (futures.set index next)[other]? = some (.done event) := by
  have different : index ≠ other := by
    rintro rfl
    rw [found] at done
    cases done
    cases undone
  rw [List.getElem?_set_ne different]
  exact done

/-- New entries about events that are done leave the others quiet. -/
theorem Recorded.quiet_append {processor : EventProcessor} (recorded : processor.Recorded)
    {futures : List EventFuture} {recent : List Happening}
    (done : ∀ (index : Nat) (event : EventRow), processor.futures[index]? = some (.done event) →
      futures[index]? = some (.done event))
    {index : Nat} (undone : ∀ event, futures[index]? ≠ some (.done event)) {event : EventRow}
    (unbroadcast : .broadcast index event ∉ recent)
    (unsent : ∀ session, .sent session index event ∉ recent) :
    .broadcast index event ∉ processor.log ++ recent ∧
      ∀ session, .sent session index event ∉ processor.log ++ recent := by
  have undoneBefore : ∀ event, processor.futures[index]? ≠ some (.done event) := by
    intro event found
    exact undone event (done index event found)
  rcases recorded.quiet index undoneBefore event with ⟨noBroadcast, noMessage⟩
  constructor
  · rw [List.mem_append, or_iff_left unbroadcast]
    exact noBroadcast
  · intro session
    rw [List.mem_append, or_iff_left (unsent session)]
    exact noMessage session

/-- A step that neither registers nor broadcasts. -/
theorem Recorded.silent {processor next : EventProcessor} (recorded : processor.Recorded)
    {recent : List Happening} (sessions : next.sessions = processor.sessions)
    (log : next.log = processor.log ++ recent)
    (insertions : ∀ entry ∈ recent, ∃ index event, entry = .inserted index event)
    (inserted : ∀ index future event, next.futures[index]? = some future →
      future.event? = some event → .inserted index event ∈ next.log)
    (done : ∀ (index : Nat) (event : EventRow), processor.futures[index]? = some (.done event) →
      next.futures[index]? = some (.done event)) : next.Recorded := by
  have unsent : ∀ session index event, .sent session index event ∉ recent := by
    intro session index event present
    rcases insertions _ present with ⟨_, _, different⟩
    cases different
  have unbroadcast : ∀ index event, .broadcast index event ∉ recent := by
    intro index event present
    rcases insertions _ present with ⟨_, _, different⟩
    cases different
  have unregistered : ∀ session, .registered session ∉ recent := by
    intro session present
    rcases insertions _ present with ⟨_, _, different⟩
    cases different
  constructor
  · rw [sessions]
    exact recorded.distinct
  · rw [sessions]
    exact recorded.bounded
  · intro session
    rw [log, sessions, List.mem_append, or_iff_left (unregistered session)]
    exact recorded.registered session
  · exact inserted
  · intro index undone event
    rw [log]
    apply recorded.quiet_append done undone (unbroadcast index event)
    intro session
    exact unsent session index event
  · intro session index event
    rw [log]
    apply (recorded.preceded session index event).append
    intro present
    exact absurd present (unsent session index event)
  · intro index event
    rw [log]
    apply (recorded.announced index event).append
    intro present
    exact absurd present (unbroadcast index event)
  · intro session index event
    rw [log]
    apply heard_append (recorded.heard session index event)
    · simp [unsent session index event, unbroadcast index event]
    · intro ordered
      exact unbroadcast index event ordered.mem_late
  · intro session index
    have none : recent.countP (Happening.isSent session index) = 0 := by
      rw [List.countP_eq_zero]
      intro entry present
      rcases insertions entry present with ⟨_, _, rfl⟩
      simp [Happening.isSent]
    rw [log, List.countP_append, none]
    exact recorded.once session index

theorem Recorded.register {processor : EventProcessor} (recorded : processor.Recorded) :
    processor.register.Recorded := by
  have fresh : processor.sessions.length ∉ processor.sessions := by
    intro present
    exact Nat.lt_irrefl _ (recorded.bounded _ present)
  constructor
  · change (processor.sessions ++ [processor.sessions.length]).Nodup
    exact List.nodup_append_comm.mp (List.nodup_cons.mpr ⟨fresh, recorded.distinct⟩)
  · intro session present
    change session < (processor.sessions ++ [processor.sessions.length]).length
    rw [List.length_append, List.length_singleton]
    rcases List.mem_append.mp present with old | new
    · exact Nat.lt_succ_of_lt (recorded.bounded session old)
    · rw [List.mem_singleton.mp new]
      exact Nat.lt_succ_self _
  · intro session
    change .registered session ∈ processor.log ++ [.registered processor.sessions.length] ↔
      session ∈ processor.sessions ++ [processor.sessions.length]
    simp [recorded.registered session]
  · intro index future event found written
    exact List.mem_append_left _ (recorded.inserted index future event found written)
  · intro index undone event
    apply recorded.quiet_append (fun _ _ found => found) undone
    · simp
    · simp
  · intro session index event
    apply (recorded.preceded session index event).append
    intro present
    cases List.mem_singleton.mp present
  · intro index event
    apply (recorded.announced index event).append
    intro present
    cases List.mem_singleton.mp present
  · intro session index event
    apply heard_append (recorded.heard session index event)
    · simp
    · intro ordered
      cases List.mem_singleton.mp ordered.mem_late
  · intro session index
    change (processor.log ++ [_]).countP _ ≤ 1
    rw [List.countP_append]
    exact recorded.once session index

theorem countP_isSent_map {sessions : List Nat} (distinct : sessions.Nodup)
    (session target index : Nat) (event : EventRow) :
    (sessions.map fun other => Happening.sent other index event).countP
      (Happening.isSent session target) ≤ if index = target then 1 else 0 := by
  rw [List.countP_map]
  by_cases same : index = target
  · rw [if_pos same]
    have counted : sessions.countP (Happening.isSent session target ∘
        fun other => Happening.sent other index event) = sessions.count session := by
      rw [List.count]
      apply List.countP_congr
      intro other _
      simp [Happening.isSent, same]
    rw [counted]
    exact List.nodup_iff_count_le_one.mp distinct session
  · rw [if_neg same, Nat.le_zero, List.countP_eq_zero]
    intro other _
    simp [Happening.isSent, same]

theorem Recorded.countP_of_undone {processor : EventProcessor} (recorded : processor.Recorded)
    {index : Nat} (undone : ∀ event, processor.futures[index]? ≠ some (.done event))
    (session : Nat) : processor.log.countP (Happening.isSent session index) = 0 := by
  rw [List.countP_eq_zero]
  intro entry present
  cases entry with
  | sent toSession fromFuture event =>
      intro matching
      simp only [Happening.isSent, decide_eq_true_eq] at matching
      rcases matching with ⟨rfl, rfl⟩
      exact (recorded.quiet _ undone event).2 _ present
  | inserted future event => simp [Happening.isSent]
  | registered other => simp [Happening.isSent]
  | broadcast future event => simp [Happening.isSent]

theorem sent_mem_broadcast_iff {sessions : List Nat} {index session other : Nat}
    {event found : EventRow} :
    Happening.sent session other found ∈
        .broadcast index event :: sessions.map (fun session => .sent session index event) ↔
      session ∈ sessions ∧ other = index ∧ found = event := by
  simp only [List.mem_cons, List.mem_map, reduceCtorEq, false_or, Happening.sent.injEq]
  constructor
  · rintro ⟨_, member, rfl, rfl, rfl⟩
    exact ⟨member, rfl, rfl⟩
  · rintro ⟨member, rfl, rfl⟩
    exact ⟨session, member, rfl, rfl, rfl⟩

theorem broadcast_mem_broadcast_iff {sessions : List Nat} {index other : Nat}
    {event found : EventRow} :
    Happening.broadcast other found ∈
        .broadcast index event :: sessions.map (fun session => .sent session index event) ↔
      other = index ∧ found = event := by
  simp

/-- Broadcasting an inserted event sends it to every registered session. -/
theorem Recorded.broadcast {processor : EventProcessor} (recorded : processor.Recorded)
    {index : Nat} {event : EventRow}
    (broadcasting : processor.futures[index]? = some (.broadcasting event)) :
    ((processor.setFuture index (.done event)).sendEvent index event).Recorded := by
  have undone : ∀ other, processor.futures[index]? ≠ some (.done other) := by
    intro other done
    rw [broadcasting] at done
    cases done
  have stored : .inserted index event ∈ processor.log :=
    recorded.inserted index _ event broadcasting rfl
  constructor
  · exact recorded.distinct
  · exact recorded.bounded
  · intro session
    simpa [sendEvent, setFuture, record] using recorded.registered session
  · intro other future found present written
    apply List.mem_append_left
    rcases getElem?_set_cases present with ⟨rfl, rfl⟩ | ⟨_, unchanged⟩
    · cases written
      exact stored
    · exact recorded.inserted other future found unchanged written
  · intro other undoneNow found
    have different : other ≠ index := by
      rintro rfl
      apply undoneNow event
      have inside : other < processor.futures.length :=
        (List.getElem?_eq_some_iff.mp broadcasting).1
      exact List.getElem?_set_self inside
    apply recorded.quiet_append (fun _ _ done => getElem?_set_of_undone broadcasting rfl done)
      undoneNow
    · intro new
      exact different (broadcast_mem_broadcast_iff.mp new).1
    · intro session new
      exact different (sent_mem_broadcast_iff.mp new).2.1
  · intro session other found
    apply (recorded.preceded session other found).append
    intro present
    rcases sent_mem_broadcast_iff.mp present with ⟨_, rfl, rfl⟩
    exact stored
  · intro other found
    apply (recorded.announced other found).append
    intro present
    rcases broadcast_mem_broadcast_iff.mp present with ⟨rfl, rfl⟩
    exact stored
  · intro session other found
    apply heard_append (recorded.heard session other found)
    · rw [recorded.registered session]
      exact sent_mem_broadcast_iff.trans (and_congr_right fun _ => broadcast_mem_broadcast_iff.symm)
    · intro ordered
      have present := ordered.mem_early
      simp at present
  · intro session other
    change (processor.log ++ Happening.broadcast index event ::
      processor.sessions.map fun session => Happening.sent session index event).countP _ ≤ 1
    rw [List.countP_append, List.countP_cons_of_neg (by simp [Happening.isSent])]
    have new := countP_isSent_map recorded.distinct session other index event
    by_cases same : index = other
    · subst same
      rw [recorded.countP_of_undone undone, Nat.zero_add]
      rwa [if_pos rfl] at new
    · rw [if_neg same, Nat.le_zero] at new
      rw [new]
      exact recorded.once session other

theorem Recorded.of_transition {processor next : EventProcessor} (recorded : processor.Recorded)
    (transition : Transition processor next) : next.Recorded := by
  cases transition with
  | handled msg =>
      refine recorded.silent rfl (List.append_nil _).symm ?_ ?_ ?_
      · intro entry present
        cases present
      · intro index future event found written
        change (processor.futures ++ [_])[index]? = _ at found
        rw [List.getElem?_append] at found
        split at found
        · exact recorded.inserted index future event found written
        · rw [List.mem_singleton.mp (List.mem_of_getElem? found)] at written
          cases written
      · intro index event done
        change (processor.futures ++ [_])[index]? = _
        rw [List.getElem?_append_left (List.getElem?_eq_some_iff.mp done).1]
        exact done
  | moved found undone silent =>
      refine recorded.silent rfl (List.append_nil _).symm ?_ ?_ ?_
      · intro entry present
        cases present
      · intro other future event present written
        rcases getElem?_set_cases present with ⟨rfl, rfl⟩ | ⟨_, unchanged⟩
        · rw [silent] at written
          cases written
        · exact recorded.inserted other future event unchanged written
      · intro other event done
        exact getElem?_set_of_undone found undone done
  | inserted found next =>
      rename_i index msg id tables future
      refine recorded.silent rfl (rfl : _ = _ ++ [Happening.inserted index ⟨id, msg⟩]) ?_ ?_ ?_
      · intro entry present
        exact ⟨index, ⟨id, msg⟩, List.mem_singleton.mp present⟩
      · intro other current event present written
        rcases getElem?_set_cases present with ⟨rfl, rfl⟩ | ⟨_, unchanged⟩
        · apply List.mem_append_right
          rcases next with rfl | ⟨error, rfl⟩
          · cases written
            exact List.mem_cons_self
          · cases written
        · exact List.mem_append_left _ (recorded.inserted other current event unchanged written)
      · intro other event done
        exact getElem?_set_of_undone found rfl done
  | broadcast broadcasting => exact recorded.broadcast broadcasting
  | registered => exact recorded.register
  | elsewhere database =>
      refine recorded.silent rfl (List.append_nil _).symm ?_ ?_ ?_
      · intro entry present
        cases present
      · exact recorded.inserted
      · intro index event done
        exact done

/-! ## Every run -/

/-- In every run, a session is sent an event only after the event was inserted,
at most once, and exactly when the event was broadcast after the session was
registered.  A failed query or insertion has no broadcast. -/
theorem sent_exactly_once {database : Database} {actions : List Action}
    {processor : EventProcessor}
    (reached : follow step (new database) actions = some processor) :
    (∀ session index event,
      Preceded processor.log (.inserted index event) (.sent session index event)) ∧
    (∀ session index, processor.log.countP (Happening.isSent session index) ≤ 1) ∧
    (∀ session index event, .sent session index event ∈ processor.log ↔
      HappensBefore processor.log (.registered session) (.broadcast index event)) ∧
    (∀ index event,
      Preceded processor.log (.inserted index event) (.broadcast index event)) ∧
    (∀ index error, processor.futures[index]? = some (.failed error) → ∀ event,
      .broadcast index event ∉ processor.log ∧
        ∀ session, .sent session index event ∉ processor.log) := by
  have preserved : ∀ processor action next, Recorded processor →
      step processor action = some next → next.Recorded := by
    intro processor action next recorded stepped
    exact recorded.of_transition (transition_of_step stepped)
  have recorded := follow_preserves preserved (recorded_new database) reached
  refine ⟨recorded.preceded, recorded.once, recorded.heard, recorded.announced, ?_⟩
  intro index error failed
  apply recorded.quiet index
  intro event done
  rw [failed] at done
  cases done

/-- Two events of one device: the first is broadcast before the second session is
registered, the insertion of the second one is not acknowledged. -/
theorem sent_exactly_once_example :
    ∃ processor : EventProcessor,
      follow step
        (new
          { committed := { Tables.empty with devices := [⟨.ofNat 1, "bug", ""⟩] }
            workers := []
            replies := [] })
        [.register, .handle ⟨.luminosity, .luminosity 0 1, ⟨0, 0⟩, ⟨0, 0⟩, .ofNat 1⟩,
          .handle ⟨.luminosity, .luminosity 1 2, ⟨0, 0⟩, ⟨0, 0⟩, .ofNat 1⟩, .labels 1,
          .labels 0, .insert 0 (.ofNat 2) true, .insert 1 (.ofNat 3) false, .broadcast 0,
          .register] = some processor ∧
      processor.futures[1]? = some (.failed (.diesel false)) ∧
      (∀ event, .broadcast 1 event ∉ processor.log) ∧
      ∀ session index, processor.log.countP (Happening.isSent session index) ≤ 1 := by
  have reached : follow step
      (new
        { committed := { Tables.empty with devices := [⟨.ofNat 1, "bug", ""⟩] }
          workers := []
          replies := [] })
      [.register, .handle ⟨.luminosity, .luminosity 0 1, ⟨0, 0⟩, ⟨0, 0⟩, .ofNat 1⟩,
        .handle ⟨.luminosity, .luminosity 1 2, ⟨0, 0⟩, ⟨0, 0⟩, .ofNat 1⟩, .labels 1,
        .labels 0, .insert 0 (.ofNat 2) true, .insert 1 (.ofNat 3) false, .broadcast 0,
        .register] = some _ :=
    rfl
  rcases sent_exactly_once reached with ⟨_, once, _, _, failed⟩
  exact ⟨_, reached, rfl, fun event => (failed 1 (.diesel false) rfl event).1, once⟩

end EventProcessor

end Bug
