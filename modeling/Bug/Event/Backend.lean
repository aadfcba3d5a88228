import Bug.Db.Credentials
import Bug.Event.Connection
import Bug.Event.Provenance

/-!
# The backend's events, from the connections to the sessions

The event server accepts connections, each with a handler of its own.  The
handlers and the recordings of the audio server put their events into the
mailbox of the event processor, which takes them in their order.  Lookups are
answered from the database as it is then.  A panic takes all of it down.
-/

namespace Bug

open Bug.Db
open Bug.Encoding
open Bug.Transition

structure Backend where
  /-- The handlers of the accepted connections. -/
  connections : List EventHandler
  /-- The messages that the processor has not taken yet. -/
  mailbox : List NewEvent
  /-- Every message so far, and the connection that sent it. -/
  forwarded : List (Option Nat × NewEvent)
  processor : EventProcessor
  crashed : Bool

namespace Backend

inductive Action where
  | accept
  /-- A connection reads the bytes at the given time. -/
  | read (connection : Nat) (clock : Clock) (chunk : Bytes)
  /-- The lookup of a connection is answered, or fails. -/
  | reply (connection : Nat) (clock : Clock) (failure : Option (MailboxError ⊕ Error))
  /-- A recording is announced. -/
  | announce (event : NewEvent)
  /-- The processor takes a message. -/
  | handle
  | process (action : EventProcessor.Action)

def new (workers : Nat) : Backend where
  connections := []
  mailbox := []
  forwarded := []
  processor := .new (.new workers)
  crashed := false

/-- The answer of `SelectMsg<u64, Device>`. -/
def lookup (tables : Tables) (secret : UInt64) : Option (MailboxError ⊕ Error) → DeviceReply
  | some (.inl error) => .error error
  | some (.inr error) => .ok (.error error)
  | none =>
      match tables.selectBySecret secret with
      | [] => .ok (.error (.diesel true))
      | device :: _ => .ok (.ok device)

/-- The events that a handler sends to the processor. -/
def events (outputs : List EventHandler.Output) : List NewEvent :=
  outputs.filterMap fun
    | .forward event => some event
    | .select _ => none
    | .write _ => none

/-- A handler has finished or panicked. -/
def served (backend : Backend) (connection : Nat) :
    Option (EventHandler × List EventHandler.Output) → Backend
  | none => { backend with crashed := true }
  | some (handler, outputs) =>
      { backend with
        connections := backend.connections.set connection handler
        mailbox := backend.mailbox ++ events outputs
        forwarded := backend.forwarded ++ (events outputs).map (some connection, ·) }

def step : LabelledStep Backend Action
  | backend, .accept =>
      if backend.crashed then
        none
      else
        some { backend with connections := backend.connections ++ [EventHandler.new] }
  | backend, .read connection clock chunk =>
      match backend.connections[connection]? with
      | none => none
      | some handler =>
          if !backend.crashed ∧ handler.waiting = none ∧ !handler.stopping ∧ chunk ≠ [] then
            some (backend.served connection (handler.handle clock (EventCodec.item chunk)))
          else
            none
  | backend, .reply connection clock failure =>
      match backend.connections[connection]? with
      | none => none
      | some handler =>
          match handler.waiting with
          | none => none
          | some event =>
              if backend.crashed then
                none
              else
                some (backend.served connection (handler.resume clock
                  (lookup backend.processor.database.committed event.secret failure)))
  | backend, .announce event =>
      if backend.crashed then
        none
      else
        some { backend with
          mailbox := backend.mailbox ++ [event]
          forwarded := backend.forwarded ++ [(none, event)] }
  | backend, .handle =>
      match backend.mailbox with
      | [] => none
      | msg :: mailbox =>
          if backend.crashed then
            none
          else
            (backend.processor.step (.handle msg)).map fun processor =>
              { backend with
                mailbox := mailbox
                processor := processor }
  | backend, .process action =>
      if backend.crashed ∨ ¬ action.Own then
        none
      else
        (backend.processor.step action).map fun processor =>
          { backend with processor := processor }

/-! ## What a connection may send -/

section Statement

variable (workers : Nat) (actions : List Action) (connection : Nat)

/-- The events that a connection has read. -/
def readEvents : List Event :=
  actions.filterMap fun
    | .read other _ chunk =>
        if other = connection then (EventCodec.item chunk).toOption else none
    | .accept => none
    | .reply _ _ _ => none
    | .announce _ => none
    | .handle => none
    | .process _ => none

/-- At some moment of the run the device had the secret of an event that the
connection had read. -/
def Authenticated (device : Device) : Prop :=
  ∃ earlier later past event, actions = earlier ++ later ∧
    follow step (new workers) earlier = some past ∧ event ∈ readEvents earlier connection ∧
    past.processor.database.committed.HasSecret device event.secret

/-- The message has the fields of an event, and the device of the connection. -/
def Converts (event : Event) (msg : NewEvent) : Prop :=
  ∃ clock device, Authenticated workers actions connection device ∧
    NewEvent.ofEvent clock event device.id = some msg

end Statement

/-- The messages that a connection has sent. -/
def sentBy (backend : Backend) (connection : Nat) : List NewEvent :=
  backend.forwarded.filterMap fun entry =>
    if entry.1 = some connection then some entry.2 else none

/-! ## One step -/

section Steps

variable {workers : Nat} {actions : List Action} {backend : Backend}

theorem Authenticated.append {connection : Nat} {device : Device}
    (authenticated : Authenticated workers actions connection device) (action : Action) :
    Authenticated workers (actions ++ [action]) connection device := by
  rcases authenticated with ⟨earlier, later, past, event, split, followed, read, stored⟩
  refine ⟨earlier, later ++ [action], past, event, ?_, followed, read, stored⟩
  rw [split, List.append_assoc]

theorem Converts.append {connection : Nat} {event : Event} {msg : NewEvent}
    (converts : Converts workers actions connection event msg) (action : Action) :
    Converts workers (actions ++ [action]) connection event msg := by
  rcases converts with ⟨clock, device, authenticated, converted⟩
  exact ⟨clock, device, authenticated.append action, converted⟩

theorem sentBy_served (backend : Backend) (connection : Nat) (handler : EventHandler)
    (outputs : List EventHandler.Output) (other : Nat) :
    (backend.served connection (some (handler, outputs))).sentBy other =
      backend.sentBy other ++ if other = connection then events outputs else [] := by
  rw [sentBy, served, List.filterMap_append, List.filterMap_map]
  apply congrArg
  by_cases same : other = connection
  · subst same
    simp
  · simp [same, Ne.symm same]

/-- The events of an authenticated handler, and of one that is not. -/
theorem events_innerHandle {clock : Clock} {handler : EventHandler} {event : Event}
    {outputs : List EventHandler.Output}
    (returned : handler.innerHandle clock event = some outputs) :
    (handler.device = none ∧ events outputs = []) ∨
      ∃ device msg, handler.device = some device ∧
        NewEvent.ofEvent clock event device.id = some msg ∧ events outputs = [msg] := by
  cases known : handler.device with
  | none =>
      rw [EventHandler.innerHandle, known] at returned
      cases returned
      exact Or.inl ⟨rfl, rfl⟩
  | some device =>
      rw [EventHandler.innerHandle, known] at returned
      rcases Option.bind_eq_some_iff.mp returned with ⟨msg, converted, outputsEq⟩
      cases outputsEq
      exact Or.inr ⟨device, msg, rfl, converted, rfl⟩

/-- Each connection sends the events that it has read, in their order, under a
device whose secret one of them had. -/
structure Sourced (workers : Nat) (actions : List Action) (backend : Backend) : Prop where
  devices : ∀ connection handler device, backend.connections[connection]? = some handler →
    handler.device = some device → Authenticated workers actions connection device
  sent : ∀ connection handler, backend.connections[connection]? = some handler → ∃ sent,
    List.Forall₂ (Converts workers actions connection) sent (backend.sentBy connection) ∧
      (sent ++ handler.waiting.toList).Sublist (readEvents actions connection)
  unsent : ∀ connection, backend.connections[connection]? = none → backend.sentBy connection = []

/-- An action that leaves the connections alone. -/
theorem Sourced.elsewhere (sourced : Sourced workers actions backend) (action : Action)
    {next : Backend} (connections : next.connections = backend.connections)
    (sentBy : ∀ connection, next.sentBy connection = backend.sentBy connection) :
    Sourced workers (actions ++ [action]) next where
  devices := by
    intro connection handler device found known
    rw [connections] at found
    exact (sourced.devices connection handler device found known).append action
  sent := by
    intro connection handler found
    rw [connections] at found
    rcases sourced.sent connection handler found with ⟨sent, converted, ordered⟩
    rw [sentBy, readEvents, List.filterMap_append]
    exact ⟨sent, converted.imp fun _ _ converts => converts.append action,
      ordered.trans (List.sublist_append_left _ _)⟩
  unsent := by
    intro connection absent
    rw [connections] at absent
    rw [sentBy]
    exact sourced.unsent connection absent

/-- A new connection has sent nothing. -/
theorem Sourced.accept (sourced : Sourced workers actions backend) :
    Sourced workers (actions ++ [.accept])
      { backend with connections := backend.connections ++ [EventHandler.new] } where
  devices := by
    intro connection handler device found known
    rw [List.getElem?_append] at found
    split at found
    · exact (sourced.devices connection handler device found known).append .accept
    · cases List.mem_singleton.mp (List.mem_of_getElem? found)
      cases known
  sent := by
    intro connection handler found
    rw [List.getElem?_append] at found
    have unread : readEvents (actions ++ [.accept]) connection = readEvents actions connection := by
      rw [readEvents, List.filterMap_append]
      exact List.append_nil _
    rw [unread]
    split at found
    · rcases sourced.sent connection handler found with ⟨sent, converted, ordered⟩
      exact ⟨sent, converted.imp fun _ _ converts => converts.append .accept, ordered⟩
    · rename_i outside
      cases List.mem_singleton.mp (List.mem_of_getElem? found)
      have nothing := sourced.unsent connection
        (List.getElem?_eq_none_iff.mpr (Nat.le_of_not_lt outside))
      refine ⟨[], ?_, List.nil_sublist _⟩
      change List.Forall₂ _ [] (backend.sentBy connection)
      rw [nothing]
      exact .nil
  unsent := by
    intro connection absent
    rw [List.getElem?_eq_none_iff, List.length_append] at absent
    exact sourced.unsent connection (List.getElem?_eq_none_iff.mpr (Nat.le_of_add_right_le absent))

/-- A handler takes its turn. -/
theorem Sourced.turn (sourced : Sourced workers actions backend) {connection : Nat}
    {action : Action} {handler next : EventHandler} {outputs : List EventHandler.Output}
    {fresh : List Event} (found : backend.connections[connection]? = some handler)
    (reads : ∀ other, readEvents (actions ++ [action]) other =
      readEvents actions other ++ if other = connection then fresh else [])
    (authenticated : ∀ device, next.device = some device →
      Authenticated workers (actions ++ [action]) connection device)
    (converted : ∃ more,
      List.Forall₂ (Converts workers (actions ++ [action]) connection) more (events outputs) ∧
        (more ++ next.waiting.toList).Sublist (handler.waiting.toList ++ fresh)) :
    Sourced workers (actions ++ [action]) (backend.served connection (some (next, outputs))) where
  devices := by
    intro other current device present known
    rcases getElem?_set_cases present with ⟨rfl, rfl⟩ | ⟨_, unchanged⟩
    · exact authenticated device known
    · exact (sourced.devices other current device unchanged known).append action
  sent := by
    intro other current present
    rw [sentBy_served, reads]
    rcases getElem?_set_cases present with ⟨rfl, rfl⟩ | ⟨different, unchanged⟩
    · rcases sourced.sent other handler found with ⟨sent, before, ordered⟩
      rcases converted with ⟨more, now, orderedNow⟩
      refine ⟨sent ++ more, ?_, ?_⟩
      · rw [if_pos rfl]
        exact List.rel_append (before.imp fun _ _ converts => converts.append action) now
      · rw [if_pos rfl, List.append_assoc]
        calc (sent ++ (more ++ current.waiting.toList)).Sublist
              (sent ++ (handler.waiting.toList ++ fresh)) := orderedNow.append_left sent
          _ = (sent ++ handler.waiting.toList) ++ fresh := (List.append_assoc _ _ _).symm
          List.Sublist _ (readEvents actions other ++ fresh) := ordered.append_right fresh
    · rcases sourced.sent other current unchanged with ⟨sent, before, ordered⟩
      rw [if_neg different, if_neg different, List.append_nil, List.append_nil]
      exact ⟨sent, before.imp fun _ _ converts => converts.append action, ordered⟩
  unsent := by
    intro other absent
    have outside : backend.connections[other]? = none := by
      rw [List.getElem?_eq_none_iff] at absent ⊢
      exact Nat.le_trans (Nat.le_of_eq List.length_set.symm) absent
    have different : other ≠ connection := by
      rintro rfl
      cases found.symm.trans outside
    rw [sentBy_served, if_neg different, List.append_nil]
    exact sourced.unsent other outside

/-- A connection reads. -/
theorem Sourced.read (sourced : Sourced workers actions backend) {connection : Nat} {clock : Clock}
    {chunk : Bytes} {handler next : EventHandler} {outputs : List EventHandler.Output}
    (found : backend.connections[connection]? = some handler)
    (free : handler.waiting = none ∧ handler.stopping = false)
    (returned : handler.handle clock (EventCodec.item chunk) = some (next, outputs)) :
    Sourced workers (actions ++ [.read connection clock chunk])
      (backend.served connection (some (next, outputs))) := by
  have reads : ∀ other, readEvents (actions ++ [.read connection clock chunk]) other =
      readEvents actions other ++
        if other = connection then (EventCodec.item chunk).toOption.toList else [] := by
    intro other
    rw [readEvents, List.filterMap_append]
    apply congrArg
    by_cases same : other = connection
    · subst same
      cases item : (EventCodec.item chunk).toOption <;> simp [item]
    · simp [same, Ne.symm same]
  have served : handler.serve (.item clock (EventCodec.item chunk)) = some (next, outputs) := by
    rw [EventHandler.serve, if_pos free]
    exact returned
  have known : ∀ device, handler.device = some device → Authenticated workers
      (actions ++ [.read connection clock chunk]) connection device := fun device known =>
    (sourced.devices connection handler device found known).append _
  generalize item : EventCodec.item chunk = decoded at served reads
  cases (EventHandler.served_of_serve served).1 with
  | rejected =>
      apply sourced.turn found reads known
      refine ⟨[], .nil, ?_⟩
      rw [free.1]
      exact List.nil_sublist _
  | lookup unknown running =>
      rename_i event
      apply @Sourced.turn _ _ _ sourced connection _ handler
        { handler with waiting := some event } _ _ found reads known
      refine ⟨[], .nil, ?_⟩
      rw [free.1]
      exact List.Sublist.refl _
  | handled authenticated handledEvent =>
      rename_i event device
      apply sourced.turn found reads known
      rcases events_innerHandle handledEvent with ⟨unknown, -⟩ | ⟨own, msg, isOwn, converted, sent⟩
      · cases authenticated.symm.trans unknown
      · refine ⟨[event], ?_, ?_⟩
        · rw [sent]
          exact .cons ⟨clock, own, known own isOwn, converted⟩ .nil
        · rw [free.1]
          exact List.Sublist.refl _

theorem device_authenticate {reply : DeviceReply} {handler : EventHandler} {device : Device}
    (known : (EventHandler.authenticate reply handler).device = some device) :
    reply = .ok (.ok device) ∨ handler.device = some device := by
  unfold EventHandler.authenticate at known
  split at known
  · cases known
    exact Or.inl rfl
  · exact Or.inr known
  · exact Or.inr known

theorem hasSecret_of_lookup {tables : Tables} {secret : UInt64}
    {failure : Option (MailboxError ⊕ Error)} {device : Device}
    (answered : lookup tables secret failure = .ok (.ok device)) :
    tables.HasSecret device secret := by
  unfold lookup at answered
  split at answered
  · cases answered
  · cases answered
  · split at answered
    · cases answered
    · rename_i first others selected
      cases answered
      apply (tables.mem_selectBySecret_iff secret device).mp
      rw [selected]
      exact List.mem_cons_self

/-- The lookup of a connection is answered. -/
theorem Sourced.reply (sourced : Sourced workers actions backend)
    (reached : follow step (new workers) actions = some backend) {connection : Nat} {clock : Clock}
    {failure : Option (MailboxError ⊕ Error)} {handler next : EventHandler} {event : Event}
    {outputs : List EventHandler.Output}
    (found : backend.connections[connection]? = some handler) (held : handler.waiting = some event)
    (returned : handler.resume clock
      (Backend.lookup backend.processor.database.committed event.secret failure) =
        some (next, outputs)) :
    Sourced workers (actions ++ [.reply connection clock failure])
      (backend.served connection (some (next, outputs))) := by
  have reads : ∀ other, readEvents (actions ++ [.reply connection clock failure]) other =
      readEvents actions other ++ if other = connection then [] else [] := by
    intro other
    rw [ite_self, readEvents, List.filterMap_append]
    rfl
  have read : event ∈ readEvents actions connection := by
    rcases sourced.sent connection handler found with ⟨sent, -, ordered⟩
    apply ordered.subset
    rw [held]
    exact List.mem_append_right _ List.mem_cons_self
  simp only [EventHandler.resume, held] at returned
  rcases Option.map_eq_some_iff.mp returned with ⟨result, handled, pairEq⟩
  cases pairEq
  have unheld : (EventHandler.authenticate
      (Backend.lookup backend.processor.database.committed event.secret failure)
        { handler with waiting := none }).waiting = none := by
    unfold EventHandler.authenticate
    split <;> rfl
  have known : ∀ device, (EventHandler.authenticate
      (Backend.lookup backend.processor.database.committed event.secret failure)
        { handler with waiting := none }).device = some device →
      Authenticated workers (actions ++ [.reply connection clock failure]) connection device := by
    intro device isKnown
    rcases device_authenticate isKnown with answered | before
    · exact ⟨actions, [_], backend, event, rfl, reached, read, hasSecret_of_lookup answered⟩
    · exact (sourced.devices connection handler device found before).append _
  apply sourced.turn found reads known
  rw [unheld, held]
  rcases events_innerHandle handled with ⟨-, silent⟩ | ⟨own, msg, isOwn, converted, sent⟩
  · refine ⟨[], ?_, List.nil_sublist _⟩
    rw [silent]
    exact .nil
  · refine ⟨[event], ?_, List.Sublist.refl _⟩
    rw [sent]
    exact .cons ⟨clock, own, known own isOwn, converted⟩ .nil

end Steps

/-! ## Every run -/

/-- The queue between the handlers and the processor. -/
structure Queued (backend : Backend) : Prop where
  processed : ∃ handled, backend.forwarded.map Prod.snd = handled ++ backend.mailbox ∧
    backend.processor.Processed handled

/-- What a handler sends is queued. -/
theorem Queued.push {backend : Backend} (queued : backend.Queued) {next : Backend}
    {sent : List (Option Nat × NewEvent)} (processor : next.processor = backend.processor)
    (forwarded : next.forwarded = backend.forwarded ++ sent)
    (mailbox : next.mailbox = backend.mailbox ++ sent.map Prod.snd) : next.Queued := by
  rcases queued.processed with ⟨handled, split, processed⟩
  refine ⟨handled, ?_, ?_⟩
  · rw [forwarded, mailbox, List.map_append, split, List.append_assoc]
  · rw [processor]
    exact processed

theorem Queued.served {backend : Backend} (queued : backend.Queued) (connection : Nat)
    (result : Option (EventHandler × List EventHandler.Output)) :
    (backend.served connection result).Queued := by
  cases result with
  | none => exact ⟨queued.processed⟩
  | some result =>
      refine @Queued.push backend queued _ ((events result.2).map (some connection, ·)) rfl rfl ?_
      rw [List.map_map]
      exact congrArg _ (List.map_id _).symm

theorem queued_step {backend next : Backend} {action : Action} (queued : backend.Queued)
    (stepped : step backend action = some next) : next.Queued := by
  cases action with
  | accept =>
      cases (Option.ite_none_left_eq_some.mp stepped).2
      exact ⟨queued.processed⟩
  | read connection clock chunk =>
      simp only [step] at stepped
      split at stepped
      · cases stepped
      · cases (Option.ite_none_right_eq_some.mp stepped).2
        exact queued.served connection _
  | reply connection clock failure =>
      simp only [step] at stepped
      split at stepped
      · cases stepped
      · split at stepped
        · cases stepped
        · cases (Option.ite_none_left_eq_some.mp stepped).2
          exact queued.served connection _
  | announce event =>
      cases (Option.ite_none_left_eq_some.mp stepped).2
      exact queued.push rfl rfl rfl
  | handle =>
      simp only [step] at stepped
      split at stepped
      · cases stepped
      · rename_i msg mailbox waiting
        rcases Option.map_eq_some_iff.mp (Option.ite_none_left_eq_some.mp stepped).2 with
          ⟨processor, handledNow, rfl⟩
        cases handledNow
        rcases queued.processed with ⟨handled, split, processed⟩
        refine ⟨handled ++ [msg], ?_, processed.handle msg⟩
        rw [List.append_assoc, List.singleton_append, ← waiting]
        exact split
  | process action =>
      rcases Option.ite_none_left_eq_some.mp stepped with ⟨possible, moved⟩
      rcases Option.map_eq_some_iff.mp moved with ⟨processor, movedTo, rfl⟩
      rcases queued.processed with ⟨handled, split, processed⟩
      have own : action.Own := by
        by_contra foreign
        exact possible (Or.inr foreign)
      exact ⟨handled, split, processed.step own movedTo⟩

theorem sourced_step {workers : Nat} {actions : List Action} {backend next : Backend}
    {action : Action} (reached : follow step (new workers) actions = some backend)
    (sourced : Sourced workers actions backend) (stepped : step backend action = some next) :
    Sourced workers (actions ++ [action]) next := by
  cases action with
  | accept =>
      cases (Option.ite_none_left_eq_some.mp stepped).2
      exact sourced.accept
  | read connection clock chunk =>
      simp only [step] at stepped
      split at stepped
      · cases stepped
      · rename_i handler found
        rcases Option.ite_none_right_eq_some.mp stepped with ⟨⟨-, unheld, running, -⟩, taken⟩
        cases taken
        cases result : handler.handle clock (EventCodec.item chunk) with
        | none => exact Sourced.elsewhere sourced _ rfl fun _ => rfl
        | some result => exact sourced.read found ⟨unheld, by simpa using running⟩ result
  | reply connection clock failure =>
      simp only [step] at stepped
      split at stepped
      · cases stepped
      · rename_i handler found
        split at stepped
        · cases stepped
        · rename_i event held
          cases (Option.ite_none_left_eq_some.mp stepped).2
          cases result : handler.resume clock
              (lookup backend.processor.database.committed event.secret failure) with
          | none => exact Sourced.elsewhere sourced _ rfl fun _ => rfl
          | some result => exact sourced.reply reached found held result
  | announce event =>
      cases (Option.ite_none_left_eq_some.mp stepped).2
      refine Sourced.elsewhere sourced _ rfl fun connection => ?_
      rw [sentBy, sentBy, List.filterMap_append]
      exact List.append_nil _
  | handle =>
      simp only [step] at stepped
      split at stepped
      · cases stepped
      · rcases Option.map_eq_some_iff.mp (Option.ite_none_left_eq_some.mp stepped).2 with
          ⟨processor, -, rfl⟩
        exact Sourced.elsewhere sourced _ rfl fun _ => rfl
  | process action =>
      rcases Option.map_eq_some_iff.mp (Option.ite_none_left_eq_some.mp stepped).2 with
        ⟨processor, -, rfl⟩
      exact Sourced.elsewhere sourced _ rfl fun _ => rfl

theorem sourced_of_follow {workers : Nat} {actions : List Action} {backend : Backend}
    (reached : follow step (new workers) actions = some backend) :
    Sourced workers actions backend := by
  refine @follow_records _ _ step (new workers) (Sourced workers) ?_ ?_ actions backend reached
  · constructor
    · intro connection handler device found
      cases found
    · intro connection handler found
      cases found
    · intro connection absent
      rfl
  · intro actions backend action next before sourced stepped
    exact sourced_step before sourced stepped

theorem queued_of_follow {workers : Nat} {actions : List Action} {backend : Backend}
    (reached : follow step (new workers) actions = some backend) : backend.Queued := by
  refine @follow_preserves _ _ step Queued ?_ (new workers) ?_ actions backend reached
  · intro backend action next queued stepped
    exact queued_step queued stepped
  · exact ⟨[], rfl, EventProcessor.processed_new _ rfl⟩

/-- What a connection has sent, it has read before. -/
theorem Sourced.ordered {workers : Nat} {actions : List Action} {backend : Backend}
    (sourced : Sourced workers actions backend) (connection : Nat) :
    ∃ sent, List.Forall₂ (Converts workers actions connection) sent (backend.sentBy connection) ∧
      sent.Sublist (readEvents actions connection) := by
  cases found : backend.connections[connection]? with
  | none =>
      rw [sourced.unsent connection found]
      exact ⟨[], .nil, List.nil_sublist _⟩
  | some handler =>
      rcases sourced.sent connection handler found with ⟨sent, converted, ordered⟩
      exact ⟨sent, converted, (List.sublist_append_left _ _).trans ordered⟩

/-- What is inserted was forwarded before. -/
theorem Queued.forwarded {backend : Backend} (queued : backend.Queued) {index : Nat}
    {row : EventRow} (inserted : .inserted index row ∈ backend.processor.log) :
    ∃ origin, backend.forwarded[index]? = some (origin, row.value) := by
  rcases queued.processed with ⟨handled, split, processed⟩
  have taken := processed.inserted index row inserted
  have inside := (List.getElem?_eq_some_iff.mp taken).1
  have message : (backend.forwarded.map Prod.snd)[index]? = some row.value := by
    rw [split, List.getElem?_append_left inside]
    exact taken
  rw [List.getElem?_map] at message
  rcases Option.map_eq_some_iff.mp message with ⟨⟨origin, msg⟩, found, rfl⟩
  exact ⟨origin, found⟩

/-- A device is created, connects and sends an event, which a session is told. -/
def desk : List Action :=
  [.process (.database (.begin 0 ⟨"desk", ""⟩)), .process (.database (.insertDevice 0 (.ofNat 1))),
    .process (.database (.insertCredential 0 (.ofNat 2) 7)),
    .process (.database (.commit 0 true)), .accept,
    .read 0 ⟨0, 0⟩ (EventCodec.encode ⟨7, 1608119495, 0, 1608119496, 0, .luminosity 1 2⟩ []),
    .reply 0 ⟨0, 0⟩ none, .handle, .process (.labels 0), .process .register,
    .process (.insert 0 (.ofNat 3) true), .process (.broadcast 0)]

end Backend

end Bug
