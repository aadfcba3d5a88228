import Bug.Delivery.System

/-!
# At-least-once delivery

The firmware frees a buffer when it reads the response byte.  The byte names no
event, and the backend writes it for a read that it could not decode as well.
A freed buffer was forwarded as long as every exchange is undisturbed: it begins
on a connection with nothing left of an earlier exchange, its buffer is handed
over as a whole, and the backend reads it as a whole.
-/

namespace Bug.Delivery

open Bug.Db
open Bug.Encoding
open Bug.Firmware
open Bug.Transition

namespace System

/-- The event in the buffer has been forwarded: it was decoded at the front of a
read that begins with the bytes of this buffer. -/
def Delivered (system : System) (buf : Nat) : Prop :=
  ∃ data event clock deviceId newEvent origin,
    system.client.heap[buf]? = some data ∧ EventCodec.item data = .ok event ∧
      NewEvent.ofEvent clock event deviceId = some newEvent ∧
      (newEvent, origin) ∈ system.forwarded ∧ List.replicate data.length buf <+: origin

/-- Every freed buffer has been forwarded. -/
def Safe (system : System) : Prop :=
  ∀ buf ∈ system.client.freed, system.Delivered buf

end System

/-- Nothing is on its way and no lookup is pending. -/
def Link.Idle (link : Link) : Prop :=
  link.up = [] ∧ link.down = [] ∧ link.handler.waiting = none

instance (link : Link) : Decidable link.Idle :=
  inferInstanceAs (Decidable (_ ∧ _ ∧ _))

/-- A response is awaited. -/
def Awaiting : Activity → Prop
  | .receiving _ => True
  | _ => False

instance : (activity : Activity) → Decidable (Awaiting activity)
  | .receiving _ => .isTrue trivial
  | .idle | .connecting | .checking _ | .sending _ | .faulted => .isFalse id

namespace System

/-- The steps that disturb no exchange.  A `send_callback` passes its check only
on an idle connection, a `sendto` that returns successfully has handed the whole
buffer over, and while a response is awaited the backend reads all that is on its
way. -/
def Undisturbed (system : System) : Label → Prop
  | .connected wifi remote => wifi && remote → ∀ link ∈ system.current, link.Idle
  | .sendto accepted succeeds => succeeds → ∀ data ∈ system.outgoing, accepted = data.length
  | .read index count _ =>
      Awaiting system.client.activity → system.client.socket = some index →
        ∀ link ∈ system.current, count = link.up.length
  | _ => True

instance (system : System) : (label : Label) → Decidable (system.Undisturbed label)
  | .connected wifi remote =>
      inferInstanceAs (Decidable (wifi && remote → ∀ link ∈ system.current, link.Idle))
  | .sendto accepted succeeds =>
      inferInstanceAs (Decidable (succeeds → ∀ data ∈ system.outgoing, accepted = data.length))
  | .read index count _ =>
      inferInstanceAs (Decidable (Awaiting system.client.activity →
        system.client.socket = some index → ∀ link ∈ system.current, count = link.up.length))
  | .send _ _ _ _ | .delayElapsed | .dispatch | .connect _ | .receive _ | .lookup _ _ _ =>
      .isTrue trivial

/-! ## One exchange -/

/-- How far the exchange of a sent buffer has come on its connection. -/
inductive Pending (system : System) (buf : Nat) (data : Bytes) (link : Link) : Prop
  | sent : link.up = data.map (·, buf) → link.down = [] → link.handler.waiting = none →
      Pending system buf data link
  | held {event : Event} : link.up = [] → link.down = [] →
      link.handler.waiting = some event → EventCodec.item data = .ok event →
      link.origin = List.replicate data.length buf → Pending system buf data link
  | answered : link.up = [] → link.down = [EventHandler.magicResponse] →
      link.handler.waiting = none → system.Delivered buf → Pending system buf data link
  | silent : link.Idle → Pending system buf data link

/-- What holds between any two steps of an undisturbed run. -/
structure Invariant (system : System) : Prop where
  connections_eq : system.client.connections = system.links.length
  encoded : ∀ data ∈ system.client.heap, ∃ event, data = EventCodec.encode event []
  sending : ∀ buf, system.client.activity = .sending buf → ∀ link ∈ system.current, link.Idle
  receiving : ∀ buf, system.client.activity = .receiving buf →
    ∃ data, system.client.heap[buf]? = some data ∧
      ∀ link ∈ system.current, Pending system buf data link
  safe : system.Safe

variable {system next : System} {buf : Nat} {data : Bytes} {link : Link}

theorem invariant_new : Invariant new where
  connections_eq := rfl
  encoded := nofun
  sending := nofun
  receiving := nofun
  safe := nofun

/-- The system has only learned more: buffers and forwarded events stay. -/
structure Extends (system next : System) : Prop where
  heap : system.client.heap <+: next.client.heap
  forwarded : system.forwarded ⊆ next.forwarded

theorem Extends.getElem? (extension : Extends system next)
    (found : system.client.heap[buf]? = some data) : next.client.heap[buf]? = some data := by
  rcases extension.heap with ⟨later, heapEq⟩
  rw [← heapEq, List.getElem?_append_left (List.getElem?_eq_some_iff.mp found).1, found]

theorem Delivered.mono (delivered : system.Delivered buf) (extension : Extends system next) :
    next.Delivered buf := by
  rcases delivered with ⟨data, event, clock, deviceId, newEvent, origin, found, item, converted,
    member, front⟩
  exact ⟨data, event, clock, deviceId, newEvent, origin, extension.getElem? found, item, converted,
    extension.forwarded member, front⟩

theorem Pending.mono (pending : Pending system buf data link) (extension : Extends system next) :
    Pending next buf data link := by
  cases pending with
  | sent up down waiting => exact .sent up down waiting
  | held up down waiting item origin => exact .held up down waiting item origin
  | answered up down waiting delivered => exact .answered up down waiting (delivered.mono extension)
  | silent idle => exact .silent idle

/-- Between two exchanges only the finished ones matter. -/
theorem Invariant.rest (invariant : Invariant system)
    (heap : next.client.heap = system.client.heap)
    (forwarded : next.forwarded = system.forwarded)
    (connections : next.client.connections = next.links.length)
    (notSending : ∀ buf, next.client.activity ≠ .sending buf)
    (notReceiving : ∀ buf, next.client.activity ≠ .receiving buf)
    (freed : ∀ buf ∈ next.client.freed, system.Delivered buf) : Invariant next where
  connections_eq := connections
  encoded := heap ▸ invariant.encoded
  sending buf sending := absurd sending (notSending buf)
  receiving buf receiving := absurd receiving (notReceiving buf)
  safe buf member := (freed buf member).mono
    ⟨heap ▸ List.prefix_rfl, forwarded ▸ List.Subset.refl _⟩

/-! ## Steps of the client -/

theorem exists_of_act {action : TcpClient.Action} (stepped : system.act action = some next) :
    ∃ client, TcpClient.Transition system.client action client ∧
      next = system.setClient client := by
  rcases Option.map_eq_some_iff.mp stepped with ⟨client, clientStep, nextEq⟩
  exact ⟨client, TcpClient.transition_of_step clientStep, nextEq.symm⟩

/-- A new buffer disturbs nothing. -/
theorem Invariant.send (invariant : Invariant system) (event : Event)
    (stepped : system.act (.send (EventCodec.encode event [])) = some next) :
    Invariant next := by
  rcases exists_of_act stepped with ⟨client, transition, rfl⟩
  cases transition with
  | send =>
      have extension : Extends system (system.setClient { system.client with
          heap := system.client.heap ++ [EventCodec.encode event []]
          queue := system.client.queue ++ [.send system.client.heap.length] }) :=
        ⟨List.prefix_append _ _, List.Subset.refl _⟩
      constructor
      · exact invariant.connections_eq
      · intro data member
        rcases List.mem_append.mp member with old | fresh
        · exact invariant.encoded data old
        · exact ⟨event, List.mem_singleton.mp fresh⟩
      · exact invariant.sending
      · intro buf receiving
        rcases invariant.receiving buf receiving with ⟨data, found, pending⟩
        exact ⟨data, extension.getElem? found,
          fun link member => (pending link member).mono extension⟩
      · exact fun buf member => (invariant.safe buf member).mono extension

theorem Invariant.delayElapsed (invariant : Invariant system)
    (stepped : system.act .delayElapsed = some next) : Invariant next := by
  rcases exists_of_act stepped with ⟨client, transition, rfl⟩
  cases transition with
  | delayElapsed delayed =>
      have extension : Extends system (system.setClient { system.client with
          delayed := false
          queue := system.client.queue ++ [.connectSocket] }) :=
        ⟨List.prefix_rfl, List.Subset.refl _⟩
      constructor
      · exact invariant.connections_eq
      · exact invariant.encoded
      · exact invariant.sending
      · intro buf receiving
        rcases invariant.receiving buf receiving with ⟨data, found, pending⟩
        exact ⟨data, found, fun link member => (pending link member).mono extension⟩
      · exact fun buf member => (invariant.safe buf member).mono extension

theorem Invariant.dispatch (invariant : Invariant system)
    (stepped : system.act .dispatch = some next) : Invariant next := by
  rcases exists_of_act stepped with ⟨client, transition, rfl⟩
  cases transition with
  | connectSocket idle queued =>
      exact invariant.rest rfl rfl invariant.connections_eq nofun nofun invariant.safe
  | sendCallback idle queued =>
      exact invariant.rest rfl rfl invariant.connections_eq nofun nofun invariant.safe

/-- A new connection has no exchange on it. -/
theorem Invariant.connect (invariant : Invariant system) {codec : BugEventCodec}
    {succeeds : Bool} (stepped : step codec system (.connect succeeds) = some next) :
    Invariant next := by
  rcases Option.map_eq_some_iff.mp stepped with ⟨moved, acted, rfl⟩
  rcases exists_of_act acted with ⟨client, transition, rfl⟩
  cases transition with
  | reconnected connecting =>
      apply invariant.rest
      · rfl
      · rfl
      · simp [setClient, invariant.connections_eq]
      · exact nofun
      · exact nofun
      · exact invariant.safe
  | unreachable connecting => exact invariant

/-- `connected` passes only on the idle connection that the step assumes. -/
theorem Invariant.connected (invariant : Invariant system) {wifi remote : Bool}
    (undisturbed : system.Undisturbed (.connected wifi remote))
    (stepped : system.act (.connected wifi remote) = some next) : Invariant next := by
  rcases exists_of_act stepped with ⟨client, transition, rfl⟩
  cases transition with
  | disconnected checking offline =>
      exact invariant.rest rfl rfl invariant.connections_eq nofun nofun invariant.safe
  | fault checking pointer =>
      exact invariant.rest rfl rfl invariant.connections_eq nofun nofun invariant.safe
  | @checked buf connection checking pointer =>
      have extension : Extends system
          (system.setClient { system.client with activity := .sending buf }) :=
        ⟨List.prefix_rfl, List.Subset.refl _⟩
      constructor
      · exact invariant.connections_eq
      · exact invariant.encoded
      · exact fun other sending => undisturbed rfl
      · exact nofun
      · exact fun other member => (invariant.safe other member).mono extension

theorem current_eq {index : Nat} (pointer : system.client.socket = some index)
    (found : system.links[index]? = some link) : system.current = some link := by
  rw [current, pointer]
  exact found

theorem current_setLink {index : Nat} {after : Link} {client : TcpClient}
    (pointer : client.socket = some index) (found : system.links[index]? = some link) :
    ((system.setClient client).setLink index after).current = some after := by
  apply current_eq
  · exact pointer
  · exact List.getElem?_set_self (List.getElem?_eq_some_iff.mp found).1

/-- The end of an exchange, after which its link does not matter. -/
theorem Invariant.rest_setLink (invariant : Invariant system) {index : Nat} {after : Link}
    {client : TcpClient} (heap : client.heap = system.client.heap)
    (connections : client.connections = system.client.connections)
    (notSending : ∀ buf, client.activity ≠ .sending buf)
    (notReceiving : ∀ buf, client.activity ≠ .receiving buf)
    (freed : ∀ buf ∈ client.freed, system.Delivered buf) :
    Invariant ((system.setClient client).setLink index after) := by
  apply invariant.rest
  · exact heap
  · rfl
  · rw [length_links_setLink]
    exact connections.trans invariant.connections_eq
  · exact notSending
  · exact notReceiving
  · exact freed

/-- A buffer that was handed over as a whole is on its way as a whole. -/
theorem Invariant.sendto (invariant : Invariant system) {codec : BugEventCodec}
    {accepted : Nat} {succeeds : Bool}
    (undisturbed : system.Undisturbed (.sendto accepted succeeds))
    (stepped : step codec system (.sendto accepted succeeds) = some next) : Invariant next := by
  simp only [step] at stepped
  split at stepped
  · rename_i buf index sending pointer
    split at stepped
    · rename_i link data foundLink foundData
      split at stepped
      · rcases Option.map_eq_some_iff.mp stepped with ⟨moved, acted, rfl⟩
        rcases exists_of_act acted with ⟨client, transition, rfl⟩
        cases transition with
        | sent sameSending =>
            cases sending.symm.trans sameSending
            rcases invariant.sending buf sending link (current_eq pointer foundLink) with
              ⟨up, down, waiting⟩
            have whole : accepted = data.length := by
              apply undisturbed rfl
              simp [outgoing, sending, foundData]
            constructor
            · rw [length_links_setLink]
              exact invariant.connections_eq
            · exact invariant.encoded
            · exact nofun
            · intro other receiving
              cases receiving
              refine ⟨data, foundData, ?_⟩
              intro after member
              cases (current_setLink pointer foundLink).symm.trans member
              apply Pending.sent
              · rw [up, whole, List.take_length, List.nil_append]
              · exact down
              · exact waiting
            · intro other member
              exact (invariant.safe other member).mono ⟨List.prefix_rfl, List.Subset.refl _⟩
        | unsent sameSending =>
            exact invariant.rest_setLink rfl rfl nofun nofun invariant.safe
      · cases stepped
    · cases stepped
  · cases stepped

/-- A response byte ends an exchange, and only a delivered one. -/
theorem Invariant.receiveByte (invariant : Invariant system) {codec : BugEventCodec}
    {value : UInt8} (stepped : step codec system (.receive (.byte value)) = some next) :
    Invariant next := by
  simp only [step] at stepped
  split at stepped
  · cases stepped
  · rename_i index pointer
    split at stepped
    · cases stepped
    · rename_i link foundLink
      split at stepped
      · cases stepped
      · rename_i head rest downEq
        split at stepped
        · rcases Option.map_eq_some_iff.mp stepped with ⟨moved, acted, rfl⟩
          rcases exists_of_act acted with ⟨client, transition, rfl⟩
          cases transition with
          | unanswered receiving =>
              exact invariant.rest_setLink rfl rfl nofun nofun invariant.safe
          | @answered buf receiving =>
              have delivered : system.Delivered buf := by
                rcases invariant.receiving buf receiving with ⟨data, found, pending⟩
                cases pending link (current_eq pointer foundLink) with
                | sent up down waiting => cases downEq.symm.trans down
                | held up down waiting item origin => cases downEq.symm.trans down
                | answered up down waiting delivered => exact delivered
                | silent idle => cases downEq.symm.trans idle.2.1
              apply invariant.rest_setLink
              · rfl
              · rfl
              · exact nofun
              · exact nofun
              · intro other member
                rcases List.mem_append.mp member with earlier | last
                · exact invariant.safe other earlier
                · rwa [List.mem_singleton.mp last]
        · cases stepped

/-- A response that was not read ends the exchange in a retry. -/
theorem Invariant.receiveNothing (invariant : Invariant system) (received : Received)
    (missing : ∀ value, received ≠ .byte value)
    (stepped : system.act (.handleResponse received) = some next) : Invariant next := by
  rcases exists_of_act stepped with ⟨client, transition, rfl⟩
  cases transition with
  | unanswered receiving =>
      exact invariant.rest rfl rfl invariant.connections_eq nofun nofun invariant.safe
  | answered receiving => exact absurd rfl (missing _)

/-! ## Steps of the backend -/

section Backend

variable {index : Nat} {before : Link} {origin : List Nat} {handler : EventHandler}
  {outputs : List EventHandler.Output} {clock : Clock}

/-- The link of a handler that has returned. -/
def answeredLink (link : Link) (origin : List Nat) (handler : EventHandler)
    (outputs : List EventHandler.Output) : Link :=
  { link with
    down := link.down ++ Link.responses outputs
    handler := handler
    origin := origin }

theorem extends_handled (system : System) (index : Nat) (link : Link) (origin : List Nat)
    (result : Option (EventHandler × List EventHandler.Output)) :
    Extends system (system.handled index link origin result) := by
  cases result with
  | none => exact ⟨List.prefix_rfl, List.Subset.refl _⟩
  | some result => exact ⟨List.prefix_rfl, List.subset_append_left _ _⟩

/-- What a handler did elsewhere leaves the exchange of the client alone. -/
theorem current_handled_of_ne (elsewhere : system.client.socket ≠ some index)
    (result : Option (EventHandler × List EventHandler.Output)) :
    (system.handled index link origin result).current = system.current := by
  cases result with
  | none => rfl
  | some result =>
      cases pointer : system.client.socket with
      | none => simp only [current, handled, setLink, pointer, Option.bind_none]
      | some other =>
          have different : index ≠ other := by
            rintro rfl
            exact elsewhere pointer
          simp only [current, handled, setLink, pointer, Option.bind_some]
          exact List.getElem?_set_ne different

theorem current_handled_of_eq (pointer : system.client.socket = some index)
    (found : system.links[index]? = some before) :
    (system.handled index link origin (some (handler, outputs))).current =
      some (answeredLink link origin handler outputs) := by
  simp only [current, handled, setLink, pointer, Option.bind_some]
  exact List.getElem?_set_self (List.getElem?_eq_some_iff.mp found).1

/-- What a handler does preserves the invariant if it moves the exchange on the
client's connection to its next stage. -/
theorem Invariant.handled (invariant : Invariant system)
    {result : Option (EventHandler × List EventHandler.Output)}
    (found : system.links[index]? = some before) (busy : ¬ before.Idle)
    (advances : ∀ buf data handler outputs, system.client.activity = .receiving buf →
      system.client.socket = some index → system.client.heap[buf]? = some data →
      Pending system buf data before → result = some (handler, outputs) →
      Pending (system.handled index link origin result) buf data
        (answeredLink link origin handler outputs)) :
    Invariant (system.handled index link origin result) := by
  have extension := extends_handled system index link origin result
  have clientEq : (system.handled index link origin result).client = system.client := by
    cases result <;> rfl
  constructor
  · rw [clientEq, invariant.connections_eq]
    cases result with
    | none => rfl
    | some result => exact (length_links_setLink system index _).symm
  · rw [clientEq]
    exact invariant.encoded
  · intro buf sending
    rw [clientEq] at sending
    by_cases pointer : system.client.socket = some index
    · exact absurd (invariant.sending buf sending before (current_eq pointer found)) busy
    · rw [current_handled_of_ne pointer]
      exact invariant.sending buf sending
  · intro buf receiving
    rw [clientEq] at receiving ⊢
    rcases invariant.receiving buf receiving with ⟨data, foundData, pending⟩
    refine ⟨data, foundData, ?_⟩
    intro after member
    by_cases pointer : system.client.socket = some index
    · have stage := pending before (current_eq pointer found)
      cases result with
      | none =>
          cases (current_eq pointer found).symm.trans member
          exact stage.mono extension
      | some result =>
          cases (current_handled_of_eq pointer found).symm.trans member
          exact advances buf data result.1 result.2 receiving pointer foundData stage rfl
    · rw [current_handled_of_ne pointer] at member
      exact (pending after member).mono extension
  · intro buf member
    rw [clientEq] at member
    exact (invariant.safe buf member).mono extension

/-- A whole buffer whose event was answered is delivered or met with silence. -/
theorem pending_of_answered {event : Event} (foundData : system.client.heap[buf]? = some data)
    (item : EventCodec.item data = .ok event) (up : link.up = []) (down : link.down = [])
    (waiting : handler.waiting = none)
    (answered : EventHandler.Answered clock event outputs) :
    Pending (system.handled index link (List.replicate data.length buf) (some (handler, outputs)))
      buf data (answeredLink link (List.replicate data.length buf) handler outputs) := by
  cases answered with
  | silent =>
      apply Pending.silent
      exact ⟨up, by rw [answeredLink, down]; rfl, waiting⟩
  | @forwarded deviceId newEvent converted =>
      apply Pending.answered
      · exact up
      · rw [answeredLink, down]
        rfl
      · exact waiting
      · exact ⟨data, event, clock, deviceId, newEvent, _, foundData, item, converted,
          List.mem_append_right _ List.mem_cons_self, List.prefix_rfl⟩

/-- A handler that was given a whole buffer holds its event or has answered it. -/
theorem pending_of_handle {event : Event} {previous : EventHandler}
    (foundData : system.client.heap[buf]? = some data) (item : EventCodec.item data = .ok event)
    (up : link.up = []) (down : link.down = []) (free : previous.waiting = none)
    (returned : previous.handle clock (.ok event) = some (handler, outputs)) :
    Pending (system.handled index link (List.replicate data.length buf) (some (handler, outputs)))
      buf data (answeredLink link (List.replicate data.length buf) handler outputs) := by
  rcases EventHandler.handle_ok free returned with ⟨held, outputsEq⟩ | ⟨released, answered⟩
  · subst outputsEq
    apply Pending.held
    · exact up
    · rw [answeredLink, down]
      rfl
    · exact held
    · exact item
    · rfl
  · exact pending_of_answered foundData item up down released answered

/-- A read of everything on its way decodes the one buffer that was sent. -/
theorem Invariant.read (invariant : Invariant system) {codec : BugEventCodec} {count : Nat}
    (undisturbed : system.Undisturbed (.read index count clock))
    (stepped : step codec system (.read index count clock) = some next) : Invariant next := by
  simp only [step] at stepped
  split at stepped
  · cases stepped
  · rename_i before found
    split at stepped
    · rename_i enabled
      rcases enabled with ⟨-, free, -, positive, inside⟩
      cases stepped
      apply invariant.handled found
      · rintro ⟨up, -, -⟩
        rw [up] at inside
        exact absurd positive (Nat.not_lt.mpr inside)
      · intro buf data handler outputs receiving pointer foundData pending returned
        have current := current_eq pointer found
        have whole : count = before.up.length := by
          apply undisturbed _ pointer before current
          rw [receiving]
          trivial
        cases pending with
        | held up down waiting item origin => cases free.symm.trans waiting
        | answered up down waiting delivered =>
            rw [up] at inside
            exact absurd positive (Nat.not_lt.mpr inside)
        | silent idle =>
            rw [idle.1] at inside
            exact absurd positive (Nat.not_lt.mpr inside)
        | sent up down waiting =>
            rcases invariant.encoded data (List.mem_of_getElem? foundData) with ⟨event, rfl⟩
            have item : EventCodec.item (EventCodec.encode event []) = .ok event :=
              EventCodec.item_eq_ok_iff.mpr ⟨[], (List.append_nil _).symm⟩
            have taken : before.up.take count = (EventCodec.encode event []).map (·, buf) := by
              rw [whole, List.take_length, up]
            have left : before.up.drop count = [] := by
              rw [whole, List.drop_length]
            have bytes : ((EventCodec.encode event []).map (·, buf)).map Prod.fst =
                EventCodec.encode event [] := by
              rw [List.map_map]
              exact List.map_id _
            have sources : ((EventCodec.encode event []).map (·, buf)).map Prod.snd =
                List.replicate (EventCodec.encode event []).length buf := by
              rw [List.map_map]
              exact List.map_const'
            rw [taken, bytes, item] at returned
            rw [taken, bytes, sources, item, returned, left]
            exact pending_of_handle foundData item rfl down free returned
    · cases stepped

/-- The answer to the lookup of the event that was sent moves its exchange on. -/
theorem Invariant.lookup (invariant : Invariant system) {codec : BugEventCodec}
    {reply : DeviceReply} (stepped : step codec system (.lookup index reply clock) = some next) :
    Invariant next := by
  simp only [step] at stepped
  split at stepped
  · cases stepped
  · rename_i before found
    split at stepped
    · rename_i enabled
      rcases Option.isSome_iff_exists.mp enabled.2 with ⟨event, held⟩
      cases stepped
      apply invariant.handled found
      · intro idle
        cases held.symm.trans idle.2.2
      · intro buf data handler outputs receiving pointer foundData pending returned
        rcases EventHandler.resume_of_waiting held returned with ⟨released, answered⟩
        cases pending with
        | sent up down waiting => cases held.symm.trans waiting
        | answered up down waiting delivered => cases held.symm.trans waiting
        | silent idle => cases held.symm.trans idle.2.2
        | held up down waiting item origin =>
            cases held.symm.trans waiting
            rw [returned, origin]
            exact pending_of_answered foundData item up down released answered
    · cases stepped

end Backend

/-! ## Whole runs -/

theorem Invariant.step {codec : BugEventCodec} (invariant : Invariant system) (label : Label)
    (undisturbed : system.Undisturbed label)
    (stepped : System.step codec system label = some next) : Invariant next := by
  cases label with
  | send memory kind range ntpSecs =>
      apply invariant.send (codec.event kind range ntpSecs)
      rw [← BugEventCodec.written_encode codec memory kind range ntpSecs]
      exact stepped
  | delayElapsed => exact invariant.delayElapsed stepped
  | dispatch => exact invariant.dispatch stepped
  | connect succeeds => exact invariant.connect stepped
  | connected wifi remote => exact invariant.connected undisturbed stepped
  | sendto accepted succeeds => exact invariant.sendto undisturbed stepped
  | receive received =>
      cases received with
      | error => exact invariant.receiveNothing .error nofun stepped
      | closed => exact invariant.receiveNothing .closed nofun stepped
      | byte value => exact invariant.receiveByte stepped
  | read index count clock => exact invariant.read undisturbed stepped
  | lookup index reply clock => exact invariant.lookup stepped

/-- In every interleaving of firmware, network and backend whose exchanges are
undisturbed, a buffer is freed only after its event has been forwarded. -/
theorem safe_of_undisturbed (codec : BugEventCodec) (labels : List Label)
    (undisturbed : Throughout (System.step codec) Undisturbed new labels) (final : System)
    (reached : follow (System.step codec) new labels = some final) : final.Safe := by
  have invariant : final.Invariant := follow_invariant
    (fun system label next invariant calm stepped => invariant.step label calm stepped)
    invariant_new undisturbed reached
  exact invariant.safe

/-- The firmware connects, queues one event and sends it. -/
def oneEvent : List Label :=
  [.delayElapsed, .dispatch, .connect true,
    .send (fun _ => 0) (.luminosity ⟨3, 4⟩) ⟨1000, 2000⟩ 1608119495,
    .dispatch, .connected true true, .sendto 44 true]

/-- The backend reads the event as a whole, looks its device up and answers. -/
def wholeRead : List Label :=
  oneEvent ++ [.read 0 44 ⟨1608119496, 0⟩,
    .lookup 0 (.ok (.ok ⟨.ofNat 1, "desk", ""⟩)) ⟨1608119496, 0⟩, .receive (.byte 1)]

/-- The backend reads the first byte of the event and answers the decode error. -/
def splitRead : List Label :=
  oneEvent ++ [.read 0 1 ⟨1608119496, 0⟩, .receive (.byte 1)]

theorem safe_wholeRead :
    ∃ final, follow (System.step ⟨7⟩) new wholeRead = some final ∧ final.client.freed = [0] ∧
      final.Safe := by
  have computed : (follow (System.step ⟨7⟩) new wholeRead).map (fun final =>
      final.client.freed) = some [0] := by decide +kernel
  rcases Option.map_eq_some_iff.mp computed with ⟨final, reached, freed⟩
  have undisturbed : Throughout (System.step ⟨7⟩) Undisturbed new wholeRead := by decide +kernel
  exact ⟨final, reached, freed, safe_of_undisturbed ⟨7⟩ wholeRead undisturbed final reached⟩

/-- The buffer is freed on the response to a decode error, and nothing has been
forwarded. -/
theorem not_safe_splitRead :
    ∃ final, follow (System.step ⟨7⟩) new splitRead = some final ∧ ¬ final.Safe := by
  have computed : (follow (System.step ⟨7⟩) new splitRead).map (fun final =>
      (final.client.freed, final.forwarded)) = some ([0], []) := by decide +kernel
  rcases Option.map_eq_some_iff.mp computed with ⟨final, reached, outcome⟩
  rcases Prod.mk.inj outcome with ⟨freed, forwarded⟩
  constructor
  · constructor
    · exact reached
    · intro safe
      have member : 0 ∈ final.client.freed := by
        rw [freed]
        exact List.mem_cons_self
      rcases safe 0 member with ⟨_, _, _, _, _, _, _, _, _, found, _⟩
      rw [forwarded] at found
      cases found

end System

end Bug.Delivery
