import Bug.Audio.Server

/-!
# One run for each client address

Behind the mailboxes of the server every started handler has a run of its own.
Whatever order the actors take their turns in, it is the run on the datagrams of
one address, in the order of their arrival since the handler was started.
-/

namespace Bug

open Bug.Db
open Bug.Encoding
open Bug.Transition

namespace AudioServer

/-- The datagram that an input brings from the given address. -/
def Input.bufFrom (clientAddr : SocketAddr) : Input → Option Bytes
  | udpStream packet => if packet.clientAddr = clientAddr then some packet.buf else none
  | _ => none

/-- The outcomes that the given handler meets in its turn. -/
def Input.houndOf (writer : Nat) : Input → Option Hound
  | work other hound => if other = writer then some hound else none
  | _ => none

/-- What the given handler does to the world outside. -/
def Output.effectOf (writer : Nat) : Output → Option Effect
  | effect other done => if other = writer then some done else none
  | _ => none

/-- The handler at a position was started for the address by a reply that its
announcement was waiting for.  Since then it has taken a front of the datagrams
of the address, one in each of its turns, and its mailbox holds the others. -/
def Routed (server : AudioServer) (inputs : List Input) (outputs : List Output)
    (clientAddr : SocketAddr) (writer : Nat) : Prop :=
  ∃ (spec : Spec) (device : Device) (before after : List Input) (messages : List AudioBytes)
    (actor : HandlerActor),
    inputs = before ++ .reply (.ok (.ok device)) :: after ∧
      Pending before outputs clientAddr spec ∧
      server.handlers[writer]? = some actor ∧
      run AudioHandler.handle (AudioHandler.new server.wavDirectory spec device.id) messages =
        (actor.handler, outputs.filterMap (Output.effectOf writer)) ∧
      messages.map AudioBytes.buf ++ actor.mailbox =
        after.filterMap (Input.bufFrom clientAddr) ∧
      messages.map AudioBytes.hound = after.filterMap (Input.houndOf writer)

/-- The bindings of a server are the handlers it has started, each on the run of
its address. -/
structure Routes (server : AudioServer) (inputs : List Input) (outputs : List Output) :
    Prop where
  lookup_iff : ∀ clientAddr writer, server.writers.lookup clientAddr = some writer ↔
    (outputs.filterMap Output.startedFor)[writer]? = some clientAddr
  routed : ∀ clientAddr writer, server.writers.lookup clientAddr = some writer →
    Routed server inputs outputs clientAddr writer
  unstarted : ∀ writer, server.handlers.length ≤ writer →
    outputs.filterMap (Output.effectOf writer) = []

theorem routes_new (wavDirectory : PathBuf) : Routes (new wavDirectory) [] [] := by
  constructor
  · intro clientAddr writer
    rw [new, AList.lookup_empty]
    simp
  · exact Table.forall_empty _
  · intro writer outside
    rfl

section Step

variable {server next : AudioServer} {inputs : List Input} {input : Input}
  {outputs sent : List Output} {clientAddr : SocketAddr} {writer : Nat}

/-- No two addresses share a handler. -/
theorem Routes.injective (routes : Routes server inputs outputs) {other : SocketAddr}
    (known : server.writers.lookup clientAddr = some writer)
    (same : server.writers.lookup other = some writer) : clientAddr = other := by
  have first := (routes.lookup_iff clientAddr writer).mp known
  have second := (routes.lookup_iff other writer).mp same
  exact Option.some.inj (first.symm.trans second)

theorem Pending.mono {spec : Spec} (pending : Pending inputs outputs clientAddr spec)
    (sent : List Output) : Pending inputs (outputs ++ sent) clientAddr spec := by
  rcases pending with ⟨front, buf, secret, last, decoded, selected⟩
  exact ⟨front, buf, secret, last, decoded, List.mem_append_left _ selected⟩

/-- An input that neither reaches the handler nor comes from its address leaves
its run where it was. -/
theorem Routed.idle (routed : Routed server inputs outputs clientAddr writer)
    (directoryEq : next.wavDirectory = server.wavDirectory)
    (handlerEq : next.handlers[writer]? = server.handlers[writer]?)
    (noDatagram : input.bufFrom clientAddr = none) (noTurn : input.houndOf writer = none)
    (noEffect : sent.filterMap (Output.effectOf writer) = []) :
    Routed next (inputs ++ [input]) (outputs ++ sent) clientAddr writer := by
  rcases routed with ⟨spec, device, before, after, messages, actor, split, pending, found,
    taken, queued, turns⟩
  refine ⟨spec, device, before, after ++ [input], messages, actor, ?_, pending.mono sent,
    handlerEq.trans found, ?_, ?_, ?_⟩
  · rw [split, List.append_assoc, List.cons_append]
  · rw [directoryEq, List.filterMap_append, noEffect, List.append_nil, taken]
  · rw [List.filterMap_append, queued, List.filterMap_cons_none noDatagram, List.filterMap_nil,
      List.append_nil]
  · rw [List.filterMap_append, turns, List.filterMap_cons_none noTurn, List.filterMap_nil,
      List.append_nil]

/-- An input that starts no handler, reaches none and comes from none of their
addresses leaves every run where it was. -/
theorem Routes.idle (routes : Routes server inputs outputs)
    (directoryEq : next.wavDirectory = server.wavDirectory)
    (writersEq : next.writers = server.writers) (handlersEq : next.handlers = server.handlers)
    (noTurn : ∀ writer, input.houndOf writer = none)
    (noDatagram : ∀ clientAddr, clientAddr ∈ server.writers → input.bufFrom clientAddr = none)
    (noStart : sent.filterMap Output.startedFor = [])
    (noEffect : ∀ writer, sent.filterMap (Output.effectOf writer) = []) :
    Routes next (inputs ++ [input]) (outputs ++ sent) := by
  constructor
  · rw [List.filterMap_append, noStart, List.append_nil, writersEq]
    exact routes.lookup_iff
  · intro clientAddr writer known
    rw [writersEq] at known
    have bound : clientAddr ∈ server.writers := Table.mem_of_lookup known
    exact (routes.routed clientAddr writer known).idle directoryEq (by rw [handlersEq])
      (noDatagram clientAddr bound) (noTurn writer) (noEffect writer)
  · intro writer outside
    rw [handlersEq] at outside
    rw [List.filterMap_append, routes.unstarted writer outside, noEffect, List.append_nil]

/-- A sender without a handler changes no handler. -/
theorem serve_udpStream_of_unknown {packet : UdpStream}
    (unknown : server.writers.lookup packet.clientAddr = none)
    (served : server.serve (.udpStream packet) = some (next, sent)) :
    (next.wavDirectory, next.writers, next.handlers) =
        (server.wavDirectory, server.writers, server.handlers) ∧
      sent.filterMap Output.startedFor = [] ∧
      ∀ writer, sent.filterMap (Output.effectOf writer) = [] := by
  simp only [serve, handle, unknown] at served
  split at served
  · split at served <;> cases served <;> exact ⟨rfl, rfl, fun _ => rfl⟩
  · cases served

theorem serve_udpStream_of_known {packet : UdpStream} {writer : Nat}
    (known : server.writers.lookup packet.clientAddr = some writer)
    (served : server.serve (.udpStream packet) = some (next, sent)) :
    next = server.doSend writer packet.buf ∧ sent = [.doSend writer packet.buf] := by
  simp only [serve, handle, known] at served
  split at served
  · cases served
    exact ⟨rfl, rfl⟩
  · cases served

theorem Routes.doSend (routes : Routes server inputs outputs) {packet : UdpStream} {target : Nat}
    (target_eq : server.writers.lookup packet.clientAddr = some target) :
    Routes (server.doSend target packet.buf) (inputs ++ [.udpStream packet])
      (outputs ++ [.doSend target packet.buf]) := by
  have noStart : [Output.doSend target packet.buf].filterMap Output.startedFor = [] := rfl
  have noEffect : ∀ writer,
      [Output.doSend target packet.buf].filterMap (Output.effectOf writer) = [] := fun _ => rfl
  have noTurn : ∀ writer, [Input.udpStream packet].filterMap (Input.houndOf writer) = [] :=
    fun _ => rfl
  constructor
  · rw [List.filterMap_append, noStart, List.append_nil]
    exact routes.lookup_iff
  · intro clientAddr writer known
    have routed := routes.routed clientAddr writer known
    by_cases same : packet.clientAddr = clientAddr
    · subst same
      cases known.symm.trans target_eq
      rcases routed with ⟨spec, device, before, after, messages, actor, split, pending, found,
        taken, queued, turns⟩
      refine ⟨spec, device, before, after ++ [.udpStream packet], messages,
        actor.doSend packet.buf, ?_, pending.mono _, ?_, ?_, ?_, ?_⟩
      · rw [split, List.append_assoc, List.cons_append]
      · simp [AudioServer.doSend, found]
      · rw [List.filterMap_append, noEffect, List.append_nil]
        exact taken
      · rw [List.filterMap_append, ← queued, List.append_assoc]
        simp [Input.bufFrom, HandlerActor.doSend]
      · rw [List.filterMap_append, noTurn, List.append_nil]
        exact turns
    · have elsewhere : target ≠ writer := by
        rintro rfl
        exact same (routes.injective target_eq known)
      apply routed.idle
      · rfl
      · simp [AudioServer.doSend, elsewhere]
      · exact if_neg same
      · rfl
      · rfl
  · intro writer outside
    rw [AudioServer.doSend, List.length_modify] at outside
    rw [List.filterMap_append, routes.unstarted writer outside, noEffect, List.append_nil]

theorem Routes.worked (routes : Routes server inputs outputs) {turn : Nat} {hound : Hound}
    {handler : AudioHandler} {buf : Bytes} {mailbox : List Bytes}
    (found : server.handlers[turn]? = some ⟨handler, buf :: mailbox⟩) :
    Routes
      { server with
        handlers := server.handlers.set turn ⟨(handler.handle ⟨buf, hound⟩).1, mailbox⟩ }
      (inputs ++ [.work turn hound])
      (outputs ++ (handler.handle ⟨buf, hound⟩).2.map (.effect turn)) := by
  have noStart : ((handler.handle ⟨buf, hound⟩).2.map (Output.effect turn)).filterMap
      Output.startedFor = [] := by
    rw [List.filterMap_map, List.filterMap_eq_nil_iff]
    intro effect member
    rfl
  have noEffect : ∀ writer, turn ≠ writer →
      ((handler.handle ⟨buf, hound⟩).2.map (Output.effect turn)).filterMap
        (Output.effectOf writer) = [] := by
    intro writer elsewhere
    rw [List.filterMap_map, List.filterMap_eq_nil_iff]
    intro effect member
    exact if_neg elsewhere
  have inside : turn < server.handlers.length := (List.getElem?_eq_some_iff.mp found).1
  constructor
  · rw [List.filterMap_append, noStart, List.append_nil]
    exact routes.lookup_iff
  · intro clientAddr writer known
    have routed := routes.routed clientAddr writer known
    by_cases same : turn = writer
    · subst same
      rcases routed with ⟨spec, device, before, after, messages, actor, split, pending, here,
        taken, queued, turns⟩
      cases here.symm.trans found
      refine ⟨spec, device, before, after ++ [.work turn hound], messages ++ [⟨buf, hound⟩],
        ⟨(handler.handle ⟨buf, hound⟩).1, mailbox⟩, ?_, pending.mono _, ?_, ?_, ?_, ?_⟩
      · rw [split, List.append_assoc, List.cons_append]
      · exact List.getElem?_set_self inside
      · rw [run_concat, taken, List.filterMap_append, List.filterMap_map]
        have own : Output.effectOf turn ∘ Output.effect turn = some := by
          funext effect
          exact if_pos rfl
        rw [own, List.filterMap_some]
      · rw [List.filterMap_append, ← queued, List.map_append, List.append_assoc]
        simp [Input.bufFrom]
      · rw [List.filterMap_append, ← turns, List.map_append]
        simp [Input.houndOf]
    · apply routed.idle
      · rfl
      · exact List.getElem?_set_ne same
      · rfl
      · exact if_neg same
      · exact noEffect writer same
  · intro writer outside
    rw [List.length_set] at outside
    have elsewhere : turn ≠ writer := (inside.trans_le outside).ne
    rw [List.filterMap_append, routes.unstarted writer outside, noEffect writer elsewhere,
      List.append_nil]

theorem Routes.lt_length (routes : Routes server inputs outputs)
    (binds : Binds server inputs outputs)
    (known : server.writers.lookup clientAddr = some writer) :
    writer < server.handlers.length := by
  rw [binds.count]
  exact (List.getElem?_eq_some_iff.mp ((routes.lookup_iff clientAddr writer).mp known)).1

/-- The reply that resolves a lookup starts the run of the waiting address. -/
theorem Routes.resolved (routes : Routes server inputs outputs)
    (binds : Binds server inputs outputs) {spec : Spec} {device : Device}
    (waiting : server.waiting = some (clientAddr, spec)) :
    Routes
      ({ server with waiting := none }.insert clientAddr
        (AudioHandler.new server.wavDirectory spec device.id))
      (inputs ++ [.reply (.ok (.ok device))])
      (outputs ++ [.start clientAddr server.handlers.length]) := by
  rcases binds.waiting clientAddr spec waiting with ⟨unknown, pending⟩
  have started : (outputs ++ [Output.start clientAddr server.handlers.length]).filterMap
      Output.startedFor = outputs.filterMap Output.startedFor ++ [clientAddr] := by
    rw [List.filterMap_append]
    rfl
  have noEffect : ∀ writer,
      [Output.start clientAddr server.handlers.length].filterMap (Output.effectOf writer) = [] :=
    fun _ => rfl
  constructor
  · intro other writer
    rw [started, insert, List.getElem?_append, ← binds.count]
    split
    · rename_i inside
      rw [← routes.lookup_iff]
      by_cases same : other = clientAddr
      · subst same
        rw [AList.lookup_insert, unknown, Option.some.injEq]
        exact iff_of_false inside.ne' (Option.some_ne_none writer).symm
      · rw [AList.lookup_insert_ne same]
    · rename_i outside
      by_cases same : other = clientAddr
      · subst same
        rw [AList.lookup_insert, Option.some.injEq, List.getElem?_singleton]
        split
        · rename_i last
          exact iff_of_true ((Nat.not_lt.mp outside).antisymm (Nat.sub_eq_zero_iff_le.mp last)) rfl
        · rename_i beyond
          apply iff_of_false
          · rintro rfl
            exact beyond (Nat.sub_self _)
          · exact (Option.some_ne_none other).symm
      · rw [AList.lookup_insert_ne same, List.getElem?_singleton]
        apply iff_of_false
        · exact fun known => outside (routes.lt_length binds known)
        · split
          · exact fun equal => same (Option.some.inj equal).symm
          · exact (Option.some_ne_none other).symm
  · intro other writer known
    rw [insert] at known
    by_cases same : other = clientAddr
    · subst same
      rw [AList.lookup_insert] at known
      cases known
      refine ⟨spec, device, inputs, [], [], _, rfl, pending.mono _,
        List.getElem?_concat_length, ?_, rfl, rfl⟩
      rw [List.filterMap_append, routes.unstarted _ (Nat.le_refl _)]
      rfl
    · rw [AList.lookup_insert_ne same] at known
      apply (routes.routed other writer known).idle
      · rfl
      · exact List.getElem?_append_left (routes.lt_length binds known)
      · rfl
      · rfl
      · rfl
  · intro writer outside
    rw [insert, List.length_append] at outside
    rw [List.filterMap_append, routes.unstarted writer (Nat.le_of_add_right_le outside), noEffect,
      List.append_nil]

theorem Routes.step (routes : Routes server inputs outputs)
    (binds : Binds server inputs outputs) (served : server.serve input = some (next, sent)) :
    Routes next (inputs ++ [input]) (outputs ++ sent) := by
  cases input with
  | udpStream packet =>
      cases known : server.writers.lookup packet.clientAddr with
      | some target =>
          rcases serve_udpStream_of_known known served with ⟨rfl, rfl⟩
          exact routes.doSend known
      | none =>
          rcases serve_udpStream_of_unknown known served with ⟨same, noStart, noEffect⟩
          simp only [Prod.mk.injEq] at same
          rcases same with ⟨directoryEq, writersEq, handlersEq⟩
          apply routes.idle directoryEq writersEq handlersEq (fun _ => rfl) _ noStart noEffect
          intro clientAddr bound
          apply if_neg
          rintro rfl
          exact AList.lookup_eq_none.mp known bound
  | reply device =>
      cases served_of_serve served with
      | resolved waiting => exact routes.resolved binds waiting
      | unresolved =>
          exact routes.idle rfl rfl rfl (fun _ => rfl) (fun _ _ => rfl) rfl fun _ => rfl
  | signal =>
      cases served_of_serve served with
      | signal ready =>
          exact routes.idle rfl rfl rfl (fun _ => rfl) (fun _ _ => rfl) rfl fun _ => rfl
  | work turn hound =>
      cases served_of_serve served with
      | worked found => exact routes.worked found

end Step

theorem routes_run {wavDirectory : PathBuf} {inputs : List Input} {final : AudioServer}
    {outputs : List Output}
    (reached : guardedRun serve (new wavDirectory) inputs = some (final, outputs)) :
    Binds final inputs outputs ∧ Routes final inputs outputs :=
  guardedRun_invariant
    (fun server inputs outputs => Binds server inputs outputs ∧ Routes server inputs outputs)
    ⟨binds_new wavDirectory, routes_new wavDirectory⟩
    (by
      rintro server inputs outputs input next sent ⟨binds, routes⟩ served
      exact ⟨binds.step (served_of_serve served), routes.step binds served⟩)
    reached

theorem wavDirectory_run {wavDirectory : PathBuf} {inputs : List Input} {final : AudioServer}
    {outputs : List Output}
    (reached : guardedRun serve (new wavDirectory) inputs = some (final, outputs)) :
    final.wavDirectory = wavDirectory :=
  guardedRun_invariant (fun server _ _ => server.wavDirectory = wavDirectory) rfl
    (by
      intro server inputs outputs input next sent directoryEq served
      cases served_of_serve served <;> exact directoryEq)
    reached

/-- An effect of a run belongs to a handler that is bound to an address. -/
theorem Routes.exists_lookup {server : AudioServer} {inputs : List Input} {outputs : List Output}
    (routes : Routes server inputs outputs) (binds : Binds server inputs outputs) {writer : Nat}
    {effect : Effect} (member : .effect writer effect ∈ outputs) :
    ∃ clientAddr, server.writers.lookup clientAddr = some writer := by
  have own : Output.effectOf writer (.effect writer effect) = some effect := if_pos rfl
  have present := List.mem_filterMap.mpr ⟨_, member, own⟩
  have started : writer < server.handlers.length := by
    by_contra outside
    rw [routes.unstarted writer (Nat.not_lt.mp outside)] at present
    cases present
  rw [binds.count] at started
  exact ⟨_, (routes.lookup_iff _ writer).mpr (List.getElem?_eq_getElem started)⟩

/-- Over every run of the server and its handlers, in any order of their turns:
each bound handler is in the state, and had the effects, of a run of its own on
the datagrams of its address, taken in order and each once; the handlers of
different addresses are different; and nothing else has effects. -/
theorem handlers_routed (wavDirectory : PathBuf) (inputs : List Input) (final : AudioServer)
    (outputs : List Output)
    (reached : guardedRun serve (new wavDirectory) inputs = some (final, outputs)) :
    final.wavDirectory = wavDirectory ∧
      (∀ clientAddr writer, final.writers.lookup clientAddr = some writer →
        Routed final inputs outputs clientAddr writer) ∧
      (∀ clientAddr other writer, final.writers.lookup clientAddr = some writer →
        final.writers.lookup other = some writer → clientAddr = other) ∧
      ∀ writer effect, .effect writer effect ∈ outputs →
        ∃ clientAddr, final.writers.lookup clientAddr = some writer := by
  rcases routes_run reached with ⟨binds, routes⟩
  refine ⟨wavDirectory_run reached, routes.routed, ?_, ?_⟩
  · exact fun clientAddr other writer known same => routes.injective known same
  · exact fun writer effect member => routes.exists_lookup binds member

/-- The announced client and one end marker of it, which its handler takes. -/
theorem handlers_routed_desk :
    ∃ final outputs,
      guardedRun serve (new ["wav"])
          (announcement (.v4 2130706433 3003) ++
            [.udpStream ⟨Audio.codec.encode (.wavEnd (.ofNat 7) : Audio Int16),
                .v4 2130706433 3003⟩,
              .work 0 (.working ⟨0, 0⟩)]) = some (final, outputs) ∧
        Routed final
          (announcement (.v4 2130706433 3003) ++
            [.udpStream ⟨Audio.codec.encode (.wavEnd (.ofNat 7) : Audio Int16),
                .v4 2130706433 3003⟩,
              .work 0 (.working ⟨0, 0⟩)])
          outputs (.v4 2130706433 3003) 0 := by
  have computed : (guardedRun serve (new ["wav"])
      (announcement (.v4 2130706433 3003) ++
        [.udpStream ⟨Audio.codec.encode (.wavEnd (.ofNat 7) : Audio Int16),
            .v4 2130706433 3003⟩,
          .work 0 (.working ⟨0, 0⟩)])).map
      (fun result => result.1.writers.lookup (.v4 2130706433 3003)) = some (some 0) := by
    decide +kernel
  rcases Option.map_eq_some_iff.mp computed with ⟨⟨final, outputs⟩, reached, known⟩
  exact ⟨final, outputs, reached, (handlers_routed _ _ _ _ reached).2.1 _ _ known⟩

end AudioServer

end Bug
