import Bug.Event.Handler
import Bug.Transition.Guarded

/-!
# A device connection over whole runs

Decoded items and replies of the database reach the handler of a connection in
any order, except that nothing but its reply is handled while a lookup is
pending.  The device of the connection is the first one that a lookup resolved,
and events are forwarded under no other.
-/

namespace Bug

open Bug.Db
open Bug.Transition

namespace EventHandler

inductive Input where
  /-- An item of the stream, at the given time. -/
  | item (clock : Clock) (item : Except EventCodec.Error Event)
  /-- The reply to the pending lookup, at the given time. -/
  | reply (clock : Clock) (reply : DeviceReply)

/-- The actor: `wait` keeps items back during a lookup, and a stopping actor
takes no more of them. -/
def serve : GuardedReaction EventHandler Input Output
  | handler, .item clock item =>
      if handler.waiting = none ∧ handler.stopping = false then handler.handle clock item else none
  | handler, .reply clock reply =>
      if handler.waiting.isSome then handler.resume clock reply else none

/-- Everything that one input can do. -/
inductive Served (handler : EventHandler) : Input → EventHandler → List Output → Prop
  | rejected {clock : Clock} {error : EventCodec.Error} :
      Served handler (.item clock (.error error)) handler [.write magicResponse]
  | lookup {clock : Clock} {event : Event} : handler.device = none → handler.stopping = false →
      Served handler (.item clock (.ok event)) { handler with waiting := some event }
        [.select event.secret]
  | handled {clock : Clock} {event : Event} {device : Device} {outputs : List Output} :
      handler.device = some device → handler.innerHandle clock event = some outputs →
      Served handler (.item clock (.ok event)) handler outputs
  | resumed {clock : Clock} {event : Event} {reply : DeviceReply} {outputs : List Output} :
      handler.waiting = some event →
      (authenticate reply { handler with waiting := none }).innerHandle clock event =
        some outputs →
      Served handler (.reply clock reply) (authenticate reply { handler with waiting := none })
        outputs

theorem served_of_serve {handler next : EventHandler} {input : Input} {outputs : List Output}
    (served : handler.serve input = some (next, outputs)) :
    Served handler input next outputs ∧
      (∀ clock item, input = .item clock item → handler.waiting = none) := by
  cases input with
  | item clock item =>
      simp only [serve] at served
      split at served
      · rename_i ready
        refine ⟨?_, fun _ _ _ => ready.1⟩
        cases item with
        | error error =>
            cases served
            exact .rejected
        | ok event =>
            simp only [handle] at served
            cases known : handler.device with
            | none =>
                simp only [known, Option.isNone_none, if_true] at served
                cases served
                simpa only [known] using Served.lookup known ready.2
            | some device =>
                simp only [known, Option.isNone_some, Bool.false_eq_true, if_false] at served
                rcases Option.map_eq_some_iff.mp served with ⟨result, returned, equal⟩
                cases equal
                exact .handled known returned
      · cases served
  | reply clock reply =>
      simp only [serve] at served
      split at served
      · rename_i pending
        rcases Option.isSome_iff_exists.mp pending with ⟨event, held⟩
        simp only [resume, held] at served
        rcases Option.map_eq_some_iff.mp served with ⟨result, returned, equal⟩
        cases equal
        refine ⟨.resumed held returned, ?_⟩
        intro _ _ isItem
        cases isItem
      · cases served

/-! ## Handled events -/

theorem innerHandle_of_none {handler : EventHandler} (unknown : handler.device = none)
    (clock : Clock) (event : Event) : handler.innerHandle clock event = some [] := by
  rw [innerHandle, unknown]

/-- An event is forwarded under the device of its connection. -/
theorem deviceId_of_innerHandle {handler : EventHandler} {clock : Clock} {event : Event}
    {outputs : List Output} (returned : handler.innerHandle clock event = some outputs)
    {newEvent : NewEvent} (member : .forward newEvent ∈ outputs) :
    ∃ device, handler.device = some device ∧ newEvent.deviceId = device.id := by
  cases known : handler.device with
  | none =>
      rw [innerHandle_of_none known] at returned
      cases returned
      cases member
  | some device =>
      rw [innerHandle, known] at returned
      rcases Option.bind_eq_some_iff.mp returned with ⟨converted, conversion, outputsEq⟩
      cases outputsEq
      simp only [List.mem_cons, Output.forward.injEq, reduceCtorEq, List.not_mem_nil,
        or_false] at member
      subst member
      exact ⟨device, rfl, NewEvent.deviceId_of_ofEvent conversion⟩

/-! ## The device of a connection -/

/-- The device that a reply resolves its lookup to. -/
def Input.device : Input → Option Device
  | .reply _ (.ok (.ok device)) => some device
  | _ => none

/-- The device of the first lookup that was resolved. -/
def firstResolved (inputs : List Input) : Option Device :=
  inputs.findSome? Input.device

theorem firstResolved_concat (inputs : List Input) (input : Input) :
    firstResolved (inputs ++ [input]) = (firstResolved inputs).or input.device := by
  rw [firstResolved, List.findSome?_append, List.findSome?_singleton]
  rfl

/-- The lookup that led to a device: an event of this connection, and its reply. -/
def ResolvedTo (inputs : List Input) (outputs : List Output) (device : Device) : Prop :=
  ∃ clock event replied,
    [.item clock (.ok event), .reply replied (.ok (.ok device))] <:+: inputs ∧
      .select event.secret ∈ outputs

theorem ResolvedTo.mono {inputs more : List Input} {outputs sent : List Output} {device : Device}
    (resolved : ResolvedTo inputs outputs device) :
    ResolvedTo (inputs ++ more) (outputs ++ sent) device := by
  rcases resolved with ⟨clock, event, replied, inside, selected⟩
  exact ⟨clock, event, replied, inside.trans (List.prefix_append inputs more).isInfix,
    List.mem_append_left _ selected⟩

/-- What the inputs of a connection so far say about its handler and its
outputs. -/
structure Identified (handler : EventHandler) (inputs : List Input) (outputs : List Output) :
    Prop where
  device_eq : handler.device = firstResolved inputs
  waiting : ∀ event, handler.waiting = some event →
    handler.device = none ∧ handler.stopping = false ∧ .select event.secret ∈ outputs ∧
      ∃ before clock, inputs = before ++ [.item clock (.ok event)]
  resolved : ∀ device, firstResolved inputs = some device → ResolvedTo inputs outputs device
  forwarded : ∀ newEvent, .forward newEvent ∈ outputs →
    ∃ device, firstResolved inputs = some device ∧ newEvent.deviceId = device.id

section Step

variable {handler next : EventHandler} {inputs : List Input} {outputs sent : List Output}
  {clock : Clock}

/-- An item changes nothing about the device, and is answered under it. -/
theorem Identified.item (identified : Identified handler inputs outputs)
    {item : Except EventCodec.Error Event} (device : next.device = handler.device)
    (waiting : ∀ event, next.waiting = some event →
      next.device = none ∧ next.stopping = false ∧ .select event.secret ∈ sent ∧
        item = .ok event)
    (forwarded : ∀ newEvent, .forward newEvent ∈ sent →
      ∃ device, handler.device = some device ∧ newEvent.deviceId = device.id) :
    Identified next (inputs ++ [.item clock item]) (outputs ++ sent) := by
  have resolvedEq : firstResolved (inputs ++ [.item clock item]) = firstResolved inputs := by
    rw [firstResolved_concat]
    exact Option.or_none
  constructor
  · rw [resolvedEq, device, identified.device_eq]
  · intro event held
    rcases waiting event held with ⟨unknown, running, selected, rfl⟩
    exact ⟨unknown, running, List.mem_append_right _ selected, inputs, clock, rfl⟩
  · intro device resolved
    rw [resolvedEq] at resolved
    exact (identified.resolved device resolved).mono
  · intro newEvent member
    rw [resolvedEq]
    rcases List.mem_append.mp member with earlier | now
    · exact identified.forwarded newEvent earlier
    · rw [← identified.device_eq]
      exact forwarded newEvent now

/-- A failed lookup leaves the handler as it was before its event, or stops it. -/
theorem Identified.failed (identified : Identified handler inputs outputs) {event : Event}
    (held : handler.waiting = some event) {reply : DeviceReply}
    (failed : ∀ device, reply ≠ .ok (.ok device)) :
    authenticate reply { handler with waiting := none } = new ∨
      authenticate reply { handler with waiting := none } = { new with stopping := true } := by
  rcases handler with ⟨device, waiting, stopping⟩
  rcases identified.waiting event held with ⟨unknown, running, -⟩
  cases unknown
  cases running
  rcases reply with error | (error | device)
  · exact Or.inl rfl
  · exact Or.inr rfl
  · exact absurd rfl (failed device)

/-- A connection that was left so has no device and no event. -/
theorem unidentified_of_failed (left : handler = new ∨ handler = { new with stopping := true }) :
    handler.device = none ∧ handler.waiting = none := by
  rcases left with rfl | rfl
  · exact ⟨rfl, rfl⟩
  · exact ⟨rfl, rfl⟩

/-- Nothing is forwarded before the device is known. -/
theorem Identified.silent (identified : Identified handler inputs outputs)
    (unknown : handler.device = none) (newEvent : NewEvent) : .forward newEvent ∉ outputs := by
  intro member
  rcases identified.forwarded newEvent member with ⟨device, resolved, -⟩
  rw [← identified.device_eq, unknown] at resolved
  cases resolved

/-- A lookup that resolves identifies the connection. -/
theorem Identified.resolves (identified : Identified handler inputs outputs) {event : Event}
    (held : handler.waiting = some event) {device : Device}
    (returned : ({ handler with device := some device, waiting := none } : EventHandler).innerHandle
      clock event = some sent) :
    Identified { handler with device := some device, waiting := none }
      (inputs ++ [.reply clock (.ok (.ok device))]) (outputs ++ sent) := by
  rcases identified.waiting event held with ⟨unknown, -, selected, before, asked, rfl⟩
  have resolvedEq :
      firstResolved (before ++ [.item asked (.ok event)] ++ [.reply clock (.ok (.ok device))]) =
        some device := by
    rw [firstResolved_concat, ← identified.device_eq, unknown]
    rfl
  constructor
  · exact resolvedEq.symm
  · intro other stillHeld
    cases stillHeld
  · intro other resolved
    cases resolvedEq.symm.trans resolved
    refine ⟨asked, event, clock, ?_, List.mem_append_left _ selected⟩
    rw [List.append_assoc]
    exact (List.suffix_append before _).isInfix
  · intro newEvent member
    rcases List.mem_append.mp member with earlier | now
    · exact absurd earlier (identified.silent unknown newEvent)
    · rw [resolvedEq]
      exact deviceId_of_innerHandle returned now

/-- A lookup that fails leaves the connection without a device. -/
theorem Identified.fails (identified : Identified handler inputs outputs) {event : Event}
    (held : handler.waiting = some event) {reply : DeviceReply}
    (failed : ∀ device, reply ≠ .ok (.ok device)) (unknown : next.device = none)
    (free : next.waiting = none) :
    Identified next (inputs ++ [.reply clock reply]) (outputs ++ []) := by
  have nothing : (Input.reply clock reply).device = none := by
    rcases reply with error | (error | device)
    · rfl
    · rfl
    · exact absurd rfl (failed device)
  have resolvedEq : firstResolved (inputs ++ [.reply clock reply]) = none := by
    rw [firstResolved_concat, nothing, Option.or_none, ← identified.device_eq]
    exact (identified.waiting event held).1
  rw [List.append_nil]
  constructor
  · rw [resolvedEq, unknown]
  · intro other stillHeld
    cases free.symm.trans stillHeld
  · intro device resolved
    cases resolvedEq.symm.trans resolved
  · intro newEvent member
    exact absurd member (identified.silent (identified.waiting event held).1 newEvent)

/-- The reply to a lookup identifies the connection, or leaves it unidentified and
its event unanswered. -/
theorem Identified.resumed (identified : Identified handler inputs outputs) {event : Event}
    (held : handler.waiting = some event) {reply : DeviceReply}
    (returned : (authenticate reply { handler with waiting := none }).innerHandle clock event =
      some sent) :
    Identified (authenticate reply { handler with waiting := none })
      (inputs ++ [.reply clock reply]) (outputs ++ sent) := by
  by_cases resolves : ∃ device, reply = .ok (.ok device)
  · rcases resolves with ⟨device, rfl⟩
    exact identified.resolves held returned
  · have failed : ∀ device, reply ≠ .ok (.ok device) :=
      fun device resolved => resolves ⟨device, resolved⟩
    rcases unidentified_of_failed (identified.failed held failed) with ⟨unknown, free⟩
    rw [innerHandle_of_none unknown] at returned
    cases returned
    exact identified.fails held failed unknown free

theorem Identified.serve (identified : Identified handler inputs outputs) {input : Input}
    (served : handler.serve input = some (next, sent)) :
    Identified next (inputs ++ [input]) (outputs ++ sent) := by
  rcases served_of_serve served with ⟨step, ready⟩
  cases step with
  | rejected =>
      apply identified.item rfl
      · intro event held
        cases (ready _ _ rfl).symm.trans held
      · simp
  | @lookup clock event unknown running =>
      have device : ({ handler with waiting := some event } : EventHandler).device =
          handler.device := rfl
      apply identified.item device
      · intro other held
        cases held
        exact ⟨unknown, running, List.mem_cons_self, rfl⟩
      · simp
  | handled known returned =>
      apply identified.item rfl
      · intro event held
        cases (ready _ _ rfl).symm.trans held
      · exact fun newEvent member => deviceId_of_innerHandle returned member
  | resumed held returned => exact identified.resumed held returned

end Step

theorem identified_new : Identified new [] [] := by
  constructor
  · rfl
  · intro event held
    cases held
  · intro device resolved
    cases resolved
  · intro newEvent member
    cases member

theorem identified_run {inputs : List Input} {final : EventHandler} {outputs : List Output}
    (reached : guardedRun serve new inputs = some (final, outputs)) :
    Identified final inputs outputs :=
  guardedRun_invariant Identified identified_new
    (fun _ _ _ _ _ _ identified served => identified.serve served) reached

/-- A lookup that fails did nothing but ask: its event is dropped, unanswered, and
the connection is as it was or stopping. -/
theorem outputs_of_failed {inputs : List Input} {final : EventHandler} {outputs : List Output}
    {replied : Clock} {reply : DeviceReply} (failed : ∀ device, reply ≠ .ok (.ok device))
    (reached : guardedRun serve new (inputs ++ [.reply replied reply]) = some (final, outputs)) :
    ∃ before asked event prior front, inputs = before ++ [.item asked (.ok event)] ∧
      guardedRun serve new before = some (prior, front) ∧
      outputs = front ++ [.select event.secret] ∧
      (final = new ∨ final = { new with stopping := true }) := by
  rcases (guardedRun_concat_eq_some_iff _ _ _ _ _ _).mp reached with
    ⟨middle, asking, after, lookedUp, resumed, rfl⟩
  have identified := identified_run lookedUp
  rcases served_of_serve resumed with ⟨answer, -⟩
  cases answer with
  | @resumed _ event _ _ held returned =>
      rcases identified.waiting event held with ⟨-, -, -, before, asked, rfl⟩
      rcases (guardedRun_concat_eq_some_iff _ _ _ _ _ _).mp lookedUp with
        ⟨prior, front, asking, earlier, looked, rfl⟩
      have left := identified.failed held failed
      have silent : after = [] := by
        rw [innerHandle_of_none (unidentified_of_failed left).1] at returned
        exact (Option.some.inj returned).symm
      refine ⟨before, asked, event, prior, front, rfl, earlier, ?_, left⟩
      rw [silent, List.append_nil]
      rcases served_of_serve looked with ⟨question, ready⟩
      cases question with
      | lookup unknown running => rfl
      | handled known answered => cases (ready _ _ rfl).symm.trans held

/-- Over every run of a connection: the device is that of the first resolved
lookup, which was asked for an event of this connection; every forwarded event
carries its identifier; it never changes; and a failed lookup answers nothing and
leaves nothing of its event behind. -/
theorem first_resolved_device_only (inputs : List Input) (final : EventHandler)
    (outputs : List Output) (reached : guardedRun serve new inputs = some (final, outputs)) :
    final.device = firstResolved inputs ∧
      (∀ newEvent, .forward newEvent ∈ outputs →
        ∃ device, firstResolved inputs = some device ∧ newEvent.deviceId = device.id) ∧
      (∀ device, firstResolved inputs = some device → ResolvedTo inputs outputs device) ∧
      (∀ device, final.device = some device → ∀ more last sent,
        guardedRun serve final more = some (last, sent) → last.device = some device) ∧
      ∀ earlier replied reply, inputs = earlier ++ [.reply replied reply] →
        (∀ device, reply ≠ .ok (.ok device)) →
        ∃ before asked event prior front, earlier = before ++ [.item asked (.ok event)] ∧
          guardedRun serve new before = some (prior, front) ∧
          outputs = front ++ [.select event.secret] ∧
          (final = new ∨ final = { new with stopping := true }) := by
  have identified := identified_run reached
  refine ⟨identified.device_eq, identified.forwarded, identified.resolved, ?_, ?_⟩
  · intro device known more last sent continued
    have whole := (guardedRun_append_eq_some_iff _ _ _ _ _ _).mpr
      ⟨final, outputs, sent, reached, continued, rfl⟩
    rw [(identified_run whole).device_eq, firstResolved, List.findSome?_append, ← firstResolved,
      ← identified.device_eq, known]
    rfl
  · intro earlier replied reply inputsEq failed
    rw [inputsEq] at reached
    exact outputs_of_failed failed reached

/-- The lookup of a connection's first event, and its reply. -/
def firstLookup : List Input :=
  [.item ⟨1608119495, 0⟩ (.ok ⟨1, 1608119495, 0, 1608119496, 0, .luminosity 1 2⟩),
    .reply ⟨1608119496, 0⟩ (.ok (.ok ⟨.ofNat 1, "desk", ""⟩))]

/-- The first event is forwarded under the device that its secret resolved to. -/
theorem first_resolved_device_desk :
    ∃ final outputs, guardedRun serve new firstLookup = some (final, outputs) ∧
      outputs.length = 3 ∧
      ∀ newEvent, .forward newEvent ∈ outputs → newEvent.deviceId = .ofNat 1 := by
  have computed : (guardedRun serve new firstLookup).map (fun result => result.2.length) =
      some 3 := by decide +kernel
  rcases Option.map_eq_some_iff.mp computed with ⟨⟨final, outputs⟩, reached, count⟩
  refine ⟨final, outputs, reached, count, ?_⟩
  intro newEvent member
  rcases (first_resolved_device_only _ _ _ reached).2.1 newEvent member with
    ⟨device, resolved, carried⟩
  cases resolved
  exact carried

end EventHandler

end Bug
