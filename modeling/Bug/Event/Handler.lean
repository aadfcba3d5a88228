import Bug.Db.Device
import Bug.Db.Event
import Bug.Event.Codec

/-!
# The handler of one device connection

The first decoded event of a connection is held back while its secret is looked
up; later events are forwarded at once.  Both a forwarded event and a decode
failure are answered with the same byte.  A panic of the conversion takes the
actor down.
-/

namespace Bug

open Bug.Db
open Bug.Encoding
open Bug.Transition

structure EventHandler where
  device : Option Device
  /-- The event whose lookup the actor waits for; nothing else is handled
  meanwhile. -/
  waiting : Option Event
  /-- Set by `ctx.stop()`. -/
  stopping : Bool
  deriving DecidableEq

namespace EventHandler

/-- `MAGIC_RESPONSE`. -/
def magicResponse : UInt8 := 1

/-- What the handler sends: events to the processor, lookups to the database
and response bytes to the device. -/
inductive Output where
  | forward (event : NewEvent)
  | select (secret : UInt64)
  | write (response : UInt8)
  deriving DecidableEq

def new : EventHandler where
  device := none
  waiting := none
  stopping := false

def innerHandle (clock : Clock) (handler : EventHandler) (event : Event) :
    Option (List Output) :=
  match handler.device with
  | some device => do
      let newEvent ← NewEvent.ofEvent clock event device.id
      return [.forward newEvent, .write magicResponse]
  | none => some []

def authenticate (reply : DeviceReply) (handler : EventHandler) : EventHandler :=
  match reply with
  | .ok (.ok device) => { handler with device := some device }
  | .ok (.error _) => { handler with stopping := true }
  | .error _ => handler

/-- The stream handler on one decoded item. -/
def handle (clock : Clock) (handler : EventHandler) (item : Except EventCodec.Error Event) :
    Option (EventHandler × List Output) :=
  match item with
  | .error _ => some (handler, [.write magicResponse])
  | .ok event =>
      if handler.device.isNone then
        some ({ handler with waiting := some event }, [.select event.secret])
      else
        (handler.innerHandle clock event).map fun outputs => (handler, outputs)

/-- The continuation of a lookup: authenticate, then handle the held event. -/
def resume (clock : Clock) (handler : EventHandler) (reply : DeviceReply) :
    Option (EventHandler × List Output) :=
  match handler.waiting with
  | none => some (handler, [])
  | some event =>
      let handler := authenticate reply { handler with waiting := none }
      (handler.innerHandle clock event).map fun outputs => (handler, outputs)

/-- The outputs of a handled event: nothing without a device, or the event and
its response. -/
inductive Answered (clock : Clock) (event : Event) : List Output → Prop
  | silent : Answered clock event []
  | forwarded {deviceId : Uuid} {newEvent : NewEvent} :
      NewEvent.ofEvent clock event deviceId = some newEvent →
      Answered clock event [.forward newEvent, .write magicResponse]

theorem answered_of_innerHandle {clock : Clock} {handler : EventHandler} {event : Event}
    {outputs : List Output} (returned : handler.innerHandle clock event = some outputs) :
    Answered clock event outputs := by
  cases known : handler.device with
  | none =>
      rw [innerHandle, known] at returned
      cases returned
      exact .silent
  | some device =>
      rw [innerHandle, known] at returned
      rcases Option.bind_eq_some_iff.mp returned with ⟨newEvent, converted, outputsEq⟩
      cases outputsEq
      exact .forwarded converted

/-- A decoded event is held back for its lookup or answered at once. -/
theorem handle_ok {clock : Clock} {handler after : EventHandler} {event : Event}
    {outputs : List Output} (free : handler.waiting = none)
    (returned : handler.handle clock (.ok event) = some (after, outputs)) :
    after.waiting = some event ∧ outputs = [.select event.secret] ∨
      after.waiting = none ∧ Answered clock event outputs := by
  simp only [handle] at returned
  split at returned
  · cases returned
    exact Or.inl ⟨rfl, rfl⟩
  · rcases Option.map_eq_some_iff.mp returned with ⟨result, handled, pairEq⟩
    cases pairEq
    exact Or.inr ⟨free, answered_of_innerHandle handled⟩

/-- The answer to a lookup releases the event that was held back. -/
theorem resume_of_waiting {clock : Clock} {handler after : EventHandler} {event : Event}
    {reply : DeviceReply} {outputs : List Output} (held : handler.waiting = some event)
    (returned : handler.resume clock reply = some (after, outputs)) :
    after.waiting = none ∧ Answered clock event outputs := by
  simp only [resume, held] at returned
  rcases Option.map_eq_some_iff.mp returned with ⟨result, handled, pairEq⟩
  cases pairEq
  constructor
  · unfold authenticate
    split <;> rfl
  · exact answered_of_innerHandle handled

theorem isSome_innerHandle_iff (clock : Clock) {handler : EventHandler} {device : Device}
    (authenticated : handler.device = some device) (event : Event) :
    (handler.innerHandle clock event).isSome ↔ NewEvent.Representable event := by
  rw [← NewEvent.isSome_ofEvent_iff clock event device.id, innerHandle, authenticated]
  cases converted : NewEvent.ofEvent clock event device.id <;> simp [converted]

/-- On an authenticated connection, a byte string that decodes to an event is
handled without a panic exactly when the event has representable fields. -/
theorem isSome_handle_item_iff (clock : Clock) (handler : EventHandler) (device : Device)
    (authenticated : handler.device = some device) (buf : Bytes) (event : Event)
    (accepted : EventCodec.item buf = .ok event) :
    (handler.handle clock (EventCodec.item buf)).isSome ↔ NewEvent.Representable event := by
  rw [← isSome_innerHandle_iff clock authenticated event, accepted]
  simp [handle, authenticated]

/-- An event with ordinary fields is handled. -/
theorem handle_item_completes :
    ((⟨some ⟨.ofNat 1, "desk", ""⟩, none, false⟩ : EventHandler).handle ⟨1608119495, 28800⟩
      (EventCodec.item (EventCodec.encode ⟨1, 1608119495, 0, 1608119496, 0, .luminosity 1 2⟩
        []))).isSome :=
  (isSome_handle_item_iff _ _ ⟨.ofNat 1, "desk", ""⟩ rfl _
    ⟨1, 1608119495, 0, 1608119496, 0, .luminosity 1 2⟩
    (EventCodec.item_eq_ok_iff.mpr ⟨[], by simp⟩)).mpr
    (by simp [NewEvent.Representable]; decide)

/-- An event with two billion nanoseconds decodes and panics. -/
theorem handle_item_panics :
    EventCodec.item (EventCodec.encode ⟨1, 1608119495, 2000000000, 1608119496, 0,
        .luminosity 1 2⟩ []) =
      .ok ⟨1, 1608119495, 2000000000, 1608119496, 0, .luminosity 1 2⟩ ∧
    (⟨some ⟨.ofNat 1, "desk", ""⟩, none, false⟩ : EventHandler).handle ⟨1608119495, 28800⟩
      (EventCodec.item (EventCodec.encode ⟨1, 1608119495, 2000000000, 1608119496, 0,
        .luminosity 1 2⟩ [])) = none := by
  have accepted : EventCodec.item (EventCodec.encode ⟨1, 1608119495, 2000000000, 1608119496, 0,
      .luminosity 1 2⟩ []) = .ok ⟨1, 1608119495, 2000000000, 1608119496, 0, .luminosity 1 2⟩ :=
    EventCodec.item_eq_ok_iff.mpr ⟨[], by simp⟩
  constructor
  · exact accepted
  · rw [accepted]
    decide

end EventHandler

end Bug
