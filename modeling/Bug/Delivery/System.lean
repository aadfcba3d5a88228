import Bug.Event.Handler
import Bug.Firmware.BugEvent
import Bug.Firmware.TcpClient

/-!
# Firmware, network and backend together

The firmware's client, the TCP connections it made and the backend's handler of
each connection take steps in any order.  A connection keeps the bytes on their
way in both directions; the network decides how many bytes a `sendto` hands over
and how many a read of the backend takes.  The backend decodes each read on its
own: its decoder never leaves bytes in the buffer of a connection.

Every byte on its way to the backend carries the buffer it was sent from.  The
components never look at it; it says which buffers a forwarded event was read
from.
-/

namespace Bug.Delivery

open Bug.Db
open Bug.Encoding
open Bug.Firmware
open Bug.Transition

/-- One connection and its handler in the backend. -/
structure Link where
  up : List (UInt8 × Nat)
  down : Bytes
  handler : EventHandler
  /-- The buffers that the event under lookup was read from. -/
  origin : List Nat

structure System where
  client : TcpClient
  links : List Link
  /-- What reached the event processor, and the buffers it was read from. -/
  forwarded : List (NewEvent × List Nat)
  /-- A panic has taken the backend's handlers down. -/
  crashed : Bool

inductive Label where
  /-- `BugEventClient::send` into a new buffer with the given old contents. -/
  | send (memory : Nat → UInt8) (kind : BugEventKind) (range : TimeRange) (ntpSecs : Int32)
  | delayElapsed
  | dispatch
  | connect (succeeds : Bool)
  | connected (wifi remote : Bool)
  /-- `sendto` hands the accepted bytes over and returns; even a failed call may
  have handed some over. -/
  | sendto (accepted : Nat) (succeeds : Bool)
  | receive (received : Received)
  /-- The backend reads from a connection. -/
  | read (link count : Nat) (clock : Clock)
  /-- The database answers the lookup of a connection. -/
  | lookup (link : Nat) (reply : DeviceReply) (clock : Clock)

namespace Link

def new : Link where
  up := []
  down := []
  handler := EventHandler.new
  origin := []

/-- The response bytes among the outputs of a handler. -/
def responses (outputs : List EventHandler.Output) : Bytes :=
  outputs.filterMap fun
    | .write response => some response
    | _ => none

/-- The events among the outputs of a handler. -/
def events (outputs : List EventHandler.Output) : List NewEvent :=
  outputs.filterMap fun
    | .forward event => some event
    | _ => none

end Link

namespace System

def new : System where
  client := TcpClient.new
  links := []
  forwarded := []
  crashed := false

/-- The connection behind the client's socket. -/
def current (system : System) : Option Link :=
  system.client.socket.bind fun link => system.links[link]?

/-- The contents of the buffer that the client is about to send. -/
def outgoing (system : System) : Option Bytes :=
  match system.client.activity with
  | .sending buf => system.client.heap[buf]?
  | _ => none

def setClient (system : System) (client : TcpClient) : System :=
  { system with client := client }

def setLink (system : System) (index : Nat) (link : Link) : System :=
  { system with links := system.links.set index link }

theorem length_links_setLink (system : System) (index : Nat) (link : Link) :
    (system.setLink index link).links.length = system.links.length :=
  List.length_set

/-- An action of the client that leaves the network alone. -/
def act (system : System) (action : TcpClient.Action) : Option System :=
  (system.client.step action).map system.setClient

/-- A handler of the backend finished or panicked on what was read from the
given buffers. -/
def handled (system : System) (index : Nat) (link : Link) (origin : List Nat) :
    Option (EventHandler × List EventHandler.Output) → System
  | none => { system with crashed := true }
  | some (handler, outputs) =>
      { system.setLink index { link with
          down := link.down ++ Link.responses outputs
          handler := handler
          origin := origin } with
        forwarded := system.forwarded ++ (Link.events outputs).map (·, origin) }

def step (codec : BugEventCodec) : LabelledStep System Label
  | system, .send memory kind range ntpSecs =>
      system.act (.send (codec.encode memory kind range ntpSecs).written)
  | system, .delayElapsed => system.act .delayElapsed
  | system, .dispatch => system.act .dispatch
  | system, .connect succeeds =>
      (system.act (.connect succeeds)).map fun next =>
        if succeeds then { next with links := next.links ++ [Link.new] } else next
  | system, .connected wifi remote => system.act (.connected wifi remote)
  | system, .sendto accepted succeeds =>
      match system.client.activity, system.client.socket with
      | .sending buf, some index =>
          match system.links[index]?, system.client.heap[buf]? with
          | some link, some data =>
              if accepted ≤ data.length then
                (system.act (.sendto succeeds)).map fun next =>
                  next.setLink index { link with
                    up := link.up ++ (data.take accepted).map (·, buf) }
              else
                none
          | _, _ => none
      | _, _ => none
  | system, .receive (.byte value) =>
      match system.client.socket with
      | none => none
      | some index =>
          match system.links[index]? with
          | none => none
          | some link =>
              match link.down with
              | [] => none
              | head :: down =>
                  if head = value then
                    (system.act (.handleResponse (.byte value))).map fun next =>
                      next.setLink index { link with down := down }
                  else
                    none
  | system, .receive received => system.act (.handleResponse received)
  | system, .read index count clock =>
      match system.links[index]? with
      | none => none
      | some link =>
          if !system.crashed ∧ link.handler.waiting = none ∧ !link.handler.stopping ∧
              0 < count ∧ count ≤ link.up.length then
            let taken := link.up.take count
            some (system.handled index { link with up := link.up.drop count }
              (taken.map Prod.snd)
              (link.handler.handle clock (EventCodec.item (taken.map Prod.fst))))
          else
            none
  | system, .lookup index reply clock =>
      match system.links[index]? with
      | none => none
      | some link =>
          if !system.crashed ∧ link.handler.waiting.isSome then
            some (system.handled index link link.origin (link.handler.resume clock reply))
          else
            none

end System

end Bug.Delivery
