import Bug.Encoding.Codec
import Bug.Transition.Labelled

/-!
# The firmware's TCP client

One thread dispatches the callbacks of an event queue; any thread may queue a
buffer.  A callback is a sequence of network calls, so between two of them the
network and the other threads go on.  The client is a partial step function
whose labels carry the outcomes of those calls.  A failed `send_callback` queues
itself again behind a reconnect, unless a reconnect is queued already.
-/

namespace Bug.Firmware

open Bug.Encoding
open Bug.Transition

/-- What the event queue holds.  Buffers are named by their allocation order. -/
inductive Callback where
  | connectSocket
  | send (buf : Nat)
  deriving DecidableEq

/-- Where the dispatching thread stands. -/
inductive Activity where
  | idle
  /-- In the loop of `connect_socket_callback`, its socket closed. -/
  | connecting
  /-- In `send_callback`, before `connected`. -/
  | checking (buf : Nat)
  /-- In `send_callback`, before `sendto`. -/
  | sending (buf : Nat)
  /-- In `send_callback`, before `handle_response`. -/
  | receiving (buf : Nat)
  /-- After a read through the null socket pointer. -/
  | faulted
  deriving DecidableEq

structure TcpClient where
  /-- The contents of every buffer passed to `send` so far. -/
  heap : List Bytes
  /-- The deleted buffers, in the order of their deletion. -/
  freed : List Nat
  queue : List Callback
  /-- The constructor's `call_in` has not elapsed yet. -/
  delayed : Bool
  connecting : Bool
  /-- The connection behind `_socket`, or none while the pointer is null. -/
  socket : Option Nat
  /-- How many connections were made so far. -/
  connections : Nat
  activity : Activity
  deriving DecidableEq

/-- What `recv` returns for one byte. -/
inductive Received where
  | error
  | closed
  | byte (value : UInt8)
  deriving DecidableEq

/-- `BUG_SERVER_RESPONSE_OK`. -/
def bugServerResponseOk : UInt8 := 1

/-- `BugEventClient::handle_response`: zero for the expected byte, negative for
everything else.  The response buffer starts as zero. -/
def handleResponse : Received → Int
  | .error => -1
  | .closed => if (0 : UInt8) ≠ bugServerResponseOk then -1 else 0
  | .byte value => if value ≠ bugServerResponseOk then -1 else 0

namespace TcpClient

inductive Action where
  /-- Another thread passes a filled buffer to `send`. -/
  | send (data : Bytes)
  | delayElapsed
  | dispatch
  /-- One round of the connect loop. -/
  | connect (succeeds : Bool)
  /-- What `connected` reads: the state of the access point and the flag of the
  socket. -/
  | connected (wifi remote : Bool)
  | sendto (succeeds : Bool)
  | handleResponse (received : Received)
  deriving DecidableEq

/-- The client after its constructor. -/
def new : TcpClient where
  heap := []
  freed := []
  queue := []
  delayed := true
  connecting := false
  socket := none
  connections := 0
  activity := .idle

/-- The label `RETRY` of `send_callback`. -/
def retry (client : TcpClient) (buf : Nat) : TcpClient :=
  { client with
    queue := (if client.connecting then client.queue else client.queue ++ [.connectSocket]) ++
      [.send buf]
    connecting := true
    activity := .idle }

def step : LabelledStep TcpClient Action
  | client, .send data =>
      some { client with
        heap := client.heap ++ [data]
        queue := client.queue ++ [.send client.heap.length] }
  | client, .delayElapsed =>
      if client.delayed then
        some { client with
          delayed := false
          queue := client.queue ++ [.connectSocket] }
      else
        none
  | client, .dispatch =>
      match client.activity, client.queue with
      | .idle, .connectSocket :: queue =>
          some { client with
            queue := queue
            socket := none
            activity := .connecting }
      | .idle, .send buf :: queue =>
          some { client with
            queue := queue
            activity := .checking buf }
      | _, _ => none
  | client, .connect succeeds =>
      match client.activity with
      | .connecting =>
          if succeeds then
            some { client with
              socket := some client.connections
              connections := client.connections + 1
              connecting := false
              activity := .idle }
          else
            some client
      | _ => none
  | client, .connected wifi remote =>
      match client.activity with
      | .checking buf =>
          if !wifi then
            some (client.retry buf)
          else
            match client.socket with
            | none => some { client with activity := .faulted }
            | some _ =>
                if remote then
                  some { client with activity := .sending buf }
                else
                  some (client.retry buf)
      | _ => none
  | client, .sendto succeeds =>
      match client.activity with
      | .sending buf =>
          if succeeds then
            some { client with activity := .receiving buf }
          else
            some (client.retry buf)
      | _ => none
  | client, .handleResponse received =>
      match client.activity with
      | .receiving buf =>
          if Firmware.handleResponse received < 0 then
            some (client.retry buf)
          else
            some { client with
              freed := client.freed ++ [buf]
              activity := .idle }
      | _ => none

/-! ## Everything a step can do -/

inductive Transition (client : TcpClient) : Action → TcpClient → Prop
  | send (data : Bytes) :
      Transition client (.send data)
        { client with
          heap := client.heap ++ [data]
          queue := client.queue ++ [.send client.heap.length] }
  | delayElapsed : client.delayed = true →
      Transition client .delayElapsed
        { client with
          delayed := false
          queue := client.queue ++ [.connectSocket] }
  | connectSocket {queue : List Callback} : client.activity = .idle →
      client.queue = .connectSocket :: queue →
      Transition client .dispatch
        { client with
          queue := queue
          socket := none
          activity := .connecting }
  | sendCallback {buf : Nat} {queue : List Callback} : client.activity = .idle →
      client.queue = .send buf :: queue →
      Transition client .dispatch
        { client with
          queue := queue
          activity := .checking buf }
  | reconnected : client.activity = .connecting →
      Transition client (.connect true)
        { client with
          socket := some client.connections
          connections := client.connections + 1
          connecting := false
          activity := .idle }
  | unreachable : client.activity = .connecting → Transition client (.connect false) client
  | disconnected {buf : Nat} {wifi remote : Bool} : client.activity = .checking buf →
      wifi = false ∨ remote = false →
      Transition client (.connected wifi remote) (client.retry buf)
  | fault {buf : Nat} {remote : Bool} : client.activity = .checking buf →
      client.socket = none →
      Transition client (.connected true remote) { client with activity := .faulted }
  | checked {buf connection : Nat} : client.activity = .checking buf →
      client.socket = some connection →
      Transition client (.connected true true) { client with activity := .sending buf }
  | sent {buf : Nat} : client.activity = .sending buf →
      Transition client (.sendto true) { client with activity := .receiving buf }
  | unsent {buf : Nat} : client.activity = .sending buf →
      Transition client (.sendto false) (client.retry buf)
  | unanswered {buf : Nat} {received : Received} : client.activity = .receiving buf →
      Transition client (.handleResponse received) (client.retry buf)
  | answered {buf : Nat} : client.activity = .receiving buf →
      Transition client (.handleResponse (.byte bugServerResponseOk))
        { client with
          freed := client.freed ++ [buf]
          activity := .idle }

theorem eq_byte_of_handleResponse {received : Received}
    (accepted : ¬ Firmware.handleResponse received < 0) : received = .byte bugServerResponseOk := by
  cases received with
  | error => exact absurd (by decide) accepted
  | closed => exact absurd (by decide) accepted
  | byte value =>
      by_cases expected : value = bugServerResponseOk
      · rw [expected]
      · apply absurd _ accepted
        rw [Firmware.handleResponse, if_pos expected]
        decide

theorem transition_of_step {client next : TcpClient} {action : Action}
    (stepped : client.step action = some next) : Transition client action next := by
  cases action with
  | send data =>
      cases stepped
      exact .send data
  | delayElapsed =>
      simp only [step] at stepped
      split at stepped
      · rename_i delayed
        cases stepped
        exact .delayElapsed delayed
      · cases stepped
  | dispatch =>
      simp only [step] at stepped
      split at stepped
      · rename_i queue idle queued
        cases stepped
        exact .connectSocket idle queued
      · rename_i buf queue idle queued
        cases stepped
        exact .sendCallback idle queued
      · cases stepped
  | connect succeeds =>
      simp only [step] at stepped
      split at stepped
      · rename_i connecting
        cases succeeds with
        | true =>
            cases stepped
            exact .reconnected connecting
        | false =>
            cases stepped
            exact .unreachable connecting
      · cases stepped
  | connected wifi remote =>
      simp only [step] at stepped
      split at stepped
      · rename_i buf checking
        cases wifi with
        | false =>
            cases stepped
            exact .disconnected checking (Or.inl rfl)
        | true =>
            cases pointer : client.socket with
            | none =>
                simp only [pointer] at stepped
                cases stepped
                simpa only [pointer] using Transition.fault checking pointer
            | some connection =>
                simp only [pointer] at stepped
                cases remote with
                | true =>
                    cases stepped
                    simpa only [pointer] using Transition.checked checking pointer
                | false =>
                    cases stepped
                    exact .disconnected checking (Or.inr rfl)
      · cases stepped
  | sendto succeeds =>
      simp only [step] at stepped
      split at stepped
      · rename_i buf sending
        cases succeeds with
        | true =>
            cases stepped
            exact .sent sending
        | false =>
            cases stepped
            exact .unsent sending
      · cases stepped
  | handleResponse received =>
      simp only [step] at stepped
      split at stepped
      · rename_i buf receiving
        split at stepped
        · cases stepped
          exact .unanswered receiving
        · rename_i accepted
          cases stepped
          rw [eq_byte_of_handleResponse accepted]
          exact .answered receiving
      · cases stepped

end TcpClient

end Bug.Firmware
