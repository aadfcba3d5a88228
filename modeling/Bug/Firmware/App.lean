import Bug.Firmware.PositionTracker
import Bug.Firmware.TcpClient
import Bug.Firmware.Wifi

/-!
# The firmware's application

Three threads work on one object: the access point's thread connects and
synchronises the clock, the client's thread dispatches the callbacks of the
event queue, and the tracker's thread samples the accelerometer and queues an
event when its gate closes.  Their steps interleave in any order, and the network
stack changes the connection status at any time.

`TCPClient::connected` reads a flag through the socket pointer as soon as the
access point is up.  The pointer is null until the first connection was made.
-/

namespace Bug.Firmware

open Bug.Encoding
open Bug.Transition

structure App where
  wifi : Wifi
  client : TcpClient
  codec : BugEventCodec
  /-- The tracker, once `init_callback` has run. -/
  tracker : Option PositionTracker

namespace App

inductive Action where
  | statusChange (connectionStatus : ConnectionStatus)
  /-- The answer of the time server and the time read back. -/
  | syncTimestamp (timestamp time : Int)
  | init (bias : Axes) (reading : Reading)
  /-- One `sample_callback`, and what the allocator leaves in a new buffer. -/
  | sample (reading : Reading) (memory : Nat → UInt8)
  | delayElapsed
  | dispatch
  /-- One round of the connect loop, and whether the server can be reached. -/
  | connect (reachable : Bool)
  /-- `connected`, given the flag behind the socket pointer. -/
  | connected (remote : Bool)
  | sendto (succeeds : Bool)
  | handleResponse (received : Received)

/-- The application after its constructor. -/
def new (secret : UInt64) : App where
  wifi := .new
  client := .new
  codec := ⟨secret⟩
  tracker := none

/-- `BugEventClient::send`: the bytes that an output of the tracker passes to
`TCPClient::send`. -/
def send (app : App) (memory : Nat → UInt8) : PositionTracker.Output → Option TcpClient.Action
  | .send report =>
      some (.send (app.codec.encode memory (.position report.position) report.range
        app.wifi.ntpSecs).written)
  | .unexpectedCall => none

/-- A step of the client's thread. -/
def advance (app : App) (action : TcpClient.Action) : Option App :=
  (app.client.step action).map fun client => { app with client := client }

def step : LabelledStep App Action
  | app, .statusChange connectionStatus =>
      some { app with wifi := app.wifi.statusChangeCallback connectionStatus }
  | app, .syncTimestamp timestamp time =>
      some { app with wifi := (app.wifi.syncTimestamp timestamp time).1 }
  | app, .init bias reading =>
      match app.tracker with
      | none => some { app with tracker := some (.new bias reading) }
      | some _ => none
  | app, .sample reading memory =>
      match app.tracker with
      | none => none
      | some tracker =>
          let sampled := PositionTracker.sampleCallback tracker reading
          (follow TcpClient.step app.client (sampled.2.filterMap (app.send memory))).map
            fun client => { app with
              client := client
              tracker := some sampled.1 }
  | app, .delayElapsed => app.advance .delayElapsed
  | app, .dispatch => app.advance .dispatch
  | app, .connect reachable => app.advance (.connect (app.wifi.connected && reachable))
  | app, .connected remote => app.advance (.connected app.wifi.connected remote)
  | app, .sendto succeeds => app.advance (.sendto succeeds)
  | app, .handleResponse received => app.advance (.handleResponse received)

end App

/-! ## The socket pointer -/

namespace TcpClient

/-- Outside the connect loop, the socket pointer is set once a connection was
made. -/
def Settled (client : TcpClient) : Prop :=
  client.activity ≠ .connecting → (client.socket.isSome = true ↔ 0 < client.connections)

theorem Settled.keeps {client next : TcpClient} (settled : client.Settled)
    (running : client.activity ≠ .connecting) (socket : next.socket = client.socket)
    (connections : next.connections = client.connections) : next.Settled := by
  intro _
  rw [socket, connections]
  exact settled running

theorem settled_of_transition {client next : TcpClient} {action : Action}
    (transition : Transition client action next) (settled : client.Settled) : next.Settled := by
  cases transition with
  | send data => exact settled
  | delayElapsed delayed => exact settled
  | connectSocket idle queued =>
      intro running
      exact absurd rfl running
  | sendCallback idle queued => exact settled.keeps (by simp [idle]) rfl rfl
  | reconnected connecting =>
      intro _
      simp
  | unreachable connecting => exact settled
  | disconnected checking failed => exact settled.keeps (by simp [checking]) rfl rfl
  | fault checking pointer => exact settled.keeps (by simp [checking]) rfl rfl
  | checked checking pointer => exact settled.keeps (by simp [checking]) rfl rfl
  | sent sending => exact settled.keeps (by simp [sending]) rfl rfl
  | unsent sending => exact settled.keeps (by simp [sending]) rfl rfl
  | unanswered receiving => exact settled.keeps (by simp [receiving]) rfl rfl
  | answered receiving => exact settled.keeps (by simp [receiving]) rfl rfl

end TcpClient

namespace App

/-- Whether a step reads the flag behind the socket pointer: `connected` does so
when the access point is up. -/
def readsFlag (app : App) : Action → Bool
  | .connected _ =>
      match app.client.activity with
      | .checking _ => app.wifi.connected
      | _ => false
  | _ => false

/-- A step that reads the flag finds a socket behind the pointer. -/
def ReadsSocket (app : App) (action : Action) : Prop :=
  app.readsFlag action = true → app.client.socket.isSome = true

instance (app : App) (action : Action) : Decidable (app.ReadsSocket action) :=
  inferInstanceAs (Decidable (_ → _))

/-- No `send_callback` finds the access point up before the first connection was
made. -/
def ChecksLate (app : App) (action : Action) : Prop :=
  app.readsFlag action = true → 0 < app.client.connections

theorem running_of_readsFlag {app : App} {action : Action} (reads : app.readsFlag action = true) :
    app.client.activity ≠ .connecting := by
  cases action with
  | connected remote =>
      intro connecting
      rw [readsFlag, connecting] at reads
      cases reads
  | _ => cases reads

theorem readsSocket_iff {app : App} (settled : app.client.Settled) (action : Action) :
    app.ReadsSocket action ↔ app.ChecksLate action := by
  apply imp_congr_right
  intro reads
  exact settled (running_of_readsFlag reads)

theorem settled_of_advance {app next : App} {action : TcpClient.Action}
    (settled : app.client.Settled) (stepped : app.advance action = some next) :
    next.client.Settled := by
  rcases Option.map_eq_some_iff.mp stepped with ⟨client, moved, rfl⟩
  exact TcpClient.settled_of_transition (TcpClient.transition_of_step moved) settled

theorem settled_of_step {app next : App} {action : Action} (settled : app.client.Settled)
    (stepped : app.step action = some next) : next.client.Settled := by
  cases action with
  | statusChange connectionStatus =>
      cases stepped
      exact settled
  | syncTimestamp timestamp time =>
      cases stepped
      exact settled
  | init bias reading =>
      simp only [step] at stepped
      split at stepped
      · cases stepped
        exact settled
      · cases stepped
  | sample reading memory =>
      simp only [step] at stepped
      split at stepped
      · cases stepped
      · rcases Option.map_eq_some_iff.mp stepped with ⟨client, sent, rfl⟩
        apply follow_preserves _ settled sent
        intro client action next holds moved
        exact TcpClient.settled_of_transition (TcpClient.transition_of_step moved) holds
  | delayElapsed => exact settled_of_advance settled stepped
  | dispatch => exact settled_of_advance settled stepped
  | connect reachable => exact settled_of_advance settled stepped
  | connected remote => exact settled_of_advance settled stepped
  | sendto succeeds => exact settled_of_advance settled stepped
  | handleResponse received => exact settled_of_advance settled stepped

theorem settled_new (secret : UInt64) : (new secret).client.Settled := by
  intro _
  simp [new, TcpClient.new]

/-- Over every interleaving, each read of the socket's flag goes through a socket
exactly when no `send_callback` finds the access point up before the first
connection was made. -/
theorem readsSocket_throughout_iff (secret : UInt64) (actions : List Action) :
    Throughout step ReadsSocket (new secret) actions ↔
      Throughout step ChecksLate (new secret) actions := by
  have kept : ∀ app action next, app.client.Settled → step app action = some next →
      next.client.Settled := by
    intro app action next settled stepped
    exact settled_of_step settled stepped
  apply throughout_congr kept _ (settled_new secret)
  intro app action settled
  exact readsSocket_iff settled action

/-- The access point comes up and the device is knocked, all in less than the
three seconds before the first connect. -/
def knocked : List Action :=
  [.statusChange .globalUp, .init (0, 0, 0) ⟨0, (0, 0, 0)⟩] ++
    PositionTracker.knock.map (fun reading => .sample reading fun _ => 0) ++
    [.dispatch, .connected true]

/-- The event of the knock is checked through the null pointer. -/
theorem not_readsSocket_knocked : ¬ Throughout step ReadsSocket (new 7) knocked := by
  decide +kernel

end App

end Bug.Firmware
