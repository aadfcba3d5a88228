import Bug.Firmware.TcpClient
import Mathlib.Data.List.Count

/-!
# Scheduled reconnects

`_connecting` is set where `send_callback` schedules a reconnect and cleared
where `connect_socket_callback` ends.  The constructor schedules the first
connect without setting it.  A `send_callback` that retries before that connect
has ended therefore schedules a second one, and the connection made by the first
is closed by the other.
-/

namespace Bug.Firmware

open Bug.Encoding
open Bug.Transition

/-- In `send_callback`, after `connected`. -/
def Activity.transmits : Activity → Bool
  | .sending _ => true
  | .receiving _ => true
  | .idle => false
  | .connecting => false
  | .checking _ => false
  | .faulted => false

namespace TcpClient

/-- How many `connect_socket_callback`s are scheduled or running, the delayed one
of the constructor included. -/
def outstanding (client : TcpClient) : Nat :=
  (if client.delayed then 1 else 0) + client.queue.count .connectSocket +
    (if client.activity = .connecting then 1 else 0)

/-- A `send_callback` finds no access point before the first connection was
made. -/
def retriesEarly (client : TcpClient) : Action → Bool
  | .connected wifi _ =>
      match client.activity with
      | .checking _ => !wifi && client.connections == 0
      | _ => false
  | _ => false

/-- What holds in every state reached: until the first connection the
constructor's connect is outstanding, and a second one if the flag is set. -/
structure Started (client : TcpClient) : Prop where
  closed : client.connections = 0 → client.socket = none
  unsent : client.connections = 0 → client.activity.transmits = false
  first : client.connections = 0 → 1 ≤ client.outstanding
  second : client.connections = 0 → client.connecting = true → 2 ≤ client.outstanding

/-- What holds while no callback retried before the first connection: after it,
the flag says whether a connect is outstanding. -/
structure Scheduled (client : TcpClient) : Prop where
  started : client.Started
  first : client.connections = 0 → client.connecting = false ∧ client.outstanding = 1
  later : client.connections ≠ 0 →
    client.outstanding = if client.connecting then 1 else 0

theorem scheduled_new : Scheduled new where
  started := by
    constructor
    · intro unconnected
      rfl
    · intro unconnected
      rfl
    · intro unconnected
      decide
    · intro unconnected connecting
      cases connecting
  first := by
    intro unconnected
    constructor
    · rfl
    · decide
  later := by
    intro connected
    exact absurd rfl connected

theorem Scheduled.outstanding_le_one {client : TcpClient} (scheduled : client.Scheduled) :
    client.outstanding ≤ 1 := by
  by_cases unconnected : client.connections = 0
  · exact Nat.le_of_eq (scheduled.first unconnected).2
  · rw [scheduled.later unconnected]
    split
    · exact Nat.le_refl 1
    · exact Nat.zero_le 1

/-- Retrying schedules a connect only when the flag is not set. -/
theorem outstanding_retry {client : TcpClient} {buf : Nat}
    (running : client.activity ≠ .connecting) :
    (client.retry buf).outstanding =
      client.outstanding + (if client.connecting then 0 else 1) := by
  by_cases connecting : client.connecting = true
  · simp [outstanding, retry, connecting, running]
  · simp [outstanding, retry, connecting, running]
    omega

/-! ## What a step does to the scheduled connects -/

/-- A step that schedules no connect and ends none. -/
structure Neutral (client next : TcpClient) : Prop where
  outstanding : next.outstanding = client.outstanding
  connections : next.connections = client.connections
  connecting : next.connecting = client.connecting
  socket : next.socket = none ∨ next.socket = client.socket
  transmits : next.activity.transmits = true →
    client.socket ≠ none ∨ client.activity.transmits = true

inductive Effect (client : TcpClient) (action : Action) : TcpClient → Prop
  | neutral {next : TcpClient} : client.Neutral next → Effect client action next
  | connected : client.activity = .connecting →
      Effect client action
        { client with
          socket := some client.connections
          connections := client.connections + 1
          connecting := false
          activity := .idle }
  | retried {buf : Nat} : client.activity ≠ .connecting →
      (client.connections = 0 → client.retriesEarly action = true ∨
        client.socket ≠ none ∨ client.activity.transmits = true) →
      Effect client action (client.retry buf)

theorem faulted_of_connected {client next : TcpClient} {buf : Nat} {remote : Bool}
    (checking : client.activity = .checking buf) (closed : client.socket = none)
    (stepped : client.step (.connected true remote) = some next) : next.activity = .faulted := by
  simp only [step, checking, closed] at stepped
  cases stepped
  rfl

theorem effect_of_retry {client : TcpClient} {action : Action} {buf : Nat}
    (transmits : client.activity.transmits = true) :
    client.Effect action (client.retry buf) := by
  apply Effect.retried
  · intro connecting
    rw [connecting] at transmits
    cases transmits
  · intro unconnected
    right
    right
    exact transmits

theorem effect_of_step {client next : TcpClient} {action : Action}
    (stepped : client.step action = some next) : client.Effect action next := by
  cases transition_of_step stepped with
  | send data =>
      have kept : ({ client with
          heap := client.heap ++ [data]
          queue := client.queue ++ [.send client.heap.length] } : TcpClient).outstanding =
            client.outstanding := by
        simp [outstanding]
      exact .neutral ⟨kept, rfl, rfl, Or.inr rfl, Or.inr⟩
  | delayElapsed delayed =>
      have kept : ({ client with
          delayed := false
          queue := client.queue ++ [.connectSocket] } : TcpClient).outstanding =
            client.outstanding := by
        simp [outstanding, delayed]
        omega
      exact .neutral ⟨kept, rfl, rfl, Or.inr rfl, Or.inr⟩
  | connectSocket idle queued =>
      rename_i queue
      have kept : ({ client with
          queue := queue
          socket := none
          activity := .connecting } : TcpClient).outstanding = client.outstanding := by
        simp [outstanding, idle, queued]
        omega
      exact .neutral ⟨kept, rfl, rfl, Or.inl rfl, fun transmits => by cases transmits⟩
  | sendCallback idle queued =>
      rename_i buf queue
      have kept : ({ client with
          queue := queue
          activity := .checking buf } : TcpClient).outstanding = client.outstanding := by
        simp [outstanding, idle, queued]
      exact .neutral ⟨kept, rfl, rfl, Or.inr rfl, fun transmits => by cases transmits⟩
  | reconnected connecting => exact .connected connecting
  | unreachable connecting => exact .neutral ⟨rfl, rfl, rfl, Or.inr rfl, Or.inr⟩
  | disconnected checking failed =>
      rename_i buf wifi remote
      apply Effect.retried
      · rw [checking]
        intro connecting
        cases connecting
      · intro unconnected
        cases wifi with
        | true =>
            right
            left
            intro closed
            cases faulted_of_connected checking closed stepped
        | false =>
            left
            simp [retriesEarly, checking, unconnected]
  | fault checking pointer =>
      have kept : ({ client with activity := .faulted } : TcpClient).outstanding =
          client.outstanding := by
        simp [outstanding, checking]
      exact .neutral ⟨kept, rfl, rfl, Or.inr rfl, fun transmits => by cases transmits⟩
  | checked checking pointer =>
      rename_i buf connection
      have kept : ({ client with activity := .sending buf } : TcpClient).outstanding =
          client.outstanding := by
        simp [outstanding, checking]
      have opened : client.socket ≠ none := by
        rw [pointer]
        exact Option.some_ne_none connection
      exact .neutral ⟨kept, rfl, rfl, Or.inr rfl, fun _ => Or.inl opened⟩
  | sent sending =>
      rename_i buf
      have kept : ({ client with activity := .receiving buf } : TcpClient).outstanding =
          client.outstanding := by
        simp [outstanding, sending]
      have transmits : client.activity.transmits = true := by rw [sending]; rfl
      exact .neutral ⟨kept, rfl, rfl, Or.inr rfl, fun _ => Or.inr transmits⟩
  | unsent sending => exact effect_of_retry (by rw [sending]; rfl)
  | unanswered receiving => exact effect_of_retry (by rw [receiving]; rfl)
  | answered receiving =>
      rename_i buf
      have kept : ({ client with
          freed := client.freed ++ [buf]
          activity := .idle } : TcpClient).outstanding = client.outstanding := by
        simp [outstanding, receiving]
      exact .neutral ⟨kept, rfl, rfl, Or.inr rfl, fun transmits => by cases transmits⟩

/-! ## Every run -/

theorem Started.of_neutral {client next : TcpClient} (started : client.Started)
    (neutral : client.Neutral next) : next.Started where
  closed := by
    intro unconnected
    rw [neutral.connections] at unconnected
    rcases neutral.socket with closed | kept
    · exact closed
    · rw [kept]
      exact started.closed unconnected
  unsent := by
    intro unconnected
    rw [neutral.connections] at unconnected
    cases transmits : next.activity.transmits with
    | false => rfl
    | true =>
        rcases neutral.transmits transmits with opened | transmitted
        · exact absurd (started.closed unconnected) opened
        · rw [started.unsent unconnected] at transmitted
          cases transmitted
  first := by
    intro unconnected
    rw [neutral.connections] at unconnected
    rw [neutral.outstanding]
    exact started.first unconnected
  second := by
    intro unconnected connecting
    rw [neutral.connections] at unconnected
    rw [neutral.connecting] at connecting
    rw [neutral.outstanding]
    exact started.second unconnected connecting

/-- A retry before the first connection leaves two connects outstanding. -/
theorem Started.two_le_outstanding_retry {client : TcpClient} (started : client.Started)
    (running : client.activity ≠ .connecting) (unconnected : client.connections = 0)
    (buf : Nat) : 2 ≤ (client.retry buf).outstanding := by
  rw [outstanding_retry running]
  cases connecting : client.connecting with
  | true => exact started.second unconnected connecting
  | false => exact Nat.succ_le_succ (started.first unconnected)

theorem Started.of_effect {client next : TcpClient} {action : Action} (started : client.Started)
    (effect : client.Effect action next) : next.Started := by
  cases effect with
  | neutral neutral => exact started.of_neutral neutral
  | connected connecting =>
      constructor
      · intro unconnected
        cases unconnected
      · intro unconnected
        cases unconnected
      · intro unconnected
        cases unconnected
      · intro unconnected
        cases unconnected
  | retried running early =>
      rename_i buf
      constructor
      · intro unconnected
        exact started.closed unconnected
      · intro unconnected
        rfl
      · intro unconnected
        exact Nat.le_of_succ_le (started.two_le_outstanding_retry running unconnected buf)
      · intro unconnected connecting
        exact started.two_le_outstanding_retry running unconnected buf

theorem Scheduled.of_effect {client next : TcpClient} {action : Action}
    (scheduled : client.Scheduled) (late : client.retriesEarly action = false)
    (effect : client.Effect action next) : next.Scheduled where
  started := scheduled.started.of_effect effect
  first := by
    intro unconnected
    cases effect with
    | neutral neutral =>
        rw [neutral.connections] at unconnected
        rw [neutral.connecting, neutral.outstanding]
        exact scheduled.first unconnected
    | connected connecting => cases unconnected
    | retried running early =>
        rcases early unconnected with retries | opened | transmits
        · rw [late] at retries
          cases retries
        · exact absurd (scheduled.started.closed unconnected) opened
        · rw [scheduled.started.unsent unconnected] at transmits
          cases transmits
  later := by
    intro connected
    cases effect with
    | neutral neutral =>
        rw [neutral.connections] at connected
        rw [neutral.connecting, neutral.outstanding]
        exact scheduled.later connected
    | connected connecting =>
        have bound := scheduled.outstanding_le_one
        simp only [outstanding, connecting] at bound ⊢
        simp at bound ⊢
        omega
    | retried running early =>
        rw [outstanding_retry running, scheduled.later connected]
        cases client.connecting with
        | true => rfl
        | false => rfl

theorem retry_of_retriesEarly {client : TcpClient} {action : Action}
    (early : client.retriesEarly action = true) :
    ∃ buf, client.activity ≠ .connecting ∧ client.connections = 0 ∧
      client.step action = some (client.retry buf) := by
  cases action with
  | connected wifi remote =>
      cases checking : client.activity with
      | checking buf =>
          simp only [retriesEarly, checking, Bool.and_eq_true, Bool.not_eq_true',
            beq_iff_eq] at early
          refine ⟨buf, ?_, early.2, ?_⟩
          · intro connecting
            cases connecting
          · simp [step, checking, early.1]
      | _ => simp [retriesEarly, checking] at early
  | _ => cases early

theorem connected_of_connect {client next : TcpClient}
    (stepped : client.step (.connect true) = some next) :
    next.connections ≠ 0 ∧ next.connecting = false := by
  cases transition_of_step stepped with
  | reconnected connecting => exact ⟨Nat.succ_ne_zero client.connections, rfl⟩

/-- Every state reached has at most one connect outstanding, and a connect that
succeeds leaves none. -/
def ConnectsOnce (start : TcpClient) (actions : List Action) : Prop :=
  (∀ before after client, actions = before ++ after → follow step start before = some client →
    client.outstanding ≤ 1) ∧
  (∀ before after client, actions = before ++ .connect true :: after →
    follow step start (before ++ [.connect true]) = some client → client.outstanding = 0)

theorem late_of_outstanding_le_one {start : TcpClient} {actions : List Action}
    (started : start.Started)
    (bounded : ∀ before after client, actions = before ++ after →
      follow step start before = some client → client.outstanding ≤ 1) :
    Throughout step (fun client action => client.retriesEarly action = false) start actions := by
  induction actions generalizing start with
  | nil => exact trivial
  | cons action actions ih =>
      rw [Throughout]
      constructor
      · cases early : start.retriesEarly action with
        | false => rfl
        | true =>
            rcases retry_of_retriesEarly early with ⟨buf, running, unconnected, stepped⟩
            have reached : follow step start [action] = some (start.retry buf) := by
              rw [follow, stepped]
              rfl
            have atMostOne := bounded [action] actions _ rfl reached
            have atLeastTwo := started.two_le_outstanding_retry running unconnected buf
            exact absurd (Nat.le_trans atLeastTwo atMostOne) (by decide)
      · cases stepped : start.step action with
        | none => exact trivial
        | some next =>
            apply ih (started.of_effect (effect_of_step stepped))
            intro before after client split reached
            apply bounded (action :: before) after client
            · rw [split]
              rfl
            · rw [follow, stepped]
              exact reached

theorem scheduled_of_late {actions : List Action}
    (late : Throughout step (fun client action => client.retriesEarly action = false) new actions)
    {client : TcpClient} (reached : follow step new actions = some client) :
    client.Scheduled := by
  have preserved : ∀ client action next, client.Scheduled →
      client.retriesEarly action = false → step client action = some next → next.Scheduled := by
    intro client action next scheduled late stepped
    exact scheduled.of_effect late (effect_of_step stepped)
  exact follow_invariant preserved scheduled_new late reached

/-- At most one connect is outstanding at any moment of a run if and only if no
`send_callback` finds the access point gone before the first connection. -/
theorem connectsOnce_iff_late (actions : List Action) :
    ConnectsOnce new actions ↔
      Throughout step (fun client action => client.retriesEarly action = false) new actions := by
  constructor
  · intro once
    exact late_of_outstanding_le_one scheduled_new.started once.1
  · intro late
    constructor
    · intro before after client split reached
      rw [split] at late
      exact (scheduled_of_late (throughout_of_append late) reached).outstanding_le_one
    · intro before after client split reached
      rw [split, List.append_cons] at late
      have scheduled := scheduled_of_late (throughout_of_append late) reached
      rw [follow_concat] at reached
      rcases Option.bind_eq_some_iff.mp reached with ⟨connecting, _, stepped⟩
      rcases connected_of_connect stepped with ⟨connected, cleared⟩
      rw [scheduled.later connected, cleared]
      rfl

/-- With no access point, a buffer sent before the constructor's delay has
elapsed schedules a second connect.  The connection that the first one makes
carries the buffer and is closed by the other. -/
theorem not_connectsOnce_example :
    ∃ retried connected answered closed : TcpClient,
      follow step new [.send [0], .dispatch, .connected false false] = some retried ∧
      retried.outstanding = 2 ∧
      follow step retried [.delayElapsed, .dispatch, .connect true] = some connected ∧
      connected.socket = some 0 ∧ connected.outstanding = 1 ∧
      follow step connected
        [.dispatch, .connected true true, .sendto true, .handleResponse (.byte 1)] =
          some answered ∧
      answered.socket = some 0 ∧
      follow step answered [.dispatch] = some closed ∧
      closed.socket = none ∧
      ¬ ConnectsOnce new [.send [0], .dispatch, .connected false false] := by
  refine ⟨_, _, _, _, rfl, by decide, rfl, rfl, by decide, rfl, rfl, rfl, rfl, ?_⟩
  intro once
  have bounded := once.1 [.send [0], .dispatch, .connected false false] [] _ rfl rfl
  exact absurd bounded (by decide)

end TcpClient

end Bug.Firmware
