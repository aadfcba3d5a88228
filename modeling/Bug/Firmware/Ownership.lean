import Bug.Firmware.TcpClient
import Mathlib.Data.List.Count

/-!
# Who owns a buffer

A buffer passed to `send` is handed from callback to callback until one of them
deletes it.  Counted over the pending callbacks, the running one and the
deletions, every buffer has one owner after every step.  Only a run that read
through the null socket pointer loses the buffer it held, and that run never
comes back between two callbacks.
-/

namespace Bug.Firmware

open Bug.Encoding
open Bug.Transition

/-- The buffer in the hands of the running callback. -/
def Activity.held : Activity → List Nat
  | .checking buf => [buf]
  | .sending buf => [buf]
  | .receiving buf => [buf]
  | .idle => []
  | .connecting => []
  | .faulted => []

namespace TcpClient

/-- How many pending `send_callback`s refer to the buffer. -/
def pending (client : TcpClient) (buf : Nat) : Nat :=
  client.queue.count (.send buf)

/-- How many owners the buffer has, deletions included. -/
def owners (client : TcpClient) (buf : Nat) : Nat :=
  client.pending buf + client.activity.held.count buf + client.freed.count buf

/-- Every buffer passed to `send` has one owner, and no other number is owned. -/
def Owned (client : TcpClient) : Prop :=
  ∀ buf, client.owners buf = if buf < client.heap.length then 1 else 0

theorem count_send_singleton (buf other : Nat) :
    [Callback.send buf].count (.send other) = [buf].count other := by
  by_cases same : buf = other
  · rw [same, List.count_singleton_self, List.count_singleton_self]
  · rw [List.count_singleton, List.count_singleton, beq_false_of_ne same,
      beq_false_of_ne (fun equal => same (Callback.send.inj equal))]

theorem owned_new : Owned new := by
  intro buf
  simp [owners, pending, Activity.held, new]

/-- Retrying puts the buffer in hand back into the queue. -/
theorem owners_retry {client : TcpClient} {buf : Nat} (held : client.activity.held = [buf])
    (other : Nat) : (client.retry buf).owners other = client.owners other := by
  have queued : (client.retry buf).pending other =
      client.pending other + client.activity.held.count other := by
    rw [held, ← count_send_singleton]
    by_cases connecting : client.connecting = true
    · simp [retry, pending, connecting]
    · simp [retry, pending, connecting]
  rw [owners, queued]
  simp [retry, owners, Activity.held]

theorem lt_succ_indicator (buf length : Nat) :
    (if buf < length + 1 then 1 else 0) =
      (if buf < length then 1 else 0) + [length].count buf := by
  by_cases last : buf = length
  · simp [last]
  · have different : ¬ length = buf := fun equal => last equal.symm
    by_cases lower : buf < length
    · simp [lower, different, Nat.lt_succ_of_lt lower]
    · have higher : ¬ buf < length + 1 := by omega
      simp [lower, higher, different]

/-- A step keeps the count of owners, unless it reads through the null pointer. -/
theorem owned_of_transition {client next : TcpClient} {action : Action}
    (owned : client.Owned) (transition : Transition client action next) :
    next.activity = .faulted ∨ next.Owned := by
  cases transition with
  | send data =>
      right
      intro buf
      have added := owned buf
      simp only [owners, pending] at added ⊢
      rw [List.count_append, count_send_singleton, List.length_append, List.length_singleton,
        lt_succ_indicator, ← added]
      omega
  | delayElapsed delayed =>
      right
      intro buf
      rw [← owned buf]
      simp [owners, pending]
  | connectSocket idle queued =>
      right
      intro buf
      rw [← owned buf]
      simp [owners, pending, idle, queued, Activity.held]
  | sendCallback idle queued =>
      rename_i taken queue
      right
      intro buf
      rw [← owned buf]
      have taking : client.pending buf = [taken].count buf + queue.count (.send buf) := by
        rw [pending, queued, ← List.singleton_append, List.count_append, count_send_singleton]
      rw [owners, owners, taking, idle]
      simp only [pending, Activity.held, List.count_nil]
      omega
  | reconnected connecting =>
      right
      intro buf
      rw [← owned buf]
      simp [owners, pending, connecting, Activity.held]
  | unreachable connecting =>
      right
      exact owned
  | disconnected checking failed =>
      right
      intro buf
      rw [owners_retry (by rw [checking]; rfl)]
      exact owned buf
  | fault checking pointer =>
      left
      rfl
  | checked checking pointer =>
      right
      intro buf
      rw [← owned buf]
      simp [owners, pending, checking, Activity.held]
  | sent sending =>
      right
      intro buf
      rw [← owned buf]
      simp [owners, pending, sending, Activity.held]
  | unsent sending =>
      right
      intro buf
      rw [owners_retry (by rw [sending]; rfl)]
      exact owned buf
  | unanswered receiving =>
      right
      intro buf
      rw [owners_retry (by rw [receiving]; rfl)]
      exact owned buf
  | answered receiving =>
      right
      intro buf
      rw [← owned buf]
      simp only [owners, pending, receiving, Activity.held, List.count_append, List.count_nil]
      omega

theorem faulted_of_transition {client next : TcpClient} {action : Action}
    (faulted : client.activity = .faulted) (transition : Transition client action next) :
    next.activity = .faulted := by
  cases transition <;> simp_all

theorem owned_of_reached {actions : List Action} {client : TcpClient}
    (reached : follow step new actions = some client) :
    client.activity = .faulted ∨ client.Owned := by
  have preserved : ∀ client action next, client.activity = .faulted ∨ client.Owned →
      step client action = some next → next.activity = .faulted ∨ next.Owned := by
    intro client action next invariant stepped
    rcases invariant with faulted | owned
    · left
      exact faulted_of_transition faulted (transition_of_step stepped)
    · exact owned_of_transition owned (transition_of_step stepped)
  exact follow_preserves preserved (Or.inr owned_new) reached

/-- A buffer in the hands of a callback was not deleted and waits in no other
callback. -/
theorem held_exclusively {actions : List Action} {client : TcpClient}
    (reached : follow step new actions = some client) {buf : Nat}
    (held : client.activity.held = [buf]) :
    client.pending buf = 0 ∧ client.freed.count buf = 0 := by
  rcases owned_of_reached reached with faulted | owned
  · rw [faulted] at held
    cases held
  · have owner := owned buf
    rw [owners, held, List.count_singleton_self] at owner
    split at owner
    · constructor
      · omega
      · omega
    · omega

/-! ## Where buffers are deleted -/

theorem freed_of_transition {client next : TcpClient} {action : Action}
    (transition : Transition client action next) {buf : Nat} (freed : buf ∈ next.freed) :
    buf ∈ client.freed ∨
      client.activity = .receiving buf ∧ action = .handleResponse (.byte bugServerResponseOk) := by
  cases transition with
  | answered receiving =>
      rename_i answered
      rcases List.mem_append.mp freed with earlier | now
      · left
        exact earlier
      · right
        rw [List.mem_singleton.mp now]
        exact ⟨receiving, rfl⟩
  | _ =>
      left
      exact freed

/-- A deleted buffer was deleted by a callback that read the expected byte. -/
theorem freed_of_follow {start client : TcpClient} {actions : List Action}
    (reached : follow step start actions = some client) {buf : Nat} (freed : buf ∈ client.freed) :
    buf ∈ start.freed ∨
      ∃ before after middle,
        actions = before ++ .handleResponse (.byte bugServerResponseOk) :: after ∧
        follow step start before = some middle ∧
        middle.activity = .receiving buf := by
  induction actions generalizing start with
  | nil =>
      cases reached
      left
      exact freed
  | cons action actions ih =>
      rcases Option.bind_eq_some_iff.mp reached with ⟨next, stepped, rest⟩
      rcases ih rest with earlier | ⟨before, after, middle, split, followed, receiving⟩
      · rcases freed_of_transition (transition_of_step stepped) earlier with
          present | ⟨receiving, response⟩
        · left
          exact present
        · right
          exact ⟨[], actions, start, by rw [response]; rfl, rfl, receiving⟩
      · right
        exact ⟨action :: before, after, middle, by rw [split]; rfl,
          Option.bind_eq_some_iff.mpr ⟨next, stepped, followed⟩, receiving⟩

/-- Between two callbacks every buffer passed to `send` either waits in exactly
one `send_callback` or was deleted exactly once, by a callback that read the
expected response. -/
theorem buffer_pending_or_deleted {actions : List Action} {client : TcpClient}
    (reached : follow step new actions = some client) (idle : client.activity = .idle)
    {buf : Nat} (passed : buf < client.heap.length) :
    (client.queue.count (.send buf) = 1 ∧ client.freed.count buf = 0) ∨
      (client.queue.count (.send buf) = 0 ∧ client.freed.count buf = 1 ∧
        ∃ before after middle,
          actions = before ++ .handleResponse (.byte bugServerResponseOk) :: after ∧
          follow step new before = some middle ∧
          middle.activity = .receiving buf ∧ middle.freed.count buf = 0) := by
  have owned : client.Owned := by
    rcases owned_of_reached reached with faulted | owned
    · rw [faulted] at idle
      cases idle
    · exact owned
  have owner : client.pending buf + client.freed.count buf = 1 := by
    have counted := owned buf
    rwa [owners, idle, if_pos passed] at counted
  rcases Nat.eq_zero_or_pos (client.freed.count buf) with kept | deleted
  · left
    constructor
    · rwa [kept] at owner
    · exact kept
  · right
    have unpending : client.pending buf = 0 := by omega
    constructor
    · exact unpending
    · constructor
      · rwa [unpending, Nat.zero_add] at owner
      · rcases freed_of_follow reached (List.count_pos_iff.mp deleted) with
          impossible | ⟨before, after, middle, split, followed, receiving⟩
        · cases impossible
        · have held : middle.activity.held = [buf] := by rw [receiving]; rfl
          exact ⟨before, after, middle, split, followed, receiving,
            (held_exclusively followed held).2⟩

/-- Two buffers: the first is answered, the second is refused and waits again. -/
theorem buffer_pending_or_deleted_example :
    ∃ client : TcpClient,
      follow step new
        [.delayElapsed, .send [1], .send [2], .dispatch, .connect true, .dispatch,
          .connected true true, .sendto true, .handleResponse (.byte 1), .dispatch,
          .connected true false] = some client ∧
      client.activity = .idle ∧ 1 < client.heap.length ∧
      ((client.queue.count (.send 1) = 1 ∧ client.freed.count 1 = 0) ∨
        (client.queue.count (.send 1) = 0 ∧ client.freed.count 1 = 1 ∧
          ∃ before after middle,
            [.delayElapsed, .send [1], .send [2], .dispatch, .connect true, .dispatch,
              .connected true true, .sendto true, .handleResponse (.byte 1), .dispatch,
              .connected true false] =
              before ++ .handleResponse (.byte bugServerResponseOk) :: after ∧
            follow step new before = some middle ∧
            middle.activity = .receiving 1 ∧ middle.freed.count 1 = 0)) :=
  ⟨_, rfl, rfl, by decide, buffer_pending_or_deleted rfl rfl (by decide)⟩

end TcpClient

end Bug.Firmware
