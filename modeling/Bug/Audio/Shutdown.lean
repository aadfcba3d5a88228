import Bug.Audio.Message
import Bug.Transition.Labelled

/-!
# Waking and stopping the collector

When there are not enough samples for a payload, the collector's stream sends its
waker to a thread that wakes it a millisecond later, over a channel with room for
one.  The send waits for room, and with it the thread that runs the collector and
`main`.  After an interrupt `main` tells the waker thread to terminate and waits
for it; once it is gone, the next send fails and the stream is over.

The waker thread may take the order to terminate while a waker is left in the
channel, which is then dropped with it.  Nothing but a datagram of the server
wakes the collector after that.
-/

namespace Bug

open Bug.Transition

/-- Where `poll_fn` stands. -/
inductive PollFn where
  | idle
  /-- Waits for room in the channel. -/
  | sending
  /-- Has returned `Poll::Ready(None)`. -/
  | finished
  deriving DecidableEq

/-- Where `main` stands. -/
inductive MainThread where
  /-- Before the interrupt. -/
  | awaiting
  | joining
  | joined
  deriving DecidableEq

structure Shutdown where
  /-- The number of samples in the queue. -/
  queue : Nat
  /-- The number of payloads that were handled. -/
  payloads : Nat
  stream : PollFn
  /-- The collector is about to be polled. -/
  scheduled : Bool
  /-- The channel holds a waker. -/
  waker : Bool
  /-- The waker thread is about to wake the collector. -/
  waking : Bool
  terminated : Bool
  main : MainThread
  /-- The channel was dropped with a waker in it. -/
  unread : Bool
  deriving DecidableEq

namespace Shutdown

/-- The collector is polled when it has started. -/
def new : Shutdown where
  queue := 0
  payloads := 0
  stream := .idle
  scheduled := true
  waker := false
  waking := false
  terminated := false
  main := .awaiting
  unread := false

inductive Action where
  /-- The sound card calls back. -/
  | callback (samples : Nat)
  /-- Something else wakes the collector. -/
  | datagram
  | poll
  /-- The pending send finds room, or the channel gone. -/
  | sent
  /-- The waker thread receives a waker. -/
  | receive
  | wake
  | interrupt
  /-- The waker thread takes the order to terminate. -/
  | terminate
  | join
  deriving DecidableEq

def step : LabelledStep Shutdown Action
  | shutdown, .callback samples =>
      if shutdown.main = .awaiting then
        some { shutdown with queue := shutdown.queue + samples }
      else
        none
  | shutdown, .datagram => some { shutdown with scheduled := true }
  | shutdown, .poll =>
      if shutdown.scheduled = true ∧ shutdown.stream = .idle ∧ shutdown.main ≠ .joining then
        if wavChunkPayloadSize ≤ shutdown.queue then
          -- the context polls again until the stream is pending
          some { shutdown with
            queue := shutdown.queue - wavChunkPayloadSize
            payloads := shutdown.payloads + 1 }
        else if shutdown.terminated then
          some { shutdown with
            stream := .finished
            scheduled := false }
        else if shutdown.waker then
          some { shutdown with
            stream := .sending
            scheduled := false }
        else
          some { shutdown with
            waker := true
            scheduled := false }
      else
        none
  | shutdown, .sent =>
      if shutdown.stream = .sending then
        if shutdown.terminated then
          some { shutdown with stream := .finished }
        else if shutdown.waker then
          none
        else
          some { shutdown with
            stream := .idle
            waker := true }
      else
        none
  | shutdown, .receive =>
      if shutdown.waker ∧ !shutdown.waking ∧ !shutdown.terminated then
        some { shutdown with
          waker := false
          waking := true }
      else
        none
  | shutdown, .wake =>
      if shutdown.waking then
        some { shutdown with
          waking := false
          scheduled := true }
      else
        none
  | shutdown, .interrupt =>
      if shutdown.main = .awaiting ∧ shutdown.stream ≠ .sending then
        some { shutdown with main := .joining }
      else
        none
  | shutdown, .terminate =>
      if shutdown.main = .joining ∧ !shutdown.waking ∧ !shutdown.terminated then
        some { shutdown with
          terminated := true
          waker := false
          unread := shutdown.waker }
      else
        none
  | shutdown, .join =>
      if shutdown.main = .joining ∧ shutdown.terminated then
        some { shutdown with main := .joined }
      else
        none

/-! ## What every step keeps -/

/-- A collector that is not about to be polled has left its waker with the waker
thread or in the channel, or the waker was dropped. -/
structure Wakeable (shutdown : Shutdown) : Prop where
  idle : shutdown.stream = .idle →
    shutdown.scheduled = true ∨ shutdown.waking = true ∨ shutdown.waker = true ∨
      shutdown.unread = true
  sending : shutdown.stream = .sending → shutdown.main = .awaiting
  running : shutdown.main = .awaiting → shutdown.terminated = false ∧ shutdown.stream ≠ .finished
  gone : shutdown.terminated = true → shutdown.waking = false ∧ shutdown.waker = false
  joined : shutdown.main = .joined → shutdown.terminated = true
  read : shutdown.terminated = false → shutdown.unread = false

theorem wakeable_step {shutdown next : Shutdown} {action : Action} (wakeable : shutdown.Wakeable)
    (stepped : step shutdown action = some next) : next.Wakeable := by
  rcases wakeable with ⟨idle, sending, running, gone, joined, read⟩
  cases action with
  | callback samples =>
      cases (Option.ite_none_right_eq_some.mp stepped).2
      exact ⟨idle, sending, running, gone, joined, read⟩
  | datagram =>
      cases stepped
      exact ⟨fun _ => Or.inl rfl, sending, running, gone, joined, read⟩
  | poll =>
      rcases Option.ite_none_right_eq_some.mp stepped with ⟨⟨scheduled, isIdle, unjoining⟩, polled⟩
      split at polled
      · have popped := Option.some.inj polled
        subst popped
        exact ⟨fun _ => Or.inl scheduled, sending, running, gone, joined, read⟩
      · split at polled
        · rename_i terminated
          cases polled
          refine ⟨?_, ?_, ?_, gone, joined, read⟩
          · intro stillIdle
            cases stillIdle
          · intro pending
            cases pending
          · intro awaiting
            cases terminated.symm.trans (running awaiting).1
        · rename_i unterminated
          have awaiting : shutdown.main = .awaiting := by
            cases main : shutdown.main with
            | awaiting => rfl
            | joining => exact absurd main unjoining
            | joined => exact absurd (joined main) unterminated
          split at polled
          · cases polled
            refine ⟨?_, fun _ => awaiting, fun _ => ⟨(running awaiting).1, ?_⟩, gone, joined, read⟩
            · intro stillIdle
              cases stillIdle
            · intro isFinished
              cases isFinished
          · cases polled
            refine ⟨fun _ => Or.inr (Or.inr (Or.inl rfl)), sending, running, ?_, joined, read⟩
            intro terminated
            exact absurd terminated unterminated
  | sent =>
      rcases Option.ite_none_right_eq_some.mp stepped with ⟨pending, went⟩
      rcases running (sending pending) with ⟨unterminated, unfinished⟩
      rw [if_neg (by rw [unterminated]; exact Bool.false_ne_true)] at went
      cases (Option.ite_none_left_eq_some.mp went).2
      refine ⟨fun _ => Or.inr (Or.inr (Or.inl rfl)), ?_, fun _ => ⟨unterminated, ?_⟩, ?_, joined, read⟩
      · intro stillPending
        cases stillPending
      · intro isFinished
        cases isFinished
      · intro terminated
        cases terminated.symm.trans unterminated
  | receive =>
      rcases Option.ite_none_right_eq_some.mp stepped with ⟨⟨-, -, unterminated⟩, received⟩
      cases received
      refine ⟨fun _ => Or.inr (Or.inl rfl), sending, running, ?_, joined, read⟩
      intro terminated
      simp only [Bool.not_eq_eq_eq_not, Bool.not_true] at unterminated
      cases terminated.symm.trans unterminated
  | wake =>
      rcases Option.ite_none_right_eq_some.mp stepped with ⟨-, woke⟩
      cases woke
      exact ⟨fun _ => Or.inl rfl, sending, running, fun terminated => ⟨rfl, (gone terminated).2⟩,
        joined, read⟩
  | interrupt =>
      rcases Option.ite_none_right_eq_some.mp stepped with ⟨⟨-, unsending⟩, interrupted⟩
      cases interrupted
      refine ⟨idle, fun pending => absurd pending unsending, ?_, gone, ?_, read⟩
      · intro awaiting
        cases awaiting
      · intro isJoined
        cases isJoined
  | terminate =>
      rcases Option.ite_none_right_eq_some.mp stepped with
        ⟨⟨joining, unwaking, unterminated⟩, ended⟩
      simp only [Bool.not_eq_eq_eq_not, Bool.not_true] at unwaking unterminated
      cases ended
      refine ⟨?_, sending, ?_, fun _ => ⟨unwaking, rfl⟩, fun _ => rfl, ?_⟩
      · intro isIdle
        rcases idle isIdle with scheduled | waking | waker | unread
        · exact Or.inl scheduled
        · exact Or.inr (Or.inl waking)
        · exact Or.inr (Or.inr (Or.inr waker))
        · cases unread.symm.trans (read unterminated)
      · intro awaiting
        cases joining.symm.trans awaiting
      · intro stillRunning
        cases stillRunning
  | join =>
      rcases Option.ite_none_right_eq_some.mp stepped with ⟨⟨joining, terminated⟩, isJoined⟩
      cases isJoined
      refine ⟨idle, ?_, ?_, gone, fun _ => terminated, read⟩
      · intro pending
        cases joining.symm.trans (sending pending)
      · intro awaiting
        cases awaiting

theorem wakeable_of_reached {actions : List Action} {shutdown : Shutdown}
    (reached : follow step new actions = some shutdown) : shutdown.Wakeable := by
  refine @follow_preserves _ _ step Wakeable ?_ new ?_ actions shutdown reached
  · intro state action next wakeable stepped
    exact wakeable_step wakeable stepped
  · refine ⟨fun _ => Or.inl rfl, ?_, fun _ => ⟨rfl, ?_⟩, ?_, ?_, fun _ => rfl⟩
    · intro pending
      cases pending
    · intro isFinished
      cases isFinished
    · intro terminated
      cases terminated
    · intro isJoined
      cases isJoined

/-! ## Progress -/

/-- Before the interrupt one of the two threads can always move. -/
theorem Wakeable.moves {shutdown : Shutdown} (wakeable : shutdown.Wakeable)
    (awaiting : shutdown.main = .awaiting) :
    ∃ action ∈ [Action.poll, .sent, .receive, .wake], (step shutdown action).isSome = true := by
  rcases wakeable.running awaiting with ⟨unterminated, unfinished⟩
  cases waking : shutdown.waking with
  | true => exact ⟨.wake, by simp, by simp [step, waking]⟩
  | false =>
      cases waker : shutdown.waker with
      | true => exact ⟨.receive, by simp, by simp [step, waking, waker, unterminated]⟩
      | false =>
          cases stream : shutdown.stream with
          | finished => exact absurd stream unfinished
          | sending => exact ⟨.sent, by simp, by simp [step, stream, waker, unterminated]⟩
          | idle =>
              have scheduled : shutdown.scheduled = true := by
                simpa [waking, waker, wakeable.read unterminated] using wakeable.idle stream
              refine ⟨.poll, by simp, ?_⟩
              rw [step, if_pos ⟨scheduled, stream, by rw [awaiting]; decide⟩]
              split
              · rfl
              · simp [unterminated, waker]

/-- While `main` waits, the waker thread can move, or `main` can. -/
theorem joins {shutdown : Shutdown} (joining : shutdown.main = .joining) :
    ∃ action ∈ [Action.wake, .terminate, .join], (step shutdown action).isSome = true := by
  cases waking : shutdown.waking with
  | true => exact ⟨.wake, by simp, by simp [step, waking]⟩
  | false =>
      cases terminated : shutdown.terminated with
      | true => exact ⟨.join, by simp, by simp [step, joining, terminated]⟩
      | false => exact ⟨.terminate, by simp, by simp [step, joining, waking, terminated]⟩

/-- Once the waker thread is gone, polling handles the payloads that are left and
ends the stream. -/
theorem follow_polls {shutdown : Shutdown} (scheduled : shutdown.scheduled = true)
    (idle : shutdown.stream = .idle) (joined : shutdown.main = .joined)
    (terminated : shutdown.terminated = true) :
    follow step shutdown (List.replicate (shutdown.queue / wavChunkPayloadSize + 1) .poll) =
      some { shutdown with
        queue := shutdown.queue % wavChunkPayloadSize
        payloads := shutdown.payloads + shutdown.queue / wavChunkPayloadSize
        stream := .finished
        scheduled := false } := by
  have ready : shutdown.scheduled = true ∧ shutdown.stream = .idle ∧ shutdown.main ≠ .joining :=
    ⟨scheduled, idle, by rw [joined]; decide⟩
  induction whole : shutdown.queue / wavChunkPayloadSize generalizing shutdown with
  | zero =>
      have few : shutdown.queue < wavChunkPayloadSize :=
        (Nat.div_eq_zero_iff_lt wavChunkPayloadSize_pos).mp whole
      have polled : step shutdown .poll = some { shutdown with
          stream := .finished
          scheduled := false } := by
        rw [step, if_pos ready, if_neg (Nat.not_le.mpr few), if_pos terminated]
      rw [List.replicate_succ, follow, polled, Option.bind_some, List.replicate_zero, follow,
        Nat.mod_eq_of_lt few, Nat.add_zero]
  | succ left ih =>
      have enough : wavChunkPayloadSize ≤ shutdown.queue := by
        by_contra few
        rw [Nat.div_eq_of_lt (Nat.not_le.mp few)] at whole
        cases whole
      have polled : step shutdown .poll = some { shutdown with
          queue := shutdown.queue - wavChunkPayloadSize
          payloads := shutdown.payloads + 1 } := by
        rw [step, if_pos ready, if_pos enough]
      have fewer : (shutdown.queue - wavChunkPayloadSize) / wavChunkPayloadSize = left := by
        rw [Nat.div_eq_sub_div wavChunkPayloadSize_pos enough] at whole
        exact Nat.succ_inj.mp whole
      have rest := @ih { shutdown with
        queue := shutdown.queue - wavChunkPayloadSize
        payloads := shutdown.payloads + 1 } scheduled idle joined terminated ready fewer
      rw [List.replicate_succ, follow, polled, Option.bind_some, rest,
        ← Nat.mod_eq_sub_mod enough, Nat.add_right_comm, Nat.add_assoc]

/-- Until the interrupt, and until the waker thread is gone after it, no thread
waits for ever for another.  Afterwards the stream of the collector is over, or it
is about to handle the payloads that are left and to end, or the waker was dropped
unread and nothing but a datagram makes the collector end. -/
theorem ends_or_unread {actions : List Action} {shutdown : Shutdown}
    (reached : follow step new actions = some shutdown) :
    (shutdown.main = .awaiting →
      ∃ action ∈ [Action.poll, .sent, .receive, .wake], (step shutdown action).isSome = true) ∧
    (shutdown.main = .joining →
      ∃ action ∈ [Action.wake, .terminate, .join], (step shutdown action).isSome = true) ∧
    (shutdown.main = .joined →
      shutdown.stream = .finished ∨
      (∃ final, final.stream = .finished ∧
        final.payloads = shutdown.payloads + shutdown.queue / wavChunkPayloadSize ∧
        follow step shutdown (List.replicate (shutdown.queue / wavChunkPayloadSize + 1) .poll) =
          some final) ∨
      (shutdown.unread = true ∧ shutdown.stream = .idle ∧
        ∀ action, action ≠ .datagram → step shutdown action = none)) := by
  have wakeable := wakeable_of_reached reached
  refine ⟨wakeable.moves, joins, ?_⟩
  intro joined
  have terminated := wakeable.joined joined
  rcases wakeable.gone terminated with ⟨unwaking, empty⟩
  cases stream : shutdown.stream with
  | finished => exact Or.inl rfl
  | sending =>
      cases joined.symm.trans (wakeable.sending stream)
  | idle =>
      cases scheduled : shutdown.scheduled with
      | true => exact Or.inr (Or.inl ⟨_, rfl, rfl, follow_polls scheduled stream joined terminated⟩)
      | false =>
          have unread : shutdown.unread = true := by
            simpa [scheduled, unwaking, empty] using wakeable.idle stream
          refine Or.inr (Or.inr ⟨unread, rfl, ?_⟩)
          intro action other
          cases action with
          | callback samples => simp [step, joined]
          | datagram => exact absurd rfl other
          | poll => simp [step, scheduled]
          | sent => simp [step, stream]
          | receive => simp [step, empty]
          | wake => simp [step, unwaking]
          | interrupt => simp [step, joined]
          | terminate => simp [step, joined]
          | join => simp [step, joined]

/-- A woken collector handles a payload and ends; the rest of the samples stays in
the queue. -/
theorem ends_or_unread_payload :
    ∃ shutdown final, follow step new
        [.poll, .callback 600, .receive, .interrupt, .wake, .terminate, .join] = some shutdown ∧
      follow step shutdown [.poll, .poll] = some final ∧ final.stream = .finished ∧
      final.payloads = 1 := by
  have reached : follow step new
      [.poll, .callback 600, .receive, .interrupt, .wake, .terminate, .join] =
        some ⟨600, 0, .idle, true, false, false, true, .joined, false⟩ := rfl
  rcases (ends_or_unread reached).2.2 rfl with ended | ⟨final, ended, payloads, polled⟩ | ⟨unread, -⟩
  · cases ended
  · exact ⟨_, final, reached, polled, ended, payloads⟩
  · cases unread

/-- The waker that the first poll has sent is dropped, and the collector never
ends by itself. -/
theorem unread_first :
    ∃ shutdown, follow step new [.poll, .interrupt, .terminate, .join] = some shutdown ∧
      shutdown.stream ≠ .finished ∧ ∀ action, action ≠ .datagram → step shutdown action = none := by
  refine ⟨⟨0, 0, .idle, false, false, false, true, .joined, true⟩, rfl, by decide, ?_⟩
  intro action other
  cases action with
  | callback samples => rfl
  | datagram => exact absurd rfl other
  | poll => rfl
  | sent => rfl
  | receive => rfl
  | wake => rfl
  | interrupt => rfl
  | terminate => rfl
  | join => rfl

end Shutdown

end Bug
