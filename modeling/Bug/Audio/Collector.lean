import Bug.Audio.Message
import Bug.Transition.Labelled

/-!
# From the audio callback to the collector

The callback of the sound card pushes its samples one by one into a queue of a
fixed capacity, from a thread of its own, and drops a sample when the queue is
full.  The collector polls the queue: it looks at its length, and if there is
enough for a payload it pops the samples one by one.  Pushes may come between any
two of these steps.
-/

namespace Bug

open Bug.Transition

/-- Where `poll_fn` stands. -/
inductive Polling (S : Type) where
  | idle
  /-- In the loop, at an index of the payload. -/
  | popping (payload : WavChunkPayload S) (index : Nat)
  /-- The stream is over. -/
  | finished
  /-- `pop` found nothing to unwrap. -/
  | panicked

/-- The samples of the payload in the making. -/
def Polling.popped {S : Type} : Polling S → List S
  | .popping payload index => payload.samples.take index
  | .idle => []
  | .finished => []
  | .panicked => []

structure Collector (S : Type) where
  capacity : Nat
  queue : List S
  /-- What the callback has not pushed yet. -/
  data : List S
  polling : Polling S
  payloads : List (WavChunkPayload S)
  /-- Every sample that the queue took. -/
  accepted : List S

namespace Collector

variable {S : Type}

def new (capacity : Nat) : Collector S where
  capacity := capacity
  queue := []
  data := []
  polling := .idle
  payloads := []
  accepted := []

inductive Action (S : Type) where
  /-- The sound card calls back with new samples. -/
  | callback (data : List S)
  /-- One round of the loop of `write_input_data`. -/
  | push
  /-- The length check; the waker thread may have stopped. -/
  | poll (wakerSent : Bool)
  /-- One round of the loop that fills the payload. -/
  | pop
  /-- The payload is full. -/
  | ready

variable [Sample S]

def step : LabelledStep (Collector S) (Action S)
  | collector, .callback data =>
      match collector.data with
      | [] => some { collector with data := data }
      | _ :: _ => none
  | collector, .push =>
      match collector.data with
      | [] => none
      | sample :: rest =>
          if collector.queue.length < collector.capacity then
            some { collector with
              queue := collector.queue ++ [sample]
              data := rest
              accepted := collector.accepted ++ [sample] }
          else
            some { collector with data := rest }
  | collector, .poll wakerSent =>
      match collector.polling with
      | .idle =>
          if collector.queue.length < wavChunkPayloadSize then
            if wakerSent then some collector
            else some { collector with polling := .finished }
          else
            some { collector with polling := .popping default 0 }
      | _ => none
  | collector, .pop =>
      match collector.polling with
      | .popping payload index =>
          if index < wavChunkPayloadSize then
            match collector.queue with
            | [] => some { collector with polling := .panicked }
            | sample :: queue =>
                some { collector with
                  queue := queue
                  polling := .popping (payload.set index sample) (index + 1) }
          else
            none
      | _ => none
  | collector, .ready =>
      match collector.polling with
      | .popping payload index =>
          if index < wavChunkPayloadSize then none
          else
            some { collector with
              polling := .idle
              payloads := collector.payloads ++ [payload] }
      | _ => none

/-! ## Everything a step can do -/

inductive Transition (collector : Collector S) : Collector S → Prop
  | calledBack {data : List S} : Transition collector { collector with data := data }
  | pushed {sample : S} {rest : List S} : collector.data = sample :: rest →
      collector.queue.length < collector.capacity →
      Transition collector
        { collector with
          queue := collector.queue ++ [sample]
          data := rest
          accepted := collector.accepted ++ [sample] }
  | dropped {sample : S} {rest : List S} : collector.data = sample :: rest →
      Transition collector { collector with data := rest }
  | waited : collector.polling = .idle → Transition collector collector
  | stopped : collector.polling = .idle →
      Transition collector { collector with polling := .finished }
  | began : collector.polling = .idle → wavChunkPayloadSize ≤ collector.queue.length →
      Transition collector { collector with polling := .popping default 0 }
  | panicked {payload : WavChunkPayload S} {index : Nat} :
      collector.polling = .popping payload index → index < wavChunkPayloadSize →
      collector.queue = [] → Transition collector { collector with polling := .panicked }
  | popped {payload : WavChunkPayload S} {index : Nat} {sample : S} {queue : List S} :
      collector.polling = .popping payload index → index < wavChunkPayloadSize →
      collector.queue = sample :: queue →
      Transition collector
        { collector with
          queue := queue
          polling := .popping (payload.set index sample) (index + 1) }
  | ready {payload : WavChunkPayload S} {index : Nat} :
      collector.polling = .popping payload index → wavChunkPayloadSize ≤ index →
      Transition collector
        { collector with
          polling := .idle
          payloads := collector.payloads ++ [payload] }

theorem transition_of_step {collector next : Collector S} {action : Action S}
    (stepped : step collector action = some next) : Transition collector next := by
  cases action with
  | callback data =>
      simp only [step] at stepped
      split at stepped
      · cases stepped
        exact .calledBack
      · cases stepped
  | push =>
      simp only [step] at stepped
      split at stepped
      · cases stepped
      · rename_i sample rest data
        split at stepped
        · rename_i room
          cases stepped
          exact .pushed data room
        · cases stepped
          exact .dropped data
  | poll wakerSent =>
      simp only [step] at stepped
      split at stepped
      · rename_i idle
        split at stepped
        · split at stepped
          · cases stepped
            exact .waited idle
          · cases stepped
            exact .stopped idle
        · rename_i enough
          cases stepped
          exact .began idle (Nat.le_of_not_lt enough)
      · cases stepped
  | pop =>
      simp only [step] at stepped
      split at stepped
      · rename_i payload index popping
        split at stepped
        · rename_i inside
          split at stepped
          · rename_i empty
            cases stepped
            exact .panicked popping inside empty
          · rename_i sample queue front
            cases stepped
            exact .popped popping inside front
        · cases stepped
      · cases stepped
  | ready =>
      simp only [step] at stepped
      split at stepped
      · rename_i payload index popping
        split at stepped
        · cases stepped
        · rename_i full
          cases stepped
          exact .ready popping (Nat.le_of_not_lt full)
      · cases stepped

/-! ## No sample is lost or repeated -/

/-- The payloads, the one in the making and the queue hold the accepted samples in
order, and there are enough of them to fill the payload. -/
structure Conserved (collector : Collector S) : Prop where
  accepted_eq : collector.accepted =
    collector.payloads.flatMap WavChunkPayload.samples ++ collector.polling.popped ++
      collector.queue
  enough : ∀ payload index, collector.polling = .popping payload index →
    index ≤ wavChunkPayloadSize ∧ wavChunkPayloadSize ≤ index + collector.queue.length
  unwrapped : collector.polling ≠ .panicked

omit [Sample S] in
theorem conserved_new (capacity : Nat) : (new (S := S) capacity).Conserved where
  accepted_eq := rfl
  enough := by
    intro payload index popping
    cases popping
  unwrapped := by
    intro panicked
    cases panicked

theorem Conserved.of_transition {collector next : Collector S} (conserved : collector.Conserved)
    (transition : Transition collector next) : next.Conserved := by
  have accepted := conserved.accepted_eq
  cases transition with
  | calledBack => exact { conserved with }
  | pushed data room =>
      constructor
      · simp only [accepted, List.append_assoc]
      · intro payload index popping
        rcases conserved.enough payload index popping with ⟨inside, enough⟩
        rw [List.length_append]
        exact ⟨inside, enough.trans (Nat.add_le_add_left (Nat.le_add_right _ _) index)⟩
      · exact conserved.unwrapped
  | dropped data => exact { conserved with }
  | waited idle => exact conserved
  | stopped idle =>
      rw [idle] at accepted
      constructor
      · exact accepted
      · intro payload index popping
        cases popping
      · intro panicked
        cases panicked
  | began idle enough =>
      rw [idle] at accepted
      constructor
      · exact accepted
      · intro payload index popping
        cases popping
        exact ⟨Nat.zero_le _, by rwa [Nat.zero_add]⟩
      · intro panicked
        cases panicked
  | panicked popping inside empty =>
      have enough := (conserved.enough _ _ popping).2
      rw [empty, List.length_nil, Nat.add_zero] at enough
      exact absurd inside (Nat.not_lt.mpr enough)
  | @popped payload index sample queue popping inside front =>
      have enough := (conserved.enough _ _ popping).2
      rw [front, List.length_cons] at enough
      rw [popping, front] at accepted
      constructor
      · rw [accepted]
        simp only [Polling.popped, WavChunkPayload.take_set _ inside, List.append_assoc,
          List.singleton_append]
      · intro payload index now
        cases now
        rw [← Nat.add_assoc, Nat.add_right_comm] at enough
        exact ⟨inside, enough⟩
      · intro panicked
        cases panicked
  | @ready payload index popping full =>
      rw [popping] at accepted
      have whole : payload.samples.take index = payload.samples := by
        apply List.take_of_length_le
        rw [payload.length_samples]
        exact full
      constructor
      · rw [accepted]
        simp only [Polling.popped, whole, List.flatMap_append, List.flatMap_singleton,
          List.append_nil]
      · intro payload index now
        cases now
      · intro panicked
        cases panicked

/-- However the pushes of the callback fall between the steps of the collector, no
`pop` meets an empty queue, and the payloads hold the accepted samples from the
first on, in order, each once; the rest are in the payload in the making and in
the queue. -/
theorem payloads_prefix_accepted (capacity : Nat) (actions : List (Action S))
    (collector : Collector S) (reached : follow step (new capacity) actions = some collector) :
    collector.polling ≠ .panicked ∧
      (∀ payload index, collector.polling = .popping payload index →
        index < wavChunkPayloadSize → collector.queue ≠ []) ∧
      collector.payloads.flatMap WavChunkPayload.samples <+: collector.accepted ∧
      collector.accepted = collector.payloads.flatMap WavChunkPayload.samples ++
        collector.polling.popped ++ collector.queue := by
  have preserved : ∀ (collector : Collector S) action next, collector.Conserved →
      step collector action = some next → next.Conserved := by
    intro collector action next conserved stepped
    exact conserved.of_transition (transition_of_step stepped)
  have conserved := follow_preserves preserved (conserved_new capacity) reached
  refine ⟨conserved.unwrapped, ?_, ?_, conserved.accepted_eq⟩
  · intro payload index popping inside empty
    have enough := (conserved.enough payload index popping).2
    rw [empty, List.length_nil] at enough
    exact absurd inside (Nat.not_lt.mpr enough)
  · rw [conserved.accepted_eq, List.append_assoc]
    exact List.prefix_append _ _

/-- A queue for two samples drops the third one of a callback. -/
theorem payloads_prefix_accepted_three :
    ∃ collector : Collector Int16, follow (step (S := Int16)) (new 2)
        [.callback [7, 8, 9], .push, .poll true, .push, .push] = some collector ∧
      collector.polling ≠ .panicked ∧ collector.accepted = [7, 8] := by
  have reached : follow step (new 2)
      [.callback [(7 : Int16), 8, 9], .push, .poll true, .push, .push] =
        some (⟨2, [7, 8], [], .idle, [], [7, 8]⟩ : Collector Int16) := rfl
  exact ⟨_, reached, (payloads_prefix_accepted 2 _ _ reached).1, rfl⟩

end Collector

end Bug
