import Bug.Audio.Announcement
import Bug.Audio.Lifecycle

/-!
# Identifiers do not interfere

One handler serves many transmissions at a time.  What it does for one of them is
what it would do if the messages of the others had never come, for any bytes that
arrive and any outcomes that `hound` has.
-/

namespace Bug

open Bug.Db
open Bug.Encoding
open Bug.Transition

namespace Effect

/-- The effect works on the file, or announces the recording. -/
def concerns (path : PathBuf) (id : Uuid) : Effect → Bool
  | create other _ => other = path
  | append other _ _ => other = path
  | finalize other => other = path
  | send event => event.payload = .sound (AudioWriter.wavFile id)

theorem concerns_eq_true_iff {path : PathBuf} {id : Uuid} {effect : Effect} :
    effect.concerns path id = true ↔ effect.file = some path ∨ effect.Announces id := by
  cases effect <;> simp [concerns, file, Announces]

end Effect

namespace AudioHandler

/-- A message that the handler reads as one of the identifier. -/
def names (format : SampleFormat) (id : Uuid) (message : AudioBytes) : Bool :=
  (datagram format message).id = some id

/-- Two handlers that serve the identifier alike. -/
structure Alike (id : Uuid) (first second : AudioHandler) : Prop where
  wavDirectory_eq : first.wavDirectory = second.wavDirectory
  spec_eq : first.spec = second.spec
  deviceId_eq : first.deviceId = second.deviceId
  lookup_eq : first.writers.lookup id = second.writers.lookup id

section Step

variable {id : Uuid} {start first second : AudioHandler}

theorem Alike.put (alike : Alike id first second) (writer : AudioWriter) :
    Alike id (first.put id writer) (second.put id writer) where
  wavDirectory_eq := alike.wavDirectory_eq
  spec_eq := alike.spec_eq
  deviceId_eq := alike.deviceId_eq
  lookup_eq := by
    rw [AudioHandler.put, AudioHandler.put, AList.lookup_insert, AList.lookup_insert]

theorem Alike.remove (alike : Alike id first second) :
    Alike id (first.remove id) (second.remove id) where
  wavDirectory_eq := alike.wavDirectory_eq
  spec_eq := alike.spec_eq
  deviceId_eq := alike.deviceId_eq
  lookup_eq := by
    rw [AudioHandler.remove, AudioHandler.remove, AList.lookup_erase, AList.lookup_erase]

/-- Handlers that are alike do the same with a message of the identifier. -/
theorem Alike.handle (alike : Alike id first second) {message : AudioBytes}
    (named : names first.spec.sampleFormat id message = true) :
    Alike id (first.handle message).1 (second.handle message).1 ∧
      (first.handle message).2 = (second.handle message).2 := by
  have pathEq : first.wavPath id = second.wavPath id := by
    rw [wavPath_eq, wavPath_eq, alike.wavDirectory_eq]
  have own := of_decide_eq_true named
  rw [datagram] at own
  rw [handle_eq, handle_eq, ← alike.spec_eq]
  cases decoded : Audio.codec.deserialize (α := Audio first.spec.sampleFormat.Carrier)
      message.buf with
  | none =>
      rw [decoded] at own
      cases own
  | some audio =>
      rw [decoded] at own
      cases audio with
      | wavChunk chunk =>
          cases own
          cases known : first.writers.lookup chunk.id with
          | some writer =>
              have sameKnown := alike.lookup_eq.symm.trans known
              simp only [write, decoded, known, sameKnown]
              exact ⟨alike.put _, trivial⟩
          | none =>
              have sameUnknown := alike.lookup_eq.symm.trans known
              simp only [write, decoded, known, sameUnknown, ← pathEq, ← alike.spec_eq,
                ← alike.deviceId_eq]
              cases AudioWriter.new message.hound chunk.id (first.wavPath chunk.id)
                  first.spec.toWavSpec first.deviceId with
              | mk effects opened =>
                  cases opened with
                  | ok writer =>
                      simp only [put_put]
                      exact ⟨alike.put _, trivial⟩
                  | error error => exact ⟨alike, rfl⟩
      | wavEnd other =>
          cases own
          cases known : first.writers.lookup id with
          | some writer =>
              have sameKnown := alike.lookup_eq.symm.trans known
              simp only [write, decoded, known, sameKnown]
              exact ⟨alike.remove, trivial⟩
          | none =>
              have sameUnknown := alike.lookup_eq.symm.trans known
              simp only [write, decoded, known, sameUnknown]
              exact ⟨alike, trivial⟩
      | _ => cases own

/-- A message of another identifier leaves the service of this one as it was. -/
theorem HandlerStep.alike {hound : Hound} {handler after : AudioHandler} {datagram : Datagram}
    {effects : List Effect} (step : HandlerStep hound handler datagram after effects)
    (elsewhere : datagram.id ≠ some id) : Alike id after handler := by
  have lookupEq := step.lookup_eq elsewhere
  cases step <;> exact ⟨rfl, rfl, rfl, lookupEq⟩

theorem Alike.trans {third : AudioHandler} (alike : Alike id first second)
    (other : Alike id second third) : Alike id first third where
  wavDirectory_eq := alike.wavDirectory_eq.trans other.wavDirectory_eq
  spec_eq := alike.spec_eq.trans other.spec_eq
  deviceId_eq := alike.deviceId_eq.trans other.deviceId_eq
  lookup_eq := alike.lookup_eq.trans other.lookup_eq

section Concerns

variable {hound : Hound} {handler after : AudioHandler} {datagram : Datagram}
  {effects : List Effect}

/-- No effect of another message concerns the identifier. -/
theorem HandlerStep.filter_concerns_eq_nil (kept : Kept start handler)
    (step : HandlerStep hound handler datagram after effects)
    (elsewhere : datagram.id ≠ some id) :
    effects.filter (Effect.concerns (start.wavPath id) id) = [] := by
  rw [List.filter_eq_nil_iff]
  intro effect member concerned
  rcases Effect.concerns_eq_true_iff.mp concerned with isFile | announces
  · exact step.file_ne kept elsewhere effect member isFile
  · have ended := (step.announces kept member announces).1
    rw [ended] at elsewhere
    exact elsewhere rfl

/-- Every effect of a message of the identifier concerns it. -/
theorem HandlerStep.filter_concerns_eq_self (kept : Kept start handler)
    (step : HandlerStep hound handler datagram after effects) (own : datagram.id = some id) :
    effects.filter (Effect.concerns (start.wavPath id) id) = effects := by
  rw [List.filter_eq_self]
  intro effect member
  rw [Effect.concerns_eq_true_iff]
  cases isFile : effect.file with
  | some path =>
      rcases step.file_eq kept member isFile with ⟨other, named, pathEq⟩
      cases own.symm.trans named
      exact Or.inl (congrArg some pathEq)
  | none =>
      right
      cases effect with
      | send event =>
          rcases step.of_settling member (fun _ _ => nofun) (fun _ _ _ => nofun) with
            ⟨other, -, rfl, -⟩
          cases own
          cases step with
          | ignored => cases member
          | ended known finalized =>
              cases finalized with
              | sent innerSome payload =>
                  simp only [List.mem_cons, reduceCtorEq, List.not_mem_nil, or_false,
                    Effect.send.injEq, false_or] at member
                  subst member
                  rwa [(kept.writer_eq _ _ known).1] at payload
              | failed innerSome fails => cases List.mem_singleton.mp member
              | finalized innerNone => cases member
      | _ => cases isFile

end Concerns

end Step

/-- A run and the run on the messages of an identifier alone serve it alike. -/
theorem alike_run (wavDirectory : PathBuf) (spec : Spec) (deviceId : Uuid)
    (messages : List AudioBytes) (id : Uuid) :
    Alike id (run handle (new wavDirectory spec deviceId) messages).1
        (run handle (new wavDirectory spec deviceId)
          (messages.filter (names spec.sampleFormat id))).1 ∧
      (run handle (new wavDirectory spec deviceId) messages).2.filter
          (Effect.concerns ((new wavDirectory spec deviceId).wavPath id) id) =
        (run handle (new wavDirectory spec deviceId)
          (messages.filter (names spec.sampleFormat id))).2 := by
  induction messages using List.reverseRecOn with
  | nil => exact ⟨⟨rfl, rfl, rfl, rfl⟩, rfl⟩
  | append_singleton messages message ih =>
      rcases ih with ⟨alike, logEq⟩
      have kept := kept_run wavDirectory spec deviceId messages
      have step := handlerStep_handle
        (run handle (new wavDirectory spec deviceId) messages).1 message
      have formatEq : (run handle (new wavDirectory spec deviceId) messages).1.spec.sampleFormat =
          spec.sampleFormat := congrArg Spec.sampleFormat kept.spec_eq
      rw [formatEq] at step
      rw [run_concat, List.filter_append messages]
      cases named : names spec.sampleFormat id message with
      | true =>
          have own := of_decide_eq_true named
          rw [← formatEq] at named
          rcases alike.handle named with ⟨alikeAfter, sameEffects⟩
          rw [formatEq] at named
          rw [List.filter_cons_of_pos named, List.filter_nil, run_concat]
          refine ⟨alikeAfter, ?_⟩
          rw [List.filter_append, logEq, step.filter_concerns_eq_self kept own, sameEffects]
      | false =>
          have elsewhere := of_decide_eq_false named
          rw [List.filter_cons_of_neg (by simp [named]), List.filter_nil, List.append_nil]
          refine ⟨(step.alike elsewhere).trans alike, ?_⟩
          rw [List.filter_append, logEq, step.filter_concerns_eq_nil kept elsewhere,
            List.append_nil]

/-- Whatever bytes arrive and however the calls to `hound` end: the effects of a
run that concern an identifier are those of a run on the messages of that
identifier alone, which leaves its writer in the same state. -/
theorem effects_isolated (wavDirectory : PathBuf) (spec : Spec) (deviceId : Uuid)
    (messages : List AudioBytes) (id : Uuid) :
    (run handle (new wavDirectory spec deviceId) messages).2.filter
          (Effect.concerns ((new wavDirectory spec deviceId).wavPath id) id) =
        (run handle (new wavDirectory spec deviceId)
          (messages.filter (names spec.sampleFormat id))).2 ∧
      (run handle (new wavDirectory spec deviceId) messages).1.writers.lookup id =
        (run handle (new wavDirectory spec deviceId)
          (messages.filter (names spec.sampleFormat id))).1.writers.lookup id := by
  rcases alike_run wavDirectory spec deviceId messages id with ⟨alike, logEq⟩
  exact ⟨logEq, alike.lookup_eq⟩

end AudioHandler

end Bug
