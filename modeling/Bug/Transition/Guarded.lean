import Mathlib.Data.List.Induction

/-!
# Runs of guarded components

A guarded component reacts to an input only in some of its states; where it does
not, the run is undefined.  Invariants of guarded runs may speak about the inputs
consumed and the outputs produced so far.
-/

namespace Bug.Transition

universe u v w

variable {σ : Type u} {ι : Type v} {ο : Type w}

/-- The reaction of a component to one input, if it is ready for it. -/
abbrev GuardedReaction (σ : Type u) (ι : Type v) (ο : Type w) := σ → ι → Option (σ × List ο)

/-- Feed the inputs in order and collect every output. -/
def guardedRun (react : GuardedReaction σ ι ο) : σ → List ι → Option (σ × List ο)
  | state, [] => some (state, [])
  | state, input :: inputs =>
      (react state input).bind fun next =>
        (guardedRun react next.1 inputs).map fun rest => (rest.1, next.2 ++ rest.2)

theorem guardedRun_cons_eq_some_iff (react : GuardedReaction σ ι ο) (state final : σ)
    (input : ι) (inputs : List ι) (outputs : List ο) :
    guardedRun react state (input :: inputs) = some (final, outputs) ↔
      ∃ next sent rest, react state input = some (next, sent) ∧
        guardedRun react next inputs = some (final, rest) ∧ outputs = sent ++ rest := by
  constructor
  · intro reached
    rcases Option.bind_eq_some_iff.mp reached with ⟨⟨next, sent⟩, reacted, followed⟩
    rcases Option.map_eq_some_iff.mp followed with ⟨⟨final', rest⟩, later, equal⟩
    cases equal
    exact ⟨next, sent, rest, reacted, later, rfl⟩
  · rintro ⟨next, sent, rest, reacted, later, rfl⟩
    simp [guardedRun, reacted, later]

theorem guardedRun_append_eq_some_iff (react : GuardedReaction σ ι ο) (state final : σ)
    (first second : List ι) (outputs : List ο) :
    guardedRun react state (first ++ second) = some (final, outputs) ↔
      ∃ middle before after, guardedRun react state first = some (middle, before) ∧
        guardedRun react middle second = some (final, after) ∧ outputs = before ++ after := by
  induction first generalizing state outputs with
  | nil => simp [guardedRun, eq_comm]
  | cons input inputs ih =>
      rw [List.cons_append, guardedRun_cons_eq_some_iff]
      constructor
      · rintro ⟨next, sent, rest, reacted, later, rfl⟩
        rcases (ih next rest).mp later with ⟨middle, before, after, front, back, rfl⟩
        refine ⟨middle, sent ++ before, after, ?_, back, by rw [List.append_assoc]⟩
        exact (guardedRun_cons_eq_some_iff _ _ _ _ _ _).mpr
          ⟨next, sent, before, reacted, front, rfl⟩
      · rintro ⟨middle, before, after, front, back, rfl⟩
        rcases (guardedRun_cons_eq_some_iff _ _ _ _ _ _).mp front with
          ⟨next, sent, rest, reacted, later, rfl⟩
        refine ⟨next, sent, rest ++ after, reacted, ?_, by rw [List.append_assoc]⟩
        exact (ih next _).mpr ⟨middle, rest, after, later, back, rfl⟩

theorem guardedRun_concat_eq_some_iff (react : GuardedReaction σ ι ο) (state final : σ)
    (inputs : List ι) (input : ι) (outputs : List ο) :
    guardedRun react state (inputs ++ [input]) = some (final, outputs) ↔
      ∃ middle before after, guardedRun react state inputs = some (middle, before) ∧
        react middle input = some (final, after) ∧ outputs = before ++ after := by
  have single : ∀ middle, guardedRun react middle [input] = react middle input := by
    intro middle
    cases reacted : react middle input <;> simp [guardedRun, reacted]
  rw [guardedRun_append_eq_some_iff]
  simp only [single]

/-- A property of state, consumed inputs and produced outputs that holds before
the first input and survives every reaction holds after every run. -/
theorem guardedRun_invariant {react : GuardedReaction σ ι ο} {start : σ}
    (invariant : σ → List ι → List ο → Prop) (init : invariant start [] [])
    (preserved : ∀ state inputs outputs input next sent, invariant state inputs outputs →
      react state input = some (next, sent) →
        invariant next (inputs ++ [input]) (outputs ++ sent))
    {inputs : List ι} {final : σ} {outputs : List ο}
    (reached : guardedRun react start inputs = some (final, outputs)) :
    invariant final inputs outputs := by
  induction inputs using List.reverseRecOn generalizing final outputs with
  | nil =>
      cases reached
      exact init
  | append_singleton inputs input ih =>
      rcases (guardedRun_concat_eq_some_iff _ _ _ _ _ _).mp reached with
        ⟨middle, before, after, front, reacted, rfl⟩
      exact preserved middle inputs before input final after (ih front) reacted

end Bug.Transition
