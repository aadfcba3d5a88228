import Mathlib.Data.List.Induction

/-!
# Runs of reactive components

A component reacts to one input with a next state and a list of outputs.  A run
feeds a whole list of inputs and concatenates the outputs in order.  Invariants
of runs may speak about the inputs consumed and the outputs produced so far, so
a safety property of a whole history reduces to one step lemma.
-/

namespace Bug.Transition

universe u v w

variable {σ : Type u} {ι : Type v} {ο : Type w}

/-- The reaction of a component to one input. -/
abbrev Reaction (σ : Type u) (ι : Type v) (ο : Type w) := σ → ι → σ × List ο

/-- Feed the inputs in order and collect every output. -/
def run (react : Reaction σ ι ο) : σ → List ι → σ × List ο
  | state, [] => (state, [])
  | state, input :: inputs =>
      let next := react state input
      let rest := run react next.1 inputs
      (rest.1, next.2 ++ rest.2)

@[simp]
theorem run_nil (react : Reaction σ ι ο) (state : σ) : run react state [] = (state, []) :=
  rfl

@[simp]
theorem run_cons (react : Reaction σ ι ο) (state : σ) (input : ι) (inputs : List ι) :
    run react state (input :: inputs) =
      ((run react (react state input).1 inputs).1,
        (react state input).2 ++ (run react (react state input).1 inputs).2) :=
  rfl

theorem run_singleton (react : Reaction σ ι ο) (state : σ) (input : ι) :
    run react state [input] = react state input := by
  rw [run_cons, run_nil, List.append_nil]

theorem run_append (react : Reaction σ ι ο) (state : σ) (first second : List ι) :
    run react state (first ++ second) =
      ((run react (run react state first).1 second).1,
        (run react state first).2 ++ (run react (run react state first).1 second).2) := by
  induction first generalizing state with
  | nil => simp
  | cons input inputs ih => simp [ih, List.append_assoc]

theorem run_append_fst (react : Reaction σ ι ο) (state : σ) (first second : List ι) :
    (run react state (first ++ second)).1 = (run react (run react state first).1 second).1 := by
  rw [run_append]

theorem run_concat (react : Reaction σ ι ο) (state : σ) (inputs : List ι) (input : ι) :
    run react state (inputs ++ [input]) =
      ((react (run react state inputs).1 input).1,
        (run react state inputs).2 ++ (react (run react state inputs).1 input).2) := by
  simp [run_append]

/-- Inputs that arrive in groups are handled as if they had come one by one. -/
theorem run_run (react : Reaction σ ι ο) (state : σ) (groups : List (List ι)) :
    run (run react) state groups = run react state groups.flatten := by
  induction groups generalizing state with
  | nil => rfl
  | cons inputs groups ih => rw [run_cons, List.flatten_cons, run_append, ih]

/-- The same reaction, each output with the position of the input it belongs
to. -/
def positioned (react : Reaction σ ι ο) : Reaction (σ × Nat) ι (Nat × ο)
  | (state, index), input =>
      (((react state input).1, index + 1), (react state input).2.map (index, ·))

theorem run_positioned_snd (react : Reaction σ ι ο) (state : σ) (index : Nat)
    (inputs : List ι) :
    (run (positioned react) (state, index) inputs).2.map Prod.snd = (run react state inputs).2 := by
  induction inputs generalizing state index with
  | nil => rfl
  | cons input inputs ih =>
      rw [run_cons, run_cons, List.map_append]
      simp only [positioned, List.map_map]
      rw [ih]
      exact congrArg (· ++ _) (List.map_id _)

/-- Every output of a run belongs to one input, reacted to in the state that the
inputs before it led to. -/
theorem mem_run_iff (react : Reaction σ ι ο) (state : σ) (inputs : List ι) (output : ο) :
    output ∈ (run react state inputs).2 ↔
      ∃ before input, (before ++ [input]) <+: inputs ∧
        output ∈ (react (run react state before).1 input).2 := by
  induction inputs using List.reverseRecOn with
  | nil => simp
  | append_singleton inputs last ih =>
      rw [run_concat, List.mem_append, ih]
      constructor
      · rintro (⟨before, input, earlier, member⟩ | member)
        · exact ⟨before, input, earlier.trans (List.prefix_append _ _), member⟩
        · exact ⟨inputs, last, List.prefix_rfl, member⟩
      · rintro ⟨before, input, isPrefix, member⟩
        rcases List.prefix_concat_iff.mp isPrefix with whole | earlier
        · obtain ⟨rfl, inputEq⟩ := List.append_inj' whole rfl
          cases inputEq
          exact Or.inr member
        · exact Or.inl ⟨before, input, earlier, member⟩

/-- A property of state, consumed inputs and produced outputs that holds before
the first input and survives every reaction holds after every run. -/
theorem run_invariant (react : Reaction σ ι ο) (start : σ)
    (invariant : σ → List ι → List ο → Prop) (init : invariant start [] [])
    (preserved : ∀ state inputs outputs input, invariant state inputs outputs →
      invariant (react state input).1 (inputs ++ [input]) (outputs ++ (react state input).2))
    (inputs : List ι) :
    invariant (run react start inputs).1 inputs (run react start inputs).2 := by
  induction inputs using List.reverseRecOn with
  | nil => exact init
  | append_singleton inputs input ih =>
      rw [run_concat]
      exact preserved _ inputs _ input ih

end Bug.Transition
