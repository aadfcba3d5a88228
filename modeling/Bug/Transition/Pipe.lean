import Bug.Transition.Run

/-!
# Reactive components in series

The outputs of one component are the inputs of the next.  A run of the pair is a
run of the first followed by a run of the second on everything it put out.
-/

namespace Bug.Transition

universe u v

variable {σ τ : Type u} {ι μ ο : Type v}

/-- Feed every output of the first component to the second at once. -/
def pipe (first : Reaction σ ι μ) (second : Reaction τ μ ο) : Reaction (σ × τ) ι ο
  | (state, rest), input =>
      (((first state input).1, (run second rest (first state input).2).1),
        (run second rest (first state input).2).2)

theorem run_pipe (first : Reaction σ ι μ) (second : Reaction τ μ ο) (state : σ) (rest : τ)
    (inputs : List ι) :
    run (pipe first second) (state, rest) inputs =
      (((run first state inputs).1, (run second rest (run first state inputs).2).1),
        (run second rest (run first state inputs).2).2) := by
  induction inputs generalizing state rest with
  | nil => rfl
  | cons input inputs ih =>
      rw [run_cons, run_cons, run_append]
      simp only [pipe, ih]

/-- What holds between the inputs and the outputs of every reaction holds
between those of a run, if it survives concatenation. -/
theorem run_relates (react : Reaction σ ι ο) (relates : List ι → List ο → Prop)
    (empty : relates [] [])
    (append : ∀ inputs outputs input sent, relates inputs outputs → relates [input] sent →
      relates (inputs ++ [input]) (outputs ++ sent))
    (single : ∀ state input, relates [input] (react state input).2) (state : σ)
    (inputs : List ι) : relates inputs (run react state inputs).2 :=
  run_invariant react state (fun _ inputs outputs => relates inputs outputs) empty
    (fun state inputs outputs input related =>
      append inputs outputs input _ related (single state input))
    inputs

end Bug.Transition
