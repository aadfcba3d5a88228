import Bug.Transition.Run

/-!
# Components in lockstep

Two components that are fed related inputs keep related states when every pair
of reactions preserves the relation.  If the outputs of related reactions look
alike, then the two runs look alike input by input.
-/

namespace Bug.Transition

universe u v w

variable {σ τ : Type u} {ι κ : Type v} {ο π χ : Type w}

/-- The outputs of a run, kept apart by the input that caused them. -/
def timeline (react : Reaction σ ι ο) : σ → List ι → List (List ο)
  | _, [] => []
  | state, input :: inputs => (react state input).2 :: timeline react (react state input).1 inputs

theorem flatten_timeline (react : Reaction σ ι ο) (state : σ) (inputs : List ι) :
    (timeline react state inputs).flatten = (run react state inputs).2 := by
  induction inputs generalizing state with
  | nil => rfl
  | cons input inputs ih => rw [timeline, List.flatten_cons, ih, run_cons]

/-- Related reactions to related inputs look alike and stay related. -/
def Simulates (left : Reaction σ ι ο) (right : Reaction τ κ π) (view : ο → χ) (view' : π → χ)
    (related : σ → τ → Prop) (same : ι → κ → Prop) : Prop :=
  ∀ state state' input input', related state state' → same input input' →
    related (left state input).1 (right state' input').1 ∧
      (left state input).2.map view = (right state' input').2.map view'

theorem timeline_eq_of_simulates {left : Reaction σ ι ο} {right : Reaction τ κ π} {view : ο → χ}
    {view' : π → χ} {related : σ → τ → Prop} {same : ι → κ → Prop}
    (simulates : Simulates left right view view' related same) (inputs : List (ι × κ))
    (sameInputs : ∀ pair ∈ inputs, same pair.1 pair.2) {state : σ} {state' : τ}
    (start : related state state') :
    (timeline left state (inputs.map Prod.fst)).map (List.map view) =
      (timeline right state' (inputs.map Prod.snd)).map (List.map view') := by
  induction inputs generalizing state state' with
  | nil => rfl
  | cons pair inputs ih =>
      rcases List.forall_mem_cons.mp sameInputs with ⟨head, tail⟩
      rcases simulates state state' pair.1 pair.2 start head with ⟨stillRelated, alike⟩
      simp only [List.map_cons, timeline]
      rw [alike, ih tail stillRelated]

theorem run_eq_of_simulates {left : Reaction σ ι ο} {right : Reaction τ κ π} {view : ο → χ}
    {view' : π → χ} {related : σ → τ → Prop} {same : ι → κ → Prop}
    (simulates : Simulates left right view view' related same) (inputs : List (ι × κ))
    (sameInputs : ∀ pair ∈ inputs, same pair.1 pair.2) {state : σ} {state' : τ}
    (start : related state state') :
    (run left state (inputs.map Prod.fst)).2.map view =
      (run right state' (inputs.map Prod.snd)).2.map view' := by
  rw [← flatten_timeline, ← flatten_timeline, List.map_flatten, List.map_flatten,
    timeline_eq_of_simulates simulates inputs sameInputs start]

end Bug.Transition
