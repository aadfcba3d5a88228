import Mathlib.Data.List.Induction

/-!
# Partial labelled transitions

A step takes a label that names an action and the outcomes it meets; where the
action is not enabled it is undefined.  A run follows a list of labels.  Safety
under an assumption on the steps is proved with one rule: what an assumed step
preserves holds at the end of every run whose steps are all assumed.
-/

namespace Bug.Transition

universe u v

variable {σ : Type u} {ℓ : Type v}

/-- A partial step, given its label. -/
abbrev LabelledStep (σ : Type u) (ℓ : Type v) := σ → ℓ → Option σ

/-- Take the steps of the labels in order. -/
def follow (step : LabelledStep σ ℓ) : σ → List ℓ → Option σ
  | state, [] => some state
  | state, label :: labels => (step state label).bind fun next => follow step next labels

/-- The last step of a run starts where the others end. -/
theorem follow_concat (step : LabelledStep σ ℓ) (start : σ) (labels : List ℓ) (label : ℓ) :
    follow step start (labels ++ [label]) =
      (follow step start labels).bind fun state => step state label := by
  induction labels generalizing start with
  | nil => simp [follow]
  | cons first labels ih =>
      rw [List.cons_append, follow, follow, Option.bind_assoc]
      apply congrArg
      funext next
      exact ih next

/-- A run of steps that are always enabled. -/
theorem follow_some (advance : σ → ℓ → σ) (start : σ) (labels : List ℓ) :
    follow (fun state label => some (advance state label)) start labels =
      some (labels.foldl advance start) := by
  induction labels generalizing start with
  | nil => rfl
  | cons label labels ih =>
      rw [follow, Option.bind_some, List.foldl_cons]
      exact ih (advance start label)

/-- Every step of the run starts in a state that meets the assumption for its
label. -/
def Throughout (step : LabelledStep σ ℓ) (assumed : σ → ℓ → Prop) : σ → List ℓ → Prop
  | _, [] => True
  | state, label :: labels =>
      assumed state label ∧
        match step state label with
        | some next => Throughout step assumed next labels
        | none => True

instance (step : LabelledStep σ ℓ) (assumed : σ → ℓ → Prop)
    [(state : σ) → (label : ℓ) → Decidable (assumed state label)] :
    (state : σ) → (labels : List ℓ) → Decidable (Throughout step assumed state labels)
  | _, [] => .isTrue trivial
  | state, label :: labels =>
      match decided : step state label with
      | some next =>
          have := instDecidableThroughout step assumed next labels
          decidable_of_iff (assumed state label ∧ Throughout step assumed next labels)
            (by rw [Throughout, decided])
      | none => decidable_of_iff (assumed state label) (by rw [Throughout, decided]; simp)

/-- A property of the start that every assumed step preserves holds at the end
of every run whose steps are all assumed. -/
theorem follow_invariant {step : LabelledStep σ ℓ} {assumed : σ → ℓ → Prop}
    {invariant : σ → Prop}
    (preserved : ∀ state label next, invariant state → assumed state label →
      step state label = some next → invariant next)
    {start : σ} (init : invariant start) {labels : List ℓ}
    (throughout : Throughout step assumed start labels) {final : σ}
    (reached : follow step start labels = some final) : invariant final := by
  induction labels generalizing start with
  | nil =>
      cases reached
      exact init
  | cons label labels ih =>
      rcases Option.bind_eq_some_iff.mp reached with ⟨next, stepped, rest⟩
      rw [Throughout, stepped] at throughout
      exact ih (preserved start label next init throughout.1 stepped) throughout.2 rest

/-- The assumption holds along the first part of a run. -/
theorem throughout_of_append {step : LabelledStep σ ℓ} {assumed : σ → ℓ → Prop} {start : σ}
    {before after : List ℓ} (throughout : Throughout step assumed start (before ++ after)) :
    Throughout step assumed start before := by
  induction before generalizing start with
  | nil => exact trivial
  | cons label before ih =>
      rw [List.cons_append, Throughout] at throughout
      rw [Throughout]
      constructor
      · exact throughout.1
      · cases stepped : step start label with
        | none => exact trivial
        | some next =>
            rw [stepped] at throughout
            exact ih throughout.2

/-- What a step keeps exactly when it meets the assumption holds at the end of a
run exactly when it holds at its start and every step meets the assumption. -/
theorem follow_iff_throughout {step : LabelledStep σ ℓ} {assumed : σ → ℓ → Prop}
    {property : σ → Prop}
    (kept : ∀ state label next, step state label = some next →
      (property next ↔ property state ∧ assumed state label))
    {start : σ} {labels : List ℓ} {final : σ} (reached : follow step start labels = some final) :
    property final ↔ property start ∧ Throughout step assumed start labels := by
  induction labels generalizing start with
  | nil =>
      cases reached
      simp [Throughout]
  | cons label labels ih =>
      rcases Option.bind_eq_some_iff.mp reached with ⟨next, stepped, rest⟩
      rw [Throughout, stepped, ih rest, kept start label next stepped, and_assoc]

/-- What a step keeps exactly when it meets the assumption holds in every state of a
run exactly when every step meets the assumption. -/
theorem forall_reached_iff_throughout {step : LabelledStep σ ℓ} {assumed : σ → ℓ → Prop}
    {property : σ → Prop}
    (kept : ∀ state label next, property state → step state label = some next →
      (property next ↔ assumed state label))
    {start : σ} (init : property start) {labels : List ℓ} {final : σ}
    (reached : follow step start labels = some final) :
    (∀ before after state, labels = before ++ after → follow step start before = some state →
      property state) ↔ Throughout step assumed start labels := by
  induction labels generalizing start with
  | nil =>
      rw [Throughout, iff_true]
      intro before after state split passed
      cases (List.append_eq_nil_iff.mp split.symm).1
      cases passed
      exact init
  | cons label labels ih =>
      rcases Option.bind_eq_some_iff.mp reached with ⟨next, stepped, rest⟩
      rw [Throughout, stepped]
      constructor
      · intro everywhere
        have holds := everywhere [label] labels next rfl (by rw [follow, stepped]; rfl)
        refine ⟨(kept start label next init stepped).mp holds, (ih holds rest).mp ?_⟩
        intro before after state split passed
        apply everywhere (label :: before) after state
        · rw [split, List.cons_append]
        · rw [follow, stepped]
          exact passed
      · rintro ⟨holdsFirst, throughout⟩ before after state split passed
        cases before with
        | nil =>
            cases passed
            exact init
        | cons first before =>
            rw [List.cons_append, List.cons.injEq] at split
            rw [follow, ← split.1, stepped] at passed
            have holds := (kept start label next init stepped).mpr holdsFirst
            exact (ih holds rest).mpr throughout before after state split.2 passed

/-- Assumptions that agree in every state with the invariant agree along every
run from such a state. -/
theorem throughout_congr {step : LabelledStep σ ℓ} {assumed required : σ → ℓ → Prop}
    {invariant : σ → Prop}
    (preserved : ∀ state label next, invariant state → step state label = some next →
      invariant next)
    (same : ∀ state label, invariant state → (assumed state label ↔ required state label))
    {start : σ} (init : invariant start) (labels : List ℓ) :
    Throughout step assumed start labels ↔ Throughout step required start labels := by
  induction labels generalizing start with
  | nil => rfl
  | cons label labels ih =>
      rw [Throughout, Throughout, same start label init]
      apply and_congr_right
      intro _
      cases stepped : step start label with
      | none => rfl
      | some next => exact ih (preserved start label next init stepped)

theorem throughout_true (step : LabelledStep σ ℓ) (start : σ) (labels : List ℓ) :
    Throughout step (fun _ _ => True) start labels := by
  induction labels generalizing start with
  | nil => exact trivial
  | cons label labels ih =>
      rw [Throughout]
      constructor
      · exact trivial
      · split
        · exact ih _
        · exact trivial

/-- What every step preserves holds at the end of every run. -/
theorem follow_preserves {step : LabelledStep σ ℓ} {invariant : σ → Prop}
    (preserved : ∀ state label next, invariant state → step state label = some next →
      invariant next)
    {start : σ} (init : invariant start) {labels : List ℓ} {final : σ}
    (reached : follow step start labels = some final) : invariant final := by
  apply follow_invariant _ init (throughout_true step start labels) reached
  intro state label next holds _ stepped
  exact preserved state label next holds stepped

/-- What relates the labels of a run to its state, if it holds at the start and
every step extends it. -/
theorem follow_records {step : LabelledStep σ ℓ} {start : σ} {recorded : List ℓ → σ → Prop}
    (init : recorded [] start)
    (extended : ∀ labels state label next, follow step start labels = some state →
      recorded labels state → step state label = some next → recorded (labels ++ [label]) next)
    {labels : List ℓ} {final : σ} (reached : follow step start labels = some final) :
    recorded labels final := by
  induction labels using List.reverseRecOn generalizing final with
  | nil =>
      cases reached
      exact init
  | append_singleton labels label ih =>
      rw [follow_concat] at reached
      rcases Option.bind_eq_some_iff.mp reached with ⟨state, before, stepped⟩
      exact extended labels state label final before (ih before) stepped

/-! ## Several parties -/

/-- The state of a party after one of them has moved. -/
theorem getElem?_set_cases {α : Type u} {parties : List α} {index other : Nat} {moved found : α}
    (present : (parties.set index moved)[other]? = some found) :
    (other = index ∧ found = moved) ∨ (other ≠ index ∧ parties[other]? = some found) := by
  rw [List.getElem?_set] at present
  split at present
  · rename_i same
    split at present
    · cases present
      exact Or.inl ⟨same.symm, rfl⟩
    · cases present
  · rename_i different
    exact Or.inr ⟨fun same => different same.symm, present⟩

end Bug.Transition
