import Bug.Transition.Labelled
import Mathlib.Data.List.Forall2
import Mathlib.Logic.Relation

/-!
# Simulation by labelled runs

A system is simulated by another when each of its steps, from related states, is
matched by a run of the other that leads to related states again.  Then every
run of the one is matched by a run of the other.  What is under way in related
states is related entry by entry.
-/

namespace Bug.Transition

universe u v w

variable {σ : Type u} {ℓ : Type v} {τ : Type w}

/-- A run of a run's labels and of more labels. -/
theorem follow_append (step : LabelledStep σ ℓ) (start : σ) (before after : List ℓ) :
    follow step start (before ++ after) =
      (follow step start before).bind fun state => follow step state after := by
  induction before generalizing start with
  | nil => rfl
  | cons label before ih =>
      rw [List.cons_append, follow, follow, Option.bind_assoc]
      apply congrArg
      funext next
      exact ih next

/-- Each step is matched by a run. -/
def Matches (step : LabelledStep σ ℓ) (advance : τ → τ → Prop) (related : τ → σ → Prop) : Prop :=
  ∀ concrete concrete' abstract, related concrete abstract → advance concrete concrete' →
    ∃ labels abstract', follow step abstract labels = some abstract' ∧ related concrete' abstract'

/-- If each step is matched by a run, so is each run. -/
theorem Matches.follow {step : LabelledStep σ ℓ} {advance : τ → τ → Prop}
    {related : τ → σ → Prop} (matched : Matches step advance related) {concrete concrete' : τ}
    (run : Relation.ReflTransGen advance concrete concrete') {abstract : σ}
    (start : related concrete abstract) :
    ∃ labels abstract', follow step abstract labels = some abstract' ∧
      related concrete' abstract' := by
  induction run with
  | refl => exact ⟨[], abstract, rfl, start⟩
  | tail before last ih =>
      rcases ih with ⟨labels, middle, followed, relatedMiddle⟩
      rcases matched _ _ middle relatedMiddle last with ⟨more, final, continued, relatedFinal⟩
      refine ⟨labels ++ more, final, ?_, relatedFinal⟩
      rw [follow_append, followed, Option.bind_some, continued]

/-- A run of one label. -/
theorem follow_singleton (step : LabelledStep σ ℓ) (start : σ) (label : ℓ) :
    follow step start [label] = step start label := by
  exact Option.bind_fun_some (step start label)

/-! ## What is under way -/

section Underway

open List

variable {α : Type u} {β : Type v} {related : α → β → Prop} {lefts : List α} {rights : List β}

theorem getElem?_of_forall₂ (all : Forall₂ related lefts rights) {index : Nat} {left : α}
    (found : lefts[index]? = some left) :
    ∃ right, rights[index]? = some right ∧ related left right := by
  induction all generalizing index with
  | nil => cases found
  | cons head tail ih =>
      cases index with
      | zero =>
          cases found
          exact ⟨_, rfl, head⟩
      | succ index => exact ih found

theorem forall₂_eraseIdx (all : Forall₂ related lefts rights) (index : Nat) :
    Forall₂ related (lefts.eraseIdx index) (rights.eraseIdx index) := by
  induction all generalizing index with
  | nil => exact .nil
  | cons head tail ih =>
      cases index with
      | zero => exact tail
      | succ index => exact .cons head (ih index)

theorem forall₂_set (all : Forall₂ related lefts rights) (index : Nat) {left : α} {right : β}
    (entry : related left right) :
    Forall₂ related (lefts.set index left) (rights.set index right) := by
  induction all generalizing index with
  | nil => exact .nil
  | cons head tail ih =>
      cases index with
      | zero => exact .cons entry tail
      | succ index => exact .cons head (ih index)

/-- An entry is replaced by one that is related to as much. -/
theorem forall₂_set_left (all : Forall₂ related lefts rights) {index : Nat} {left left' : α}
    (found : lefts[index]? = some left)
    (kept : ∀ right, related left right → related left' right) :
    Forall₂ related (lefts.set index left') rights := by
  induction all generalizing index with
  | nil => cases found
  | cons head tail ih =>
      cases index with
      | zero =>
          cases found
          exact .cons (kept _ head) tail
      | succ index => exact .cons head (ih found)

end Underway

end Bug.Transition
