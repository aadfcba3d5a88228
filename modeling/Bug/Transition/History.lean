import Mathlib.Data.List.Basic

/-!
# Order in a history

A history is the list of what happened.  A run extends it at its end; the order
of two entries in an extended history is decided by which of the two parts they
are in.
-/

namespace Bug.Transition

universe u

variable {α : Type u} {history recent : List α} {early late : α}

/-- Some occurrence of the late entry comes after the early one. -/
def HappensBefore (history : List α) (early late : α) : Prop :=
  ∃ before after, history = before ++ late :: after ∧ early ∈ before

/-- Every occurrence of the late entry comes after the early one. -/
def Preceded (history : List α) (early late : α) : Prop :=
  ∀ before after, history = before ++ late :: after → early ∈ before

theorem append_eq_split_iff {before after : List α} {entry : α} :
    history ++ recent = before ++ entry :: after ↔
      (∃ rest, history = before ++ entry :: rest ∧ after = rest ++ recent) ∨
      (∃ front, before = history ++ front ∧ recent = front ++ entry :: after) := by
  constructor
  · intro equal
    rcases List.append_eq_append_iff.mp equal with
      ⟨front, extended, split⟩ | ⟨rest, extended, split⟩
    · right
      exact ⟨front, extended, split⟩
    · cases rest with
      | nil =>
          right
          refine ⟨[], ?_, split.symm⟩
          rw [extended, List.append_nil, List.append_nil]
      | cons first rest =>
          rw [List.cons_append, List.cons.injEq] at split
          left
          exact ⟨rest, by rw [extended, split.1], split.2⟩
  · rintro (⟨rest, rfl, rfl⟩ | ⟨front, rfl, rfl⟩)
    · simp
    · simp

theorem HappensBefore.mem_early (ordered : HappensBefore history early late) :
    early ∈ history := by
  rcases ordered with ⟨before, after, rfl, earlier⟩
  exact List.mem_append_left _ earlier

theorem HappensBefore.mem_late (ordered : HappensBefore history early late) :
    late ∈ history := by
  rcases ordered with ⟨before, after, rfl, _⟩
  exact List.mem_append_right _ List.mem_cons_self

theorem happensBefore_append_iff :
    HappensBefore (history ++ recent) early late ↔
      HappensBefore history early late ∨ (early ∈ history ∧ late ∈ recent) ∨
        HappensBefore recent early late := by
  constructor
  · rintro ⟨before, after, equal, earlier⟩
    rcases append_eq_split_iff.mp equal with ⟨rest, split, _⟩ | ⟨front, rfl, split⟩
    · left
      exact ⟨before, rest, split, earlier⟩
    · right
      rcases List.mem_append.mp earlier with old | new
      · left
        rw [split]
        exact ⟨old, List.mem_append_right _ List.mem_cons_self⟩
      · right
        exact ⟨front, after, split, new⟩
  · rintro (⟨before, after, rfl, earlier⟩ | ⟨old, present⟩ | ⟨before, after, rfl, earlier⟩)
    · exact ⟨before, after ++ recent, by simp, earlier⟩
    · rcases List.append_of_mem present with ⟨front, after, rfl⟩
      exact ⟨history ++ front, after, by simp, List.mem_append_left _ old⟩
    · exact ⟨history ++ before, after, by simp, List.mem_append_right _ earlier⟩

theorem preceded_nil (early late : α) : Preceded [] early late := by
  intro before after equal
  cases before with
  | nil => cases equal
  | cons first before => cases equal

/-- What is preceded stays preceded when the new occurrences are. -/
theorem Preceded.append (old : Preceded history early late)
    (new : late ∈ recent → early ∈ history) : Preceded (history ++ recent) early late := by
  intro before after equal
  rcases append_eq_split_iff.mp equal with ⟨rest, split, _⟩ | ⟨front, rfl, split⟩
  · exact old before rest split
  · apply List.mem_append_left
    apply new
    rw [split]
    exact List.mem_append_right _ List.mem_cons_self

end Bug.Transition
