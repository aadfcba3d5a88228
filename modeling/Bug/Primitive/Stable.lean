import Mathlib.Data.List.Sort

/-!
# Stable sorting

Sorting by a coarse key leaves entries of the same key in the order in which they
came.  The result is ordered by a finer measure exactly when they came in the
order of that measure.
-/

namespace Bug.Stable

universe u v w

variable {α : Type u}

theorem pairwise_orderedInsert {r s : α → α → Prop} [DecidableRel r] [IsTrans α s] {entry : α}
    {entries : List α} (sorted : entries.Pairwise s)
    (before : ∀ other ∈ entries, ¬r entry other → s other entry)
    (after : ∀ other ∈ entries, r entry other → s entry other) :
    (entries.orderedInsert r entry).Pairwise s := by
  induction entries with
  | nil => exact List.pairwise_singleton s entry
  | cons first entries inductionHypothesis =>
      rcases List.forall_mem_cons.mp before with ⟨beforeFirst, beforeRest⟩
      rcases List.forall_mem_cons.mp after with ⟨afterFirst, afterRest⟩
      rcases List.pairwise_cons.mp sorted with ⟨firstSorted, restSorted⟩
      rw [List.orderedInsert_cons]
      split
      · rename_i inserted
        refine List.pairwise_cons.mpr ⟨?_, sorted⟩
        rw [List.forall_mem_cons]
        constructor
        · exact afterFirst inserted
        · intro other present
          exact IsTrans.trans _ _ _ (afterFirst inserted) (firstSorted other present)
      · rename_i passed
        refine List.pairwise_cons.mpr ⟨?_, inductionHypothesis restSorted beforeRest afterRest⟩
        intro other present
        cases (List.mem_orderedInsert r).mp present with
        | inl isEntry =>
            rw [isEntry]
            exact beforeFirst passed
        | inr inRest => exact firstSorted other inRest

section Keys

variable {κ : Type v} {τ : Type w} [LinearOrder κ] [LinearOrder τ]
variable (key : α → κ) (time : α → τ)

/-- Entries of the same key are in the order of their times. -/
def OrderedWithin (entries : List α) : Prop :=
  entries.Pairwise fun first second => key first = key second → time first ≤ time second

/-- Sorting by the key sorts by the time. -/
theorem pairwise_insertionSort_iff
    (monotone : ∀ first second, key first < key second → time first ≤ time second)
    (entries : List α) :
    (entries.insertionSort fun first second => key first ≤ key second).Pairwise
        (fun first second => time first ≤ time second) ↔
      OrderedWithin key time entries := by
  constructor
  · intro sorted
    rw [OrderedWithin, List.pairwise_iff_forall_sublist]
    intro first second sublist sameKey
    exact List.pairwise_iff_forall_sublist.mp sorted
      (List.pair_sublist_insertionSort sameKey.le sublist)
  · intro within
    induction entries with
    | nil => exact List.Pairwise.nil
    | cons entry entries inductionHypothesis =>
        rcases List.pairwise_cons.mp within with ⟨entryWithin, restWithin⟩
        have : IsTrans α fun first second => time first ≤ time second :=
          ⟨fun _ _ _ => le_trans⟩
        rw [List.insertionSort_cons]
        apply pairwise_orderedInsert (inductionHypothesis restWithin)
        · intro other _ passed
          exact monotone other entry (not_le.mp passed)
        · intro other present inserted
          cases inserted.lt_or_eq with
          | inl earlier => exact monotone entry other earlier
          | inr sameKey =>
              exact entryWithin other ((List.mem_insertionSort _).mp present) sameKey

end Keys

end Bug.Stable
