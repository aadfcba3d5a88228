import Mathlib.Data.List.AList

/-!
# Tables

What holds of every entry of a finite map survives the insertion of an entry
that has it and the removal of any entry.
-/

namespace Bug.Table

universe u v

variable {α : Type u} {β : Type v} [DecidableEq α] {table : AList fun _ : α => β}
  {property : α → β → Prop} {key : α} {value : β}

theorem mem_of_lookup (found : table.lookup key = some value) : key ∈ table := by
  apply AList.lookup_isSome.mp
  rw [found]
  rfl

theorem forall_empty (property : α → β → Prop) :
    ∀ other entry, (∅ : AList fun _ : α => β).lookup other = some entry → property other entry := by
  intro other entry found
  rw [AList.lookup_empty] at found
  cases found

theorem forall_insert
    (every : ∀ other entry, table.lookup other = some entry → property other entry)
    (inserted : property key value) :
    ∀ other entry, (table.insert key value).lookup other = some entry → property other entry := by
  intro other entry found
  by_cases same : other = key
  · subst same
    rw [AList.lookup_insert] at found
    cases found
    exact inserted
  · rw [AList.lookup_insert_ne same] at found
    exact every other entry found

theorem forall_erase (every : ∀ other entry, table.lookup other = some entry → property other entry)
    (key : α) :
    ∀ other entry, (table.erase key).lookup other = some entry → property other entry := by
  intro other entry found
  by_cases same : other = key
  · subst same
    rw [AList.lookup_erase] at found
    cases found
  · rw [AList.lookup_erase_ne same] at found
    exact every other entry found

end Bug.Table
