import Mathlib.Data.List.AList
import Mathlib.Data.List.Induction

/-!
# Children grouped by their parents

A child names its parent by a key.  The groups are filled in one pass over the
children, through a table of the positions of the parents.  If the keys of the
parents are distinct, then every parent gets its own children, in their order.
-/

namespace Bug.Grouped

universe u v w

variable {α : Type u} {β : Type v} {κ : Type w} [DecidableEq κ]

/-- The position of every parent under its key. -/
def indices (key : α → κ) (parents : List α) : AList fun _ : κ => Nat :=
  parents.zipIdx.foldl (fun table parent => table.insert (key parent.1) parent.2) ∅

/-- Append a child to the group of its parent, which has to be in the table. -/
def push (table : AList fun _ : κ => Nat) (foreignKey : β → κ) (groups : List (List β))
    (child : β) : Option (List (List β)) :=
  (table.lookup (foreignKey child)).map fun index =>
    groups.modify index fun group => group ++ [child]

/-- `grouped_by`: the children of every parent, in the order of the parents. -/
def groupedBy (key : α → κ) (foreignKey : β → κ) (children : List β) (parents : List α) :
    Option (List (List β)) :=
  children.foldlM (push (indices key parents) foreignKey) (parents.map fun _ => [])

theorem indices_concat (key : α → κ) (parents : List α) (parent : α) :
    indices key (parents ++ [parent]) =
      (indices key parents).insert (key parent) parents.length := by
  rw [indices, List.zipIdx_append, List.foldl_append, Nat.zero_add]
  rfl

theorem lookup_indices {key : α → κ} {parents : List α} (distinct : (parents.map key).Nodup)
    {index : Nat} {parent : α} (found : parents[index]? = some parent) :
    (indices key parents).lookup (key parent) = some index := by
  induction parents using List.reverseRecOn with
  | nil => cases found
  | append_singleton parents last ih =>
      rw [List.map_append, List.map_singleton, ← List.concat_eq_append, List.nodup_concat]
        at distinct
      rw [indices_concat]
      rw [List.getElem?_append] at found
      split at found
      · have present : key parent ∈ parents.map key :=
          List.mem_map_of_mem (List.mem_of_getElem? found)
        have different : key parent ≠ key last := by
          intro same
          exact distinct.1 (same ▸ present)
        rw [AList.lookup_insert_ne different]
        exact ih distinct.2 found
      · rename_i outside
        have isLast : index - parents.length = 0 := by
          rcases List.getElem?_eq_some_iff.mp found with ⟨bound, _⟩
          exact Nat.lt_one_iff.mp bound
        rw [isLast] at found
        cases found
        rw [AList.lookup_insert]
        congr 1
        omega

/-- Appending a child to the group of its parent. -/
theorem modify_filter {key : α → κ} {foreignKey : β → κ} {parents : List α}
    (distinct : (parents.map key).Nodup) {index : Nat} {parent : α}
    (found : parents[index]? = some parent) {child : β} (belongs : foreignKey child = key parent)
    (children : List β) :
    (parents.map fun parent => children.filter fun child => foreignKey child = key parent).modify
        index (fun group => group ++ [child]) =
      parents.map fun parent =>
        (children ++ [child]).filter fun child => foreignKey child = key parent := by
  apply List.ext_getElem?
  intro other
  rw [List.getElem?_modify, List.getElem?_map, List.getElem?_map]
  cases others : parents[other]? with
  | none => rfl
  | some candidate =>
      simp only [Option.map_some, List.filter_append]
      by_cases same : index = other
      · subst same
        cases others.symm.trans found
        simp [belongs]
      · have different : foreignKey child ≠ key candidate := by
          intro alsoBelongs
          have again := lookup_indices distinct others
          rw [← alsoBelongs, belongs, lookup_indices distinct found] at again
          exact same (Option.some.inj again)
        simp [same, different]

/-- The groups are the children of the parents. -/
theorem groupedBy_eq {key : α → κ} {foreignKey : β → κ} {parents : List α}
    (distinct : (parents.map key).Nodup) {children : List β}
    (known : ∀ child ∈ children, foreignKey child ∈ parents.map key) :
    groupedBy key foreignKey children parents =
      some (parents.map fun parent =>
        children.filter fun child => foreignKey child = key parent) := by
  induction children using List.reverseRecOn with
  | nil => rfl
  | append_singleton children child ih =>
      rw [groupedBy, List.foldlM_append]
      have before := ih fun other present => known other (List.mem_append_left _ present)
      rw [groupedBy] at before
      rw [before]
      have present := known child (List.mem_append_right _ List.mem_cons_self)
      rcases List.mem_map.mp present with ⟨parent, isParent, belongs⟩
      rcases List.mem_iff_getElem?.mp isParent with ⟨index, found⟩
      have position : (indices key parents).lookup (foreignKey child) = some index := by
        rw [← belongs]
        exact lookup_indices distinct found
      simp only [Option.bind_eq_bind, Option.bind_some, List.foldlM_cons, List.foldlM_nil, push,
        position, Option.map_some, Option.pure_def]
      rw [modify_filter distinct found belongs.symm]

end Bug.Grouped
