import Mathlib.Data.List.Nodup

/-!
# Entities by their key

A collection of entities holds at most one value under each key and remembers
the order in which the keys were added.  Adding skips a key that is present,
updating ignores a key that is not.  Every operation is described by what it
leaves under each key.
-/

namespace Bug

universe u v

/-- The entries of a list without the later copies of an entry. -/
def uniqOnto {α : Type u} [DecidableEq α] : List α → List α → List α
  | seen, [] => seen
  | seen, entry :: entries =>
      if entry ∈ seen then uniqOnto seen entries else uniqOnto (seen ++ [entry]) entries

def uniq {α : Type u} [DecidableEq α] (entries : List α) : List α :=
  uniqOnto [] entries

section Uniq

variable {α : Type u} [DecidableEq α]

theorem nodup_uniqOnto {seen : List α} (distinct : seen.Nodup) (entries : List α) :
    (uniqOnto seen entries).Nodup := by
  induction entries generalizing seen with
  | nil => exact distinct
  | cons entry entries ih =>
      rw [uniqOnto]
      split
      · exact ih distinct
      · rename_i unseen
        exact ih (List.nodup_append_comm.mp (List.nodup_cons.mpr ⟨unseen, distinct⟩))

theorem mem_uniqOnto_iff {seen entries : List α} {entry : α} :
    entry ∈ uniqOnto seen entries ↔ entry ∈ seen ∨ entry ∈ entries := by
  induction entries generalizing seen with
  | nil => simp [uniqOnto]
  | cons first entries ih =>
      rw [uniqOnto]
      split
      · rename_i present
        rw [ih, List.mem_cons]
        constructor
        · rintro (seen | later)
          · exact Or.inl seen
          · exact Or.inr (Or.inr later)
        · rintro (seen | rfl | later)
          · exact Or.inl seen
          · exact Or.inl present
          · exact Or.inr later
      · rw [ih, List.mem_append, List.mem_singleton, List.mem_cons, or_assoc]

theorem nodup_uniq (entries : List α) : (uniq entries).Nodup :=
  nodup_uniqOnto List.nodup_nil entries

theorem mem_uniq_iff {entries : List α} {entry : α} : entry ∈ uniq entries ↔ entry ∈ entries := by
  rw [uniq, mem_uniqOnto_iff]
  simp

end Uniq

/-- Entities in the order of their keys, no key twice. -/
structure Entities (ι : Type u) (β : Type v) where
  entries : List (ι × β)
  distinct : (entries.map Prod.fst).Nodup

namespace Entities

variable {ι : Type u} {β : Type v} [DecidableEq ι]

def empty : Entities ι β where
  entries := []
  distinct := List.nodup_nil

def keys (entities : Entities ι β) : List ι :=
  entities.entries.map Prod.fst

def lookup (entities : Entities ι β) (key : ι) : Option β :=
  entities.entries.lookup key

/-- Change the values, not the keys. -/
def mapValues (entities : Entities ι β) (change : ι → β → β) : Entities ι β where
  entries := entities.entries.map fun entry => (entry.1, change entry.1 entry.2)
  distinct := by
    rw [List.map_map]
    exact entities.distinct

/-- Add a value unless its key is present. -/
def addOne (entities : Entities ι β) (key : ι) (value : β) : Entities ι β where
  entries :=
    if key ∈ entities.keys then entities.entries else entities.entries ++ [(key, value)]
  distinct := by
    split
    · exact entities.distinct
    · rename_i absent
      rw [List.map_append, List.map_singleton]
      exact List.nodup_append_comm.mp (List.nodup_cons.mpr ⟨absent, entities.distinct⟩)

def addMany (entities : Entities ι β) (added : List (ι × β)) : Entities ι β :=
  added.foldl (fun entities entry => entities.addOne entry.1 entry.2) entities

def removeOne (entities : Entities ι β) (key : ι) : Entities ι β where
  entries := entities.entries.filter fun entry => entry.1 ≠ key
  distinct := (List.filter_sublist.map Prod.fst).nodup entities.distinct

/-- Change the value under a key where it stands. -/
def updateOne (entities : Entities ι β) (key : ι) (change : β → β) : Entities ι β :=
  entities.mapValues fun other value => if other = key then change value else value

/-- Change the value under a key and move it to the end. -/
def replaceOne (entities : Entities ι β) (key : ι) (change : β → β) : Entities ι β :=
  match entities.lookup key with
  | none => entities
  | some value => (entities.removeOne key).addOne key (change value)

def updateMany (entities : Entities ι β) (updates : List (ι × (β → β))) : Entities ι β :=
  updates.foldl (fun entities update => entities.updateOne update.1 update.2) entities

def replaceMany (entities : Entities ι β) (updates : List (ι × (β → β))) : Entities ι β :=
  updates.foldl (fun entities update => entities.replaceOne update.1 update.2) entities

/-- Add a value, or put it in the place of the one under its key. -/
def upsertOne (entities : Entities ι β) (key : ι) (value : β) : Entities ι β :=
  (entities.updateOne key fun _ => value).addOne key value

def upsertMany (entities : Entities ι β) (values : List (ι × β)) : Entities ι β :=
  values.foldl (fun entities entry => entities.upsertOne entry.1 entry.2) entities

/-- Collect a list, where a later value replaces an earlier one of its key. -/
def ofList (values : List (ι × β)) : Entities ι β :=
  empty.upsertMany values

/-! ## What is left under each key -/

theorem mem_keys_iff {entities : Entities ι β} {key : ι} :
    key ∈ entities.keys ↔ ∃ value, entities.lookup key = some value := by
  rw [keys, lookup]
  induction entities.entries with
  | nil => simp
  | cons entry entries ih =>
      rw [List.map_cons, List.mem_cons, List.lookup_cons]
      by_cases same : key = entry.1
      · simp [same]
      · simp [same, ih, beq_false_of_ne same]

theorem mem_iff_lookup {entries : List (ι × β)} (distinct : (entries.map Prod.fst).Nodup)
    {key : ι} {value : β} : (key, value) ∈ entries ↔ entries.lookup key = some value := by
  induction entries with
  | nil => simp
  | cons entry entries ih =>
      rcases entry with ⟨first, stored⟩
      rw [List.map_cons, List.nodup_cons] at distinct
      rw [List.mem_cons, List.lookup_cons]
      by_cases same : key = first
      · subst same
        simp only [beq_self_eq_true, Prod.mk.injEq, true_and]
        constructor
        · rintro (equal | later)
          · rw [equal]
          · exact absurd (List.mem_map_of_mem later) distinct.1
        · intro equal
          exact Or.inl (Option.some.inj equal).symm
      · simp [same, beq_false_of_ne same, ih distinct.2]

theorem mem_entries_iff {entities : Entities ι β} {key : ι} {value : β} :
    (key, value) ∈ entities.entries ↔ entities.lookup key = some value :=
  mem_iff_lookup entities.distinct

theorem lookup_map_values (entries : List (ι × β)) (change : ι → β → β) (key : ι) :
    (entries.map fun entry => (entry.1, change entry.1 entry.2)).lookup key =
      (entries.lookup key).map (change key) := by
  induction entries with
  | nil => rfl
  | cons entry entries ih =>
      rw [List.map_cons, List.lookup_cons, List.lookup_cons]
      by_cases same : key = entry.1
      · simp [same]
      · simp [beq_false_of_ne same, ih]

theorem lookup_mapValues (entities : Entities ι β) (change : ι → β → β) (key : ι) :
    (entities.mapValues change).lookup key = (entities.lookup key).map (change key) :=
  lookup_map_values entities.entries change key

theorem lookup_append_singleton (entries : List (ι × β)) (key other : ι) (value : β) :
    (entries ++ [(key, value)]).lookup other =
      (entries.lookup other).or (if other = key then some value else none) := by
  induction entries with
  | nil =>
      rw [List.nil_append, List.lookup_cons]
      by_cases same : other = key
      · simp [same]
      · simp [same, beq_false_of_ne same]
  | cons entry entries ih =>
      rw [List.cons_append, List.lookup_cons, List.lookup_cons, ih]
      cases other == entry.1 with
      | true => rfl
      | false => rfl

theorem lookup_addOne (entities : Entities ι β) (key other : ι) (value : β) :
    (entities.addOne key value).lookup other =
      (entities.lookup other).or (if other = key then some value else none) := by
  rw [lookup, addOne]
  split
  · rename_i present
    rcases mem_keys_iff.mp present with ⟨stored, found⟩
    by_cases same : other = key
    · rw [same, if_pos rfl]
      change entities.lookup key = (entities.lookup key).or (some value)
      rw [found]
      rfl
    · rw [if_neg same, Option.or_none]
      rfl
  · exact lookup_append_singleton entities.entries key other value

theorem lookup_filter_ne (entries : List (ι × β)) (key other : ι) :
    (entries.filter fun entry => entry.1 ≠ key).lookup other =
      if other = key then none else entries.lookup other := by
  induction entries with
  | nil => simp
  | cons entry entries ih =>
      rcases entry with ⟨first, value⟩
      by_cases removed : first = key
      · rw [List.filter_cons_of_neg (by simpa using removed), ih, List.lookup_cons]
        by_cases same : other = key
        · simp [same]
        · have different : other ≠ first := fun equal => same (equal.trans removed)
          simp [same, beq_false_of_ne different]
      · rw [List.filter_cons_of_pos (by simpa using removed), List.lookup_cons, ih,
          List.lookup_cons]
        by_cases found : other = first
        · have kept : other ≠ key := fun equal => removed (found.symm.trans equal)
          simp [found, found ▸ kept]
        · simp [beq_false_of_ne found]

theorem lookup_removeOne (entities : Entities ι β) (key other : ι) :
    (entities.removeOne key).lookup other =
      if other = key then none else entities.lookup other :=
  lookup_filter_ne entities.entries key other

theorem lookup_updateOne (entities : Entities ι β) (key other : ι) (change : β → β) :
    (entities.updateOne key change).lookup other =
      if other = key then (entities.lookup other).map change else entities.lookup other := by
  rw [updateOne, lookup_mapValues]
  cases entities.lookup other with
  | none => simp
  | some value =>
      by_cases same : other = key
      · simp [same]
      · simp [same]

theorem lookup_replaceOne (entities : Entities ι β) (key other : ι) (change : β → β) :
    (entities.replaceOne key change).lookup other =
      if other = key then (entities.lookup other).map change else entities.lookup other := by
  rw [replaceOne]
  split
  · rename_i absent
    split
    · rename_i same
      rw [same, absent]
      rfl
    · rfl
  · rename_i value found
    rw [lookup_addOne, lookup_removeOne]
    by_cases same : other = key
    · simp [same, found]
    · simp [same]

theorem lookup_upsertOne (entities : Entities ι β) (key other : ι) (value : β) :
    (entities.upsertOne key value).lookup other =
      if other = key then some value else entities.lookup other := by
  rw [upsertOne, lookup_addOne, lookup_updateOne]
  by_cases same : other = key
  · rw [if_pos same, if_pos same, if_pos same]
    cases entities.lookup other with
    | none => rfl
    | some stored => rfl
  · rw [if_neg same, if_neg same, if_neg same, Option.or_none]

theorem lookup_updateMany_of_not_mem {entities : Entities ι β} {updates : List (ι × (β → β))}
    {key : ι} (absent : key ∉ updates.map Prod.fst) :
    (entities.updateMany updates).lookup key = entities.lookup key := by
  induction updates generalizing entities with
  | nil => rfl
  | cons update updates ih =>
      rw [List.map_cons, List.mem_cons, not_or] at absent
      calc
        ((entities.updateOne update.1 update.2).updateMany updates).lookup key =
            (entities.updateOne update.1 update.2).lookup key := ih absent.2
        _ = entities.lookup key := by rw [lookup_updateOne, if_neg absent.1]

/-- One of several updates with different keys. -/
theorem lookup_updateMany_of_mem {entities : Entities ι β} {updates : List (ι × (β → β))}
    (distinct : (updates.map Prod.fst).Nodup) {key : ι} {change : β → β}
    (present : (key, change) ∈ updates) :
    (entities.updateMany updates).lookup key = (entities.lookup key).map change := by
  induction updates generalizing entities with
  | nil => cases present
  | cons update updates ih =>
      rw [List.map_cons, List.nodup_cons] at distinct
      rcases List.mem_cons.mp present with rfl | later
      · calc
          ((entities.updateOne key change).updateMany updates).lookup key =
              (entities.updateOne key change).lookup key :=
            lookup_updateMany_of_not_mem distinct.1
          _ = (entities.lookup key).map change := by rw [lookup_updateOne, if_pos rfl]
      · have different : key ≠ update.1 := by
          intro same
          rw [same] at later
          exact distinct.1 (List.mem_map.mpr ⟨_, later, rfl⟩)
        calc
          ((entities.updateOne update.1 update.2).updateMany updates).lookup key =
              ((entities.updateOne update.1 update.2).lookup key).map change :=
            ih distinct.2 later
          _ = (entities.lookup key).map change := by rw [lookup_updateOne, if_neg different]

theorem lookup_addMany (entities : Entities ι β) (added : List (ι × β)) (key : ι) :
    (entities.addMany added).lookup key = (entities.lookup key).or (added.lookup key) := by
  induction added generalizing entities with
  | nil => simp [addMany]
  | cons entry added ih =>
      calc
        ((entities.addOne entry.1 entry.2).addMany added).lookup key =
            ((entities.addOne entry.1 entry.2).lookup key).or (added.lookup key) := ih _
        _ = (entities.lookup key).or ((entry :: added).lookup key) := by
          rw [lookup_addOne, Option.or_assoc, List.lookup_cons]
          by_cases same : key = entry.1
          · simp [same]
          · simp [same, beq_false_of_ne same]

/-- Adding changes no value that is there. -/
theorem lookup_addMany_of_lookup {entities : Entities ι β} {key : ι} {value : β}
    (found : entities.lookup key = some value) (added : List (ι × β)) :
    (entities.addMany added).lookup key = some value := by
  rw [lookup_addMany, found]
  rfl

/-- After an addition there is a value, the new one or an older one. -/
theorem exists_lookup_addOne (entities : Entities ι β) (key : ι) (value : β) :
    ∃ stored, (entities.addOne key value).lookup key = some stored := by
  rw [lookup_addOne, if_pos rfl]
  cases entities.lookup key with
  | none => exact ⟨value, rfl⟩
  | some stored => exact ⟨stored, rfl⟩

theorem mem_keys_addMany_iff {entities : Entities ι β} {added : List (ι × β)} {key : ι} :
    key ∈ (entities.addMany added).keys ↔ key ∈ entities.keys ∨ key ∈ added.map Prod.fst := by
  induction added generalizing entities with
  | nil => simp [addMany]
  | cons entry added ih =>
      rw [addMany, List.foldl_cons]
      refine ih.trans ?_
      rw [mem_keys_iff, mem_keys_iff, lookup_addOne, List.map_cons, List.mem_cons]
      by_cases same : key = entry.1
      · cases entities.lookup key with
        | none => simp [same]
        | some value => simp
      · simp [same]

theorem exists_lookup_addMany {entities : Entities ι β} {added : List (ι × β)} {key : ι}
    (present : key ∈ added.map Prod.fst) :
    ∃ stored, (entities.addMany added).lookup key = some stored :=
  mem_keys_iff.mp (mem_keys_addMany_iff.mpr (Or.inr present))

theorem entries_addOne (entities : Entities ι β) (key : ι) (value : β) :
    (entities.addOne key value).entries =
      entities.entries ++ [(key, value)].filter fun entry => entry.1 ∉ entities.keys := by
  rw [addOne]
  by_cases present : key ∈ entities.keys
  · simp [present]
  · simp [present]

/-- The added entries follow in their order, those of a key that is present left out. -/
theorem entries_addMany (entities : Entities ι β) {added : List (ι × β)}
    (distinct : (added.map Prod.fst).Nodup) :
    (entities.addMany added).entries =
      entities.entries ++ added.filter fun entry => entry.1 ∉ entities.keys := by
  induction added generalizing entities with
  | nil => rw [addMany, List.foldl_nil, List.filter_nil, List.append_nil]
  | cons entry added inductionHypothesis =>
      rw [List.map_cons, List.nodup_cons] at distinct
      have rest := inductionHypothesis (entities.addOne entry.1 entry.2) distinct.2
      have others : (added.filter fun other => other.1 ∉ (entities.addOne entry.1 entry.2).keys) =
          added.filter fun other => other.1 ∉ entities.keys := by
        apply List.filter_congr
        intro other present
        have differ : other.1 ≠ entry.1 := by
          intro same
          exact distinct.1 (same ▸ List.mem_map_of_mem present)
        have added : other.1 ∈ (entities.addMany [entry]).keys ↔ other.1 ∈ entities.keys := by
          rw [mem_keys_addMany_iff, List.map_singleton, List.mem_singleton, or_iff_left differ]
        exact decide_eq_decide.mpr (not_congr added)
      rw [others, entries_addOne, List.append_assoc, ← List.filter_append] at rest
      exact rest

theorem entries_upsertOne_of_not_mem {entities : Entities ι β} {key : ι}
    (absent : key ∉ entities.keys) (value : β) :
    (entities.upsertOne key value).entries = entities.entries ++ [(key, value)] := by
  have unchanged : (entities.updateOne key fun _ => value).entries = entities.entries := by
    refine Eq.trans (List.map_congr_left ?_) (List.map_id _)
    intro entry present
    have different : entry.1 ≠ key := by
      rintro rfl
      exact absent (List.mem_map_of_mem present)
    exact Prod.ext rfl (if_neg different)
  have stillAbsent : key ∉ (entities.updateOne key fun _ => value).keys := by
    rwa [keys, unchanged]
  rw [upsertOne, entries_addOne, unchanged]
  simp [stillAbsent]

theorem entries_upsertMany {entities : Entities ι β} {values : List (ι × β)}
    (distinct : (entities.keys ++ values.map Prod.fst).Nodup) :
    (entities.upsertMany values).entries = entities.entries ++ values := by
  induction values generalizing entities with
  | nil => rw [upsertMany, List.foldl_nil, List.append_nil]
  | cons entry values ih =>
      have absent : entry.1 ∉ entities.keys := by
        intro present
        exact List.disjoint_of_nodup_append distinct present List.mem_cons_self
      have added := entries_upsertOne_of_not_mem absent entry.2
      have keysAdded : (entities.upsertOne entry.1 entry.2).keys = entities.keys ++ [entry.1] := by
        rw [keys, added, List.map_append]
        rfl
      rw [List.map_cons, List.append_cons, ← keysAdded] at distinct
      have rest := ih distinct
      rw [added, List.append_assoc] at rest
      exact rest

/-- Distinct keys are collected in their order. -/
theorem entries_ofList {values : List (ι × β)} (distinct : (values.map Prod.fst).Nodup) :
    (ofList values).entries = values :=
  entries_upsertMany distinct

theorem mem_keys_upsertMany_iff {entities : Entities ι β} {values : List (ι × β)} {key : ι} :
    key ∈ (entities.upsertMany values).keys ↔ key ∈ entities.keys ∨ key ∈ values.map Prod.fst := by
  induction values generalizing entities with
  | nil => simp [upsertMany]
  | cons entry values ih =>
      rw [upsertMany, List.foldl_cons]
      refine ih.trans ?_
      rw [mem_keys_iff, mem_keys_iff, lookup_upsertOne, List.map_cons, List.mem_cons]
      by_cases same : key = entry.1
      · simp [same]
      · simp [same]

theorem mem_keys_ofList_iff {values : List (ι × β)} {key : ι} :
    key ∈ (ofList values).keys ↔ key ∈ values.map Prod.fst := by
  rw [ofList, mem_keys_upsertMany_iff]
  simp [keys, empty]

/-! ## What holds of every value -/

section Forall

variable {entities : Entities ι β} {property : ι → β → Prop}

theorem forall_addOne
    (every : ∀ key value, entities.lookup key = some value → property key value)
    {added : ι} {new : β} (holds : property added new) :
    ∀ key value, (entities.addOne added new).lookup key = some value → property key value := by
  intro key value found
  rw [lookup_addOne] at found
  rcases Option.or_eq_some_iff.mp found with old | ⟨_, fresh⟩
  · exact every key value old
  · split at fresh
    · rename_i same
      cases fresh
      rw [same]
      exact holds
    · cases fresh

theorem forall_addMany
    (every : ∀ key value, entities.lookup key = some value → property key value)
    {added : List (ι × β)} (holds : ∀ entry ∈ added, property entry.1 entry.2) :
    ∀ key value, (entities.addMany added).lookup key = some value → property key value := by
  induction added generalizing entities with
  | nil => exact every
  | cons entry added ih =>
      apply ih (forall_addOne every (holds entry List.mem_cons_self))
      intro later present
      exact holds later (List.mem_cons_of_mem _ present)

theorem forall_upsertMany
    (every : ∀ key value, entities.lookup key = some value → property key value)
    {values : List (ι × β)} (holds : ∀ entry ∈ values, property entry.1 entry.2) :
    ∀ key value, (entities.upsertMany values).lookup key = some value → property key value := by
  induction values generalizing entities with
  | nil => exact every
  | cons entry values ih =>
      apply ih
      · intro key value found
        rw [lookup_upsertOne] at found
        split at found
        · rename_i same
          cases found
          rw [same]
          exact holds entry List.mem_cons_self
        · exact every key value found
      · intro later present
        exact holds later (List.mem_cons_of_mem _ present)

theorem forall_ofList {values : List (ι × β)}
    (holds : ∀ entry ∈ values, property entry.1 entry.2) :
    ∀ key value, (ofList values).lookup key = some value → property key value := by
  apply forall_upsertMany _ holds
  intro key value found
  cases found

theorem forall_removeOne
    (every : ∀ key value, entities.lookup key = some value → property key value) (removed : ι) :
    ∀ key value, (entities.removeOne removed).lookup key = some value → property key value := by
  intro key value found
  rw [lookup_removeOne] at found
  split at found
  · cases found
  · exact every key value found

theorem forall_updateOne
    (every : ∀ key value, entities.lookup key = some value → property key value)
    {updated : ι} {change : β → β} (preserved : ∀ value, property updated value →
      property updated (change value)) :
    ∀ key value, (entities.updateOne updated change).lookup key = some value →
      property key value := by
  intro key value found
  rw [lookup_updateOne] at found
  split at found
  · rename_i same
    rcases Option.map_eq_some_iff.mp found with ⟨old, present, rfl⟩
    rw [same] at present ⊢
    exact preserved old (every updated old present)
  · exact every key value found

theorem forall_updateMany
    (every : ∀ key value, entities.lookup key = some value → property key value)
    {updates : List (ι × (β → β))} (preserved : ∀ update ∈ updates, ∀ value,
      property update.1 value → property update.1 (update.2 value)) :
    ∀ key value, (entities.updateMany updates).lookup key = some value → property key value := by
  induction updates generalizing entities with
  | nil => exact every
  | cons update updates ih =>
      apply ih (forall_updateOne every (preserved update List.mem_cons_self))
      intro later present
      exact preserved later (List.mem_cons_of_mem _ present)

theorem forall_replaceOne
    (every : ∀ key value, entities.lookup key = some value → property key value)
    {updated : ι} {change : β → β} (preserved : ∀ value, property updated value →
      property updated (change value)) :
    ∀ key value, (entities.replaceOne updated change).lookup key = some value →
      property key value := by
  intro key value found
  rw [lookup_replaceOne, ← lookup_updateOne] at found
  exact forall_updateOne every preserved key value found

theorem forall_replaceMany
    (every : ∀ key value, entities.lookup key = some value → property key value)
    {updates : List (ι × (β → β))} (preserved : ∀ update ∈ updates, ∀ value,
      property update.1 value → property update.1 (update.2 value)) :
    ∀ key value, (entities.replaceMany updates).lookup key = some value → property key value := by
  induction updates generalizing entities with
  | nil => exact every
  | cons update updates ih =>
      apply ih (forall_replaceOne every (preserved update List.mem_cons_self))
      intro later present
      exact preserved later (List.mem_cons_of_mem _ present)

end Forall

end Entities

end Bug
