import Mathlib.Data.List.Basic

/-!
# Path patterns

A path is a sequence of segments, each behind a slash.  A component of a pattern
is a fixed segment, or stands for any segment that is not empty and binds it to
a name.  A path that is filled from a pattern is matched by it, with the bindings
it was filled with, and no other path has them.
-/

namespace Bug.Encoding

universe u

/-! ## Delimited text -/

section Delimited

variable {α : Type u} {p : α → Bool} {segment rest : List α}

theorem takeWhile_delimited (inside : ∀ entry ∈ segment, p entry = true)
    (delimiter : ∀ entry ∈ rest.head?, p entry = false) :
    (segment ++ rest).takeWhile p = segment := by
  rw [List.takeWhile_append_of_pos inside]
  cases rest with
  | nil => rw [List.takeWhile_nil, List.append_nil]
  | cons entry rest =>
      rw [List.takeWhile_cons, delimiter entry rfl]
      exact List.append_nil segment

theorem dropWhile_delimited (inside : ∀ entry ∈ segment, p entry = true)
    (delimiter : ∀ entry ∈ rest.head?, p entry = false) :
    (segment ++ rest).dropWhile p = rest := by
  rw [List.dropWhile_append_of_pos inside]
  cases rest with
  | nil => rfl
  | cons entry rest =>
      rw [List.dropWhile_cons, delimiter entry rfl]
      rfl

end Delimited

/-! ## Patterns -/

inductive Component where
  | fixed (segment : String)
  | dynamic (name : String)
  deriving DecidableEq

/-- What the dynamic components are bound to, by their names. -/
abbrev Bindings := List (String × String)

namespace Component

/-- The segment of a component whose names are replaced. -/
def fill (value : String → String) : Component → List Char
  | fixed segment => segment.toList
  | dynamic name => (value name).toList

/-- What a component binds, if it accepts a segment. -/
def accept : Component → List Char → Option Bindings
  | fixed text, segment => if segment = text.toList then some [] else none
  | dynamic name, segment => if segment = [] then none else some [(name, String.ofList segment)]

end Component

/-- Match a whole path from its start to its end. -/
def matchPath : List Component → List Char → Option Bindings
  | [], [] => some []
  | [], _ :: _ => none
  | component :: components, '/' :: chars => do
      let first ← component.accept (chars.takeWhile (· ≠ '/'))
      let rest ← matchPath components (chars.dropWhile (· ≠ '/'))
      return first ++ rest
  | _ :: _, _ => none

/-- The segments of a path, each behind a slash. -/
def joinSegments (segments : List (List Char)) : List Char :=
  segments.flatMap fun segment => '/' :: segment

/-- Match the components one by one. -/
def matchSegments : List Component → List (List Char) → Option Bindings
  | [], [] => some []
  | component :: components, segment :: segments => do
      let first ← component.accept segment
      let rest ← matchSegments components segments
      return first ++ rest
  | [], _ :: _ => none
  | _ :: _, [] => none

theorem joinSegments_cons (segment : List Char) (segments : List (List Char)) :
    joinSegments (segment :: segments) = '/' :: (segment ++ joinSegments segments) := by
  rw [joinSegments, List.flatMap_cons]
  rfl

theorem head?_joinSegments {segments : List (List Char)} :
    ∀ char ∈ (joinSegments segments).head?, decide (char ≠ '/') = false := by
  intro char isHead
  cases segments with
  | nil => cases isHead
  | cons segment segments =>
      cases isHead
      rfl

/-- Segments without a slash are matched one by one. -/
theorem matchPath_joinSegments {segments : List (List Char)}
    (plain : ∀ segment ∈ segments, '/' ∉ segment) (components : List Component) :
    matchPath components (joinSegments segments) = matchSegments components segments := by
  induction components generalizing segments with
  | nil =>
      cases segments with
      | nil => rfl
      | cons segment segments => rfl
  | cons component components ih =>
      cases segments with
      | nil => rfl
      | cons segment segments =>
          rcases List.forall_mem_cons.mp plain with ⟨plainFirst, plainRest⟩
          have inside : ∀ char ∈ segment, decide (char ≠ '/') = true := by
            intro char present
            apply decide_eq_true
            rintro rfl
            exact plainFirst present
          rw [joinSegments_cons, matchPath, takeWhile_delimited inside head?_joinSegments,
            dropWhile_delimited inside head?_joinSegments, ih plainRest, matchSegments]

/-! ## Filled patterns -/

/-- The names of a pattern with their values. -/
def bindings (value : String → String) (components : List Component) : Bindings :=
  components.filterMap fun component =>
    match component with
    | .fixed _ => none
    | .dynamic name => some (name, value name)

/-- A filled pattern is matched, and bound to what it was filled with. -/
theorem matchSegments_fill {value : String → String} {components : List Component}
    (nonempty : ∀ name, .dynamic name ∈ components → value name ≠ "") :
    matchSegments components (components.map (Component.fill value)) =
      some (bindings value components) := by
  induction components with
  | nil => rfl
  | cons component components ih =>
      have rest := ih fun name present => nonempty name (List.mem_cons_of_mem _ present)
      rw [List.map_cons, matchSegments, rest, bindings]
      cases component with
      | fixed segment => simp [Component.accept, Component.fill, bindings]
      | dynamic name =>
          have filled := nonempty name List.mem_cons_self
          simp [Component.accept, Component.fill, bindings, filled]

end Bug.Encoding
