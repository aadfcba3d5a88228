import Bug.Encoding.PathPattern

/-!
# Templates

A template marks keys with brackets.  Executing it replaces every key by the datum
of its name, from left to right, and leaves everything else as it is.  A strict
executor throws on the first key without a datum.
-/

namespace Bug.Frontend

open Bug.Encoding

/-- The names of `charWrapperRegex`. -/
inductive CharWrapper where
  | parentheses
  | squareBrackets
  deriving DecidableEq

namespace CharWrapper

def opening : CharWrapper → Char
  | parentheses => '{'
  | squareBrackets => '['

def closing : CharWrapper → Char
  | parentheses => '}'
  | squareBrackets => ']'

/-- The character class of a key. -/
def isKey (wrapper : CharWrapper) (char : Char) : Bool :=
  char ≠ wrapper.opening ∧ char ≠ wrapper.closing

/-- The match of the regular expression at the start of a text: the key, and what
follows the match. -/
def exec (wrapper : CharWrapper) : List Char → Option (List Char × List Char)
  | [] => none
  | char :: chars =>
      if char = wrapper.opening then
        match chars.takeWhile wrapper.isKey, chars.dropWhile wrapper.isKey with
        | first :: key, last :: rest =>
            if last = wrapper.closing then some (first :: key, rest) else none
        | _, _ => none
      else
        none

theorem length_lt_of_exec {wrapper : CharWrapper} {char : Char} {chars key rest : List Char}
    (found : wrapper.exec (char :: chars) = some (key, rest)) : rest.length < chars.length + 1 := by
  simp only [exec] at found
  split at found
  · split at found
    · rename_i matched left
      split at found
      · cases found
        have whole := congrArg List.length (List.takeWhile_append_dropWhile (p := wrapper.isKey)
          (l := chars))
        rw [List.length_append, left, List.length_cons] at whole
        omega
      · cases found
    · cases found
  · cases found

theorem exec_of_ne {wrapper : CharWrapper} {char : Char} (plain : char ≠ wrapper.opening)
    (chars : List Char) : wrapper.exec (char :: chars) = none := by
  rw [exec, if_neg plain]

/-- A wrapped key is matched. -/
theorem exec_key {wrapper : CharWrapper} {key : List Char} (nonempty : key ≠ [])
    (inside : ∀ char ∈ key, wrapper.isKey char = true) (rest : List Char) :
    wrapper.exec (wrapper.opening :: (key ++ wrapper.closing :: rest)) = some (key, rest) := by
  have delimiter : ∀ char ∈ (wrapper.closing :: rest).head?, wrapper.isKey char = false := by
    intro char isHead
    cases isHead
    simp [isKey]
  cases key with
  | nil => exact absurd rfl nonempty
  | cons first key =>
      rw [exec, if_pos rfl, takeWhile_delimited inside delimiter,
        dropWhile_delimited inside delimiter]
      exact if_pos rfl

end CharWrapper

structure TemplateExecutor where
  template : String
  charWrapper : CharWrapper
  strict : Bool

/-- `createTemplateExecutor` with its default options. -/
def createTemplateExecutor (template : String) : TemplateExecutor where
  template := template
  charWrapper := .parentheses
  strict := true

namespace TemplateExecutor

/-- The replacement of a key.  A datum that is missing is printed as undefined,
unless the executor is strict. -/
def replacement (executor : TemplateExecutor) (data : String → Option String) (key : String) :
    Except String String :=
  match data key with
  | some "" => if executor.strict then .error s!"missing data for key {key}" else .ok ""
  | some datum => .ok datum
  | none => if executor.strict then .error s!"missing data for key {key}" else .ok "undefined"

/-- `String.prototype.replace` for every match, from left to right. -/
def replace (executor : TemplateExecutor) (data : String → Option String) :
    List Char → Except String (List Char)
  | [] => .ok []
  | char :: chars =>
      match _found : executor.charWrapper.exec (char :: chars) with
      | some (key, rest) => do
          let datum ← executor.replacement data (String.ofList key)
          let replaced ← replace executor data rest
          return datum.toList ++ replaced
      | none => do
          let replaced ← replace executor data chars
          return char :: replaced
termination_by chars => chars.length
decreasing_by
  · exact CharWrapper.length_lt_of_exec _found
  · exact Nat.lt_succ_self _

def execute (executor : TemplateExecutor) (data : String → Option String) :
    Except String String :=
  (executor.replace data executor.template.toList).map String.ofList

/-! ## Templates by their parts -/

variable (executor : TemplateExecutor) (data : String → Option String)

theorem replace_nil : executor.replace data [] = .ok [] := by
  rw [replace]

theorem replace_key {key : List Char} (nonempty : key ≠ [])
    (inside : ∀ char ∈ key, executor.charWrapper.isKey char = true) (rest : List Char) :
    executor.replace data
        (executor.charWrapper.opening :: (key ++ executor.charWrapper.closing :: rest)) =
      (do
        let datum ← executor.replacement data (String.ofList key)
        let replaced ← executor.replace data rest
        return datum.toList ++ replaced) := by
  have found := CharWrapper.exec_key nonempty inside rest
  rw [replace]
  split
  · rename_i otherKey otherRest matched
    cases found.symm.trans matched
    rfl
  · rename_i unmatched
    cases found.symm.trans unmatched

theorem replace_char {char : Char} (plain : char ≠ executor.charWrapper.opening)
    (rest : List Char) :
    executor.replace data (char :: rest) =
      (do
        let replaced ← executor.replace data rest
        return char :: replaced) := by
  have unfound := CharWrapper.exec_of_ne plain rest
  rw [replace]
  split
  · rename_i key otherRest matched
    cases unfound.symm.trans matched
  · rfl

/-- Text without an opening bracket stays as it is. -/
theorem replace_text {text : List Char}
    (plain : ∀ char ∈ text, char ≠ executor.charWrapper.opening) {rest replaced : List Char}
    (replacedRest : executor.replace data rest = .ok replaced) :
    executor.replace data (text ++ rest) = .ok (text ++ replaced) := by
  induction text with
  | nil => exact replacedRest
  | cons char text ih =>
      rcases List.forall_mem_cons.mp plain with ⟨plainFirst, plainRest⟩
      rw [List.cons_append, replace_char executor data plainFirst, ih plainRest]
      rfl

end TemplateExecutor

end Bug.Frontend
