import Bug.Encoding.Codec

/-!
# Hexadecimal numbers

Numbers are written with the fewest lower-case digits.  Reading accepts digits
of either case behind an optional plus sign, and reports the first character
that is no digit or the digit that exceeds the bound of the result.
-/

namespace Bug.Encoding.Hex

inductive ParseIntError where
  | empty
  | invalidDigit
  | posOverflow
  deriving DecidableEq

/-- `char::to_digit(16)`. -/
def toDigit (char : Char) : Option Nat :=
  if '0' ≤ char ∧ char ≤ '9' then
    some (char.toNat - '0'.toNat)
  else if 'a' ≤ char ∧ char ≤ 'f' then
    some (char.toNat - 'a'.toNat + 10)
  else if 'A' ≤ char ∧ char ≤ 'F' then
    some (char.toNat - 'A'.toNat + 10)
  else
    none

/-- Read digits behind a number that is already read. -/
def accumulate (bound : Nat) : Nat → List Char → Except ParseIntError Nat
  | value, [] => .ok value
  | value, char :: chars =>
      match toDigit char with
      | none => .error .invalidDigit
      | some digit =>
          if value * 16 + digit < bound then
            accumulate bound (value * 16 + digit) chars
          else
            .error .posOverflow

/-- `from_str_radix(16)` of an unsigned type with the given bound. -/
def fromStrRadix (bound : Nat) : List Char → Except ParseIntError Nat
  | [] => .error .empty
  | ['+'] => .error .invalidDigit
  | ['-'] => .error .invalidDigit
  | '+' :: chars => accumulate bound 0 chars
  | chars => accumulate bound 0 chars

/-- The digits of a number, without leading zeros. -/
def digits (value : Nat) : List Char :=
  Nat.toDigits 16 value

/-- What the sixteen digits are read as, and that none of them is a sign or the
letter of a prefix. -/
theorem toDigit_digitChar {value : Nat} (bound : value < 16) :
    toDigit value.digitChar = some value ∧ value.digitChar ≠ '+' ∧ value.digitChar ≠ '-' ∧
      value.digitChar ≠ 'x' := by
  have table : ∀ digit : Fin 16,
      toDigit (Nat.digitChar digit) = some digit.val ∧ Nat.digitChar digit ≠ '+' ∧
        Nat.digitChar digit ≠ '-' ∧ Nat.digitChar digit ≠ 'x' := by decide
  exact table ⟨value, bound⟩

theorem digits_eq (value : Nat) :
    digits value =
      if value < 16 then [value.digitChar]
      else digits (value / 16) ++ [(value % 16).digitChar] :=
  Nat.toDigits_eq_if (by decide)

theorem digits_ne_nil (value : Nat) : digits value ≠ [] := by
  rw [digits_eq]
  split <;> simp

theorem ne_of_mem_digits {value : Nat} {char : Char} (present : char ∈ digits value) :
    char ≠ '+' ∧ char ≠ '-' ∧ char ≠ 'x' := by
  induction value using Nat.strongRecOn with
  | ind value ih =>
      rw [digits_eq] at present
      split at present
      · rename_i single
        rw [List.mem_singleton.mp present]
        exact (toDigit_digitChar single).2
      · rename_i several
        rcases List.mem_append.mp present with higher | last
        · exact ih (value / 16) (by omega) higher
        · rw [List.mem_singleton.mp last]
          exact (toDigit_digitChar (Nat.mod_lt _ (by decide))).2

theorem accumulate_append (bound value : Nat) (left right : List Char) :
    accumulate bound value (left ++ right) =
      (accumulate bound value left).bind fun read => accumulate bound read right := by
  induction left generalizing value with
  | nil => rfl
  | cons char left ih =>
      rw [List.cons_append, accumulate, accumulate]
      cases toDigit char with
      | none => rfl
      | some digit =>
          by_cases fits : value * 16 + digit < bound
          · simp only [fits, if_true]
            exact ih (value * 16 + digit)
          · simp only [fits, if_false]
            rfl

/-- The digits of a number below the bound are read as that number. -/
theorem accumulate_digits {bound value : Nat} (below : value < bound) :
    accumulate bound 0 (digits value) = .ok value := by
  induction value using Nat.strongRecOn with
  | ind value ih =>
      rw [digits_eq]
      split
      · rename_i single
        simp [accumulate, toDigit_digitChar single, below]
      · rename_i several
        have last : value / 16 * 16 + value % 16 = value := by omega
        rw [accumulate_append, ih (value / 16) (by omega) (by omega)]
        simp [Except.bind, accumulate, toDigit_digitChar (Nat.mod_lt value (by decide : 0 < 16)),
          last, below]

theorem fromStrRadix_digits {bound value : Nat} (below : value < bound) :
    fromStrRadix bound (digits value) = .ok value := by
  have unsigned : ∀ char ∈ digits value, char ≠ '+' ∧ char ≠ '-' := by
    intro char present
    exact ⟨(ne_of_mem_digits present).1, (ne_of_mem_digits present).2.1⟩
  have read : fromStrRadix bound (digits value) = accumulate bound 0 (digits value) := by
    unfold fromStrRadix
    split
    · rename_i empty
      exact absurd empty (digits_ne_nil value)
    · rename_i plus
      exact absurd rfl (unsigned '+' (by rw [plus]; exact List.mem_cons_self)).1
    · rename_i minus
      exact absurd rfl (unsigned '-' (by rw [minus]; exact List.mem_cons_self)).2
    · rename_i plus
      exact absurd rfl (unsigned '+' (by rw [plus]; exact List.mem_cons_self)).1
    · rfl
  rw [read, accumulate_digits below]

end Bug.Encoding.Hex
