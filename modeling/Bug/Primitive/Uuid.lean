import Bug.Encoding.Integer

/-!
# Universally unique identifiers

A `Uuid` is sixteen bytes.  On the binary wire it is a byte string behind a
64-bit length, and any other length is rejected.  Its text form is the
lower-case hyphenated one, from which the file names of recordings are built;
the text determines the identifier.
-/

namespace Bug

open Bug.Encoding

/-- Sixteen bytes. -/
structure Uuid where
  bytes : Bytes
  length_bytes : bytes.length = 16
  deriving DecidableEq

namespace Uuid

/-- Length-prefixed bytes; a length other than sixteen is not a `Uuid`. -/
def codec : Codec Uuid :=
  Codec.sized.refine
    (fun raw => if sixteen : raw.1.length = 16 then some ⟨raw.1, sixteen⟩ else none)
    (fun id => ⟨id.bytes, by rw [id.length_bytes]; decide⟩)
    (by
      rintro ⟨bytes, bound⟩ ⟨others, sixteen⟩
      by_cases length_eq : bytes.length = 16
      · simp [length_eq]
      · simp only [length_eq, dite_false, reduceCtorEq, Subtype.mk.injEq, false_iff]
        rintro rfl
        exact length_eq sixteen)

/-- A length and sixteen bytes. -/
theorem hasWidth_codec : codec.HasWidth 24 := by
  intro id
  have widths : (codec.encode id).length = 8 + id.bytes.length := by
    rw [← Codec.hasWidth_u64 (UInt64.ofNat id.bytes.length)]
    exact List.length_append
  rw [widths, id.length_bytes]

/-- The identifier with the given little-endian bytes. -/
def ofNat (value : Nat) : Uuid :=
  ⟨leBytes 16 value, length_leBytes 16 value⟩

/-- The two lower-case hexadecimal digits of a byte. -/
def hexByte (value : UInt8) : List Char :=
  [Nat.digitChar (value.toNat / 16), Nat.digitChar (value.toNat % 16)]

/-- The hexadecimal digits of a byte string. -/
def hexDigits (bytes : Bytes) : List Char :=
  bytes.flatMap hexByte

private theorem digitChar_inj {left right : Nat} (leftLt : left < 16) (rightLt : right < 16)
    (equal : Nat.digitChar left = Nat.digitChar right) : left = right := by
  have table : ∀ first second : Fin 16,
      Nat.digitChar first = Nat.digitChar second → first = second := by decide
  exact Fin.mk.inj_iff.mp (table ⟨left, leftLt⟩ ⟨right, rightLt⟩ equal)

private theorem digitChar_ne {value : Nat} (bound : value < 16) :
    Nat.digitChar value ≠ '-' ∧ Nat.digitChar value ≠ '.' := by
  have table : ∀ digit : Fin 16,
      Nat.digitChar digit ≠ '-' ∧ Nat.digitChar digit ≠ '.' := by decide
  exact table ⟨value, bound⟩

theorem hexByte_injective : Function.Injective hexByte := by
  intro left right equal
  have leftLt := left.toNat_lt
  have rightLt := right.toNat_lt
  simp only [hexByte, List.cons.injEq, and_true] at equal
  have high := digitChar_inj (by omega) (by omega) equal.1
  have low := digitChar_inj (by omega) (by omega) equal.2
  apply UInt8.toNat_inj.mp
  omega

theorem hexDigits_injective : Function.Injective hexDigits := by
  intro left
  induction left with
  | nil =>
      intro right equal
      cases right with
      | nil => rfl
      | cons byte bytes => simp [hexDigits, hexByte] at equal
  | cons first rest ih =>
      intro right equal
      cases right with
      | nil => simp [hexDigits, hexByte] at equal
      | cons byte bytes =>
          simp only [hexDigits, List.flatMap_cons] at equal
          obtain ⟨head, tail⟩ := List.append_inj equal rfl
          rw [hexByte_injective head, ih tail]

private theorem mem_hexDigits {bytes : Bytes} {digit : Char} (member : digit ∈ hexDigits bytes) :
    digit ≠ '-' ∧ digit ≠ '.' := by
  simp only [hexDigits, List.mem_flatMap, hexByte, List.mem_cons, List.not_mem_nil,
    or_false] at member
  obtain ⟨byte, _, rfl | rfl⟩ := member
  · have byteLt := byte.toNat_lt
    exact digitChar_ne (by omega)
  · exact digitChar_ne (by omega)

private theorem filter_hexDigits (bytes : Bytes) :
    (hexDigits bytes).filter (· ≠ '-') = hexDigits bytes := by
  rw [List.filter_eq_self]
  intro digit member
  simpa using (mem_hexDigits member).1

/-- The hyphenated form: groups of four, two, two, two and six bytes. -/
def toChars (id : Uuid) : List Char :=
  hexDigits (id.bytes.take 4) ++
    '-' :: hexDigits ((id.bytes.drop 4).take 2) ++
    '-' :: hexDigits ((id.bytes.drop 6).take 2) ++
    '-' :: hexDigits ((id.bytes.drop 8).take 2) ++
    '-' :: hexDigits (id.bytes.drop 10)

instance : ToString Uuid where
  toString id := String.ofList id.toChars

theorem filter_toChars (id : Uuid) :
    id.toChars.filter (· ≠ '-') = hexDigits id.bytes := by
  have regroup : id.bytes = id.bytes.take 4 ++ ((id.bytes.drop 4).take 2 ++
      ((id.bytes.drop 6).take 2 ++ ((id.bytes.drop 8).take 2 ++ id.bytes.drop 10))) := by
    rw [show id.bytes.drop 10 = (id.bytes.drop 8).drop 2 by simp, List.take_append_drop,
      show id.bytes.drop 8 = (id.bytes.drop 6).drop 2 by simp, List.take_append_drop,
      show id.bytes.drop 6 = (id.bytes.drop 4).drop 2 by simp, List.take_append_drop,
      List.take_append_drop]
  conv_rhs => rw [regroup]
  simp only [toChars, List.filter_append, List.filter_cons, filter_hexDigits]
  simp [hexDigits]

/-- The text of an identifier determines it. -/
theorem toString_injective : Function.Injective (toString : Uuid → String) := by
  intro left right equal
  have chars : left.toChars = right.toChars := String.ofList_injective equal
  have digits : hexDigits left.bytes = hexDigits right.bytes := by
    rw [← filter_toChars, chars, filter_toChars]
  have bytes := hexDigits_injective digits
  cases left
  cases right
  cases bytes
  rfl

/-- A hyphenated identifier has no file extension of its own. -/
theorem dot_notMem_toChars (id : Uuid) : '.' ∉ id.toChars := by
  intro member
  simp only [toChars, List.mem_append, List.mem_cons, Char.reduceEq, false_or] at member
  rcases member with (((found | found) | found) | found) | found <;>
    exact (mem_hexDigits found).2 rfl

private theorem slash_notMem_hexDigits (bytes : Bytes) : '/' ∉ hexDigits bytes := by
  have table : ∀ digit : Fin 16, '/' ≠ Nat.digitChar digit := by decide
  intro member
  simp only [hexDigits, List.mem_flatMap, hexByte, List.mem_cons, List.not_mem_nil,
    or_false] at member
  rcases member with ⟨byte, _, high | low⟩
  · have byteLt := byte.toNat_lt
    exact table ⟨byte.toNat / 16, by omega⟩ high
  · exact table ⟨byte.toNat % 16, by omega⟩ low

/-- A hyphenated identifier is a single segment of a path. -/
theorem slash_notMem_toChars (id : Uuid) : '/' ∉ id.toChars := by
  intro member
  simp only [toChars, List.mem_append, List.mem_cons, Char.reduceEq, false_or] at member
  rcases member with (((found | found) | found) | found) | found <;>
    exact slash_notMem_hexDigits _ found

theorem toChars_ne_nil (id : Uuid) : id.toChars ≠ [] := by
  simp [toChars]

end Uuid

end Bug
