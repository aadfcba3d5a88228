import Bug.Primitive.Number

/-!
# Reading texts as integers

A text is read up to its first character that is no digit, after white space and
a sign.  What is read is a double, and the digits that a double is printed with are
read as the same double.
-/

namespace Bug.Number

/-- White space and the ends of lines. -/
def isWhiteSpace (char : Char) : Bool :=
  (0x9 ≤ char.toNat ∧ char.toNat ≤ 0xD) ∨ char.toNat = 0x20 ∨ char.toNat = 0xA0 ∨
    char.toNat = 0x1680 ∨ (0x2000 ≤ char.toNat ∧ char.toNat ≤ 0x200A) ∨ char.toNat = 0x2028 ∨
    char.toNat = 0x2029 ∨ char.toNat = 0x202F ∨ char.toNat = 0x205F ∨ char.toNat = 0x3000 ∨
    char.toNat = 0xFEFF

/-- The sign, and the characters after it. -/
def splitSign : List Char → Int × List Char
  | '-' :: rest => (-1, rest)
  | '+' :: rest => (1, rest)
  | rest => (1, rest)

/-- `parseInt(text, 10)`; none is NaN. -/
def parseInt (text : String) : Option Int :=
  let signed := splitSign (text.toList.dropWhile isWhiteSpace)
  let digits := signed.2.takeWhile Char.isDigit
  if digits = [] then none else some (ofInteger (signed.1 * Nat.ofDigitChars 10 digits 0))

/-- The value of the digits that a double is printed with. -/
def printed (double : Int) : Int :=
  double.sign * shortest double.natAbs

theorem print_eq (double : Int) : print double = toString (printed double) :=
  rfl

/-! ## Digits -/

theorem not_isWhiteSpace_of_isDigit {char : Char} (digit : char.isDigit) : ¬isWhiteSpace char := by
  have bounds : 48 ≤ char.toNat ∧ char.toNat ≤ 57 := by
    simpa [Char.isDigit, UInt32.le_iff_toNat_le] using digit
  simp only [isWhiteSpace, decide_eq_true_eq]
  omega

theorem splitSign_of_isDigit {char : Char} (digit : char.isDigit) (rest : List Char) :
    splitSign (char :: rest) = (1, char :: rest) := by
  unfold splitSign
  split
  · rename_i same
    cases List.head_eq_of_cons_eq same
    cases digit
  · rename_i same
    cases List.head_eq_of_cons_eq same
    cases digit
  · rfl

theorem takeWhile_toDigits (value : Nat) {rest : List Char}
    (ends : ∀ char ∈ rest.head?, ¬char.isDigit) :
    (Nat.toDigits 10 value ++ rest).takeWhile Char.isDigit = Nat.toDigits 10 value := by
  have digits : ∀ char ∈ Nat.toDigits 10 value, char.isDigit := by
    intro char present
    exact Nat.isDigit_of_mem_toDigits (by decide) (by decide) present
  rw [List.takeWhile_append_of_pos digits]
  cases rest with
  | nil => exact List.append_nil _
  | cons char rest => rw [List.takeWhile_cons_of_neg (ends char rfl), List.append_nil]

/-- The digits of a number start with a digit. -/
theorem exists_toDigits_eq_cons (value : Nat) :
    ∃ digit digits, Nat.toDigits 10 value = digit :: digits ∧ digit.isDigit := by
  cases written : Nat.toDigits 10 value with
  | nil => exact absurd written Nat.toDigits_ne_nil
  | cons digit digits =>
      have present : digit ∈ Nat.toDigits 10 value := by
        rw [written]
        exact List.mem_cons_self
      exact ⟨digit, digits, rfl, Nat.isDigit_of_mem_toDigits (by decide) (by decide) present⟩

theorem splitSign_toDigits (value : Nat) (rest : List Char) :
    splitSign (Nat.toDigits 10 value ++ rest) = (1, Nat.toDigits 10 value ++ rest) := by
  rcases exists_toDigits_eq_cons value with ⟨digit, digits, written, isDigit⟩
  rw [written, List.cons_append]
  exact splitSign_of_isDigit isDigit _

theorem dropWhile_toDigits (value : Nat) (rest : List Char) :
    (Nat.toDigits 10 value ++ rest).dropWhile isWhiteSpace = Nat.toDigits 10 value ++ rest := by
  rcases exists_toDigits_eq_cons value with ⟨digit, digits, written, isDigit⟩
  rw [written, List.cons_append]
  exact List.dropWhile_cons_of_neg (not_isWhiteSpace_of_isDigit isDigit)

/-- A sign and the digits of a number are read as the number, whatever follows. -/
theorem parseInt_of_split {text : String} {sign : Int} {value : Nat} {rest : List Char}
    (split : splitSign (text.toList.dropWhile isWhiteSpace) =
      (sign, Nat.toDigits 10 value ++ rest))
    (ends : ∀ char ∈ rest.head?, ¬char.isDigit) :
    parseInt text = some (ofInteger (sign * value)) := by
  simp only [parseInt, split, takeWhile_toDigits value ends, Nat.ofDigitChars_ten_toDigits]
  exact if_neg Nat.toDigits_ne_nil

/-- An integer is read as it is written, whatever follows it but more digits. -/
theorem parseInt_toString_append (value : Int) {rest : String}
    (ends : ∀ char ∈ rest.toList.head?, ¬char.isDigit) :
    parseInt (toString value ++ rest) = some (ofInteger value) := by
  by_cases negative : value < 0
  · have written : (toString value ++ rest).toList =
        '-' :: (Nat.toDigits 10 (-value).toNat ++ rest.toList) := by
      rw [Int.toString_eq_repr, Int.repr_eq_if, if_neg (Int.not_le.mpr negative)]
      simp
    have read : parseInt (toString value ++ rest) = some (ofInteger (-1 * (-value).toNat)) := by
      apply parseInt_of_split _ ends
      rw [written, List.dropWhile_cons_of_neg (by decide)]
      rfl
    rw [read, Int.toNat_of_nonneg (by omega), Int.neg_one_mul, Int.neg_neg]
  · have written : (toString value ++ rest).toList =
        Nat.toDigits 10 value.toNat ++ rest.toList := by
      rw [Int.toString_eq_repr, Int.repr_eq_if, if_pos (Int.not_lt.mp negative)]
      simp
    have read : parseInt (toString value ++ rest) = some (ofInteger (1 * value.toNat)) := by
      apply parseInt_of_split _ ends
      rw [written, dropWhile_toDigits, splitSign_toDigits]
    rw [read, Int.toNat_of_nonneg (Int.not_lt.mp negative), Int.one_mul]

theorem parseInt_toString (value : Int) : parseInt (toString value) = some (ofInteger value) := by
  have read := @parseInt_toString_append value "" (by simp)
  rwa [String.append_empty] at read

/-- What is read is a double. -/
theorem exists_of_parseInt {text : String} {double : Int} (read : parseInt text = some double) :
    ∃ value, double = ofInteger value := by
  simp only [parseInt] at read
  split at read
  · cases read
  · exact ⟨_, (Option.some.inj read).symm⟩

/-! ## Printed digits -/

/-- A multiple of the distance between the doubles of its size is a double. -/
theorem nearest_of_dvd {value : Nat} (divides : 2 ^ (value.log2 - 52) ∣ value) :
    nearest value = value := by
  have rest : value % 2 ^ (value.log2 - 52) = 0 := Nat.mod_eq_zero_of_dvd divides
  simp only [nearest, rest]
  rw [if_pos (.inl (Nat.two_pow_pos _)), Nat.div_mul_cancel divides]

/-- A number of at most 53 bits before its zeros is a double. -/
theorem nearest_mul_two_pow {bits exponent : Nat} (short : bits ≤ 2 ^ 53) :
    nearest (bits * 2 ^ exponent) = bits * 2 ^ exponent := by
  apply nearest_of_dvd
  rcases short.eq_or_lt with rfl | shorter
  · rw [← Nat.pow_add, Nat.log2_two_pow]
    exact Nat.pow_dvd_pow 2 (Nat.sub_le _ _)
  · by_cases zero : bits = 0
    · rw [zero, Nat.zero_mul]
      exact Nat.dvd_zero _
    · have nonzero : bits * 2 ^ exponent ≠ 0 := Nat.mul_ne_zero zero (Nat.two_pow_pos _).ne'
      have size : (bits * 2 ^ exponent).log2 < 53 + exponent := by
        rw [Nat.log2_lt nonzero, Nat.pow_add]
        exact Nat.mul_lt_mul_of_pos_right shorter (Nat.two_pow_pos _)
      exact Nat.dvd_mul_left_of_dvd (Nat.pow_dvd_pow 2 (by omega)) bits

theorem exists_nearest_eq (value : Nat) :
    ∃ bits ≤ 2 ^ 53, nearest value = bits * 2 ^ (value.log2 - 52) := by
  have size : value < 2 ^ 53 * 2 ^ (value.log2 - 52) := by
    rw [← Nat.pow_add]
    exact Nat.lt_log2_self.trans_le (Nat.pow_le_pow_right (by decide) (by omega))
  have low : value / 2 ^ (value.log2 - 52) < 2 ^ 53 :=
    (Nat.div_lt_iff_lt_mul (Nat.two_pow_pos _)).mpr size
  simp only [nearest]
  split
  · exact ⟨_, low.le, rfl⟩
  · exact ⟨_, low, rfl⟩

/-- What is nearest to a number is a double. -/
theorem nearest_nearest (value : Nat) : nearest (nearest value) = nearest value := by
  rcases exists_nearest_eq value with ⟨bits, short, written⟩
  rw [written]
  exact nearest_mul_two_pow short

theorem nearest_of_rounded {double places decimal : Nat}
    (round : rounded double places = some decimal) : nearest decimal = double := by
  simp only [rounded] at round
  split at round
  · rename_i lowReads
    split at round
    · rename_i highReads
      split at round
      · cases round
        exact lowReads
      · cases round
        exact highReads
    · cases round
      exact lowReads
  · split at round
    · rename_i highReads
      cases round
      exact highReads
    · cases round

theorem nearest_shortestWithin {double : Nat} (isDouble : nearest double = double) (places : Nat) :
    nearest (shortestWithin double places) = double := by
  induction places with
  | zero => exact isDouble
  | succ places inductionHypothesis =>
      rw [shortestWithin]
      cases round : rounded double (places + 1) with
      | none => exact inductionHypothesis
      | some decimal => exact nearest_of_rounded round

theorem sign_sign_mul (value : Int) {size : Nat} (nonzero : size ≠ 0) :
    (value.sign * (size : Int)).sign = value.sign := by
  rw [Int.sign_mul, Int.sign_sign, Int.sign_natCast_of_ne_zero nonzero, Int.mul_one]

theorem natAbs_sign_mul {value : Int} (nonzero : value ≠ 0) (size : Nat) :
    (value.sign * (size : Int)).natAbs = size := by
  rw [Int.natAbs_mul, Int.natAbs_sign_of_ne_zero nonzero, Nat.one_mul, Int.natAbs_natCast]

/-- The printed digits of a double are read as the double. -/
theorem ofInteger_printed (value : Int) :
    ofInteger (printed (ofInteger value)) = ofInteger value := by
  by_cases zero : value = 0
  · rw [zero]
    rfl
  · have positive : nearest value.natAbs ≠ 0 := by
      rw [Ne, nearest_eq_zero_iff, Int.natAbs_eq_zero]
      exact zero
    have reads : nearest (shortest (nearest value.natAbs)) = nearest value.natAbs :=
      nearest_shortestWithin (nearest_nearest _) _
    have digits : shortest (nearest value.natAbs) ≠ 0 := by
      intro noDigits
      rw [noDigits] at reads
      exact positive reads.symm
    have same : printed (ofInteger value) =
        value.sign * (shortest (nearest value.natAbs) : Int) := by
      rw [printed, ofInteger, sign_sign_mul value positive, natAbs_sign_mul zero]
    rw [same, ofInteger, sign_sign_mul value digits, natAbs_sign_mul zero, reads, ofInteger]

theorem ofInteger_of_lt {value : Int} (small : value.natAbs < 2 ^ 53) : ofInteger value = value := by
  rw [ofInteger, nearest_of_lt small, Int.sign_mul_natAbs]

theorem printed_of_lt {value : Int} (small : value.natAbs < 2 ^ 53) : printed value = value := by
  rw [printed, shortest, shortestWithin_of_lt small, Int.sign_mul_natAbs]

end Bug.Number
