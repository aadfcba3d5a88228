import Bug.Encoding.Codec
import Mathlib.Tactic.NormNum
import Mathlib.Tactic.Ring

/-!
# Fixed-width little-endian integers

Words are written as base-256 digits, lowest first.  Signed integers travel as
the word of their two's complement representation, enumeration variants as a
32-bit index, and byte strings behind a 64-bit length.
-/

namespace Bug.Encoding

/-- The `width` low base-256 digits of a natural number, lowest first. -/
def leBytes : Nat → Nat → Bytes
  | 0, _ => []
  | width + 1, value => UInt8.ofNat value :: leBytes width (value / 256)

/-- The number whose base-256 digits are given lowest first. -/
def leValue : Bytes → Nat
  | [] => 0
  | digit :: digits => digit.toNat + 256 * leValue digits

@[simp]
theorem length_leBytes (width value : Nat) : (leBytes width value).length = width := by
  induction width generalizing value with
  | zero => rfl
  | succ width ih => simp [leBytes, ih]

theorem leValue_lt (digits : Bytes) : leValue digits < 256 ^ digits.length := by
  induction digits with
  | nil => simp [leValue]
  | cons digit digits ih =>
      have digitLt := digit.toNat_lt
      rw [leValue, List.length_cons, Nat.pow_succ]
      omega

theorem leValue_leBytes {width value : Nat} (bound : value < 256 ^ width) :
    leValue (leBytes width value) = value := by
  induction width generalizing value with
  | zero =>
      have zero : value = 0 := by simpa using bound
      rw [zero]
      rfl
  | succ width ih =>
      rw [Nat.pow_succ] at bound
      rw [leBytes, leValue, ih (by omega), UInt8.toNat_ofNat']
      omega

theorem leBytes_leValue (digits : Bytes) : leBytes digits.length (leValue digits) = digits := by
  induction digits with
  | nil => rfl
  | cons digit digits ih =>
      have digitLt := digit.toNat_lt
      have high : (digit.toNat + 256 * leValue digits) / 256 = leValue digits := by omega
      have low : UInt8.ofNat (digit.toNat + 256 * leValue digits) = digit := by
        apply UInt8.toNat_inj.mp
        rw [UInt8.toNat_ofNat']
        omega
      rw [List.length_cons, leValue, leBytes, high, low, ih]

/-- The low and the high digits of a number are written one after the other. -/
theorem leBytes_add (low high value : Nat) :
    leBytes (low + high) value = leBytes low value ++ leBytes high (value / 256 ^ low) := by
  induction low generalizing value with
  | zero => simp [leBytes]
  | succ low ih =>
      rw [Nat.succ_add, leBytes, ih, leBytes, List.cons_append, Nat.div_div_eq_div_mul,
        Nat.pow_succ, Nat.mul_comm 256]

namespace Codec

/-- The little-endian word of `width` bytes. -/
def word (width : Nat) : Codec (Fin (256 ^ width)) :=
  (block width).ofEquiv {
    toFun digits := ⟨leValue digits.1, by simpa [digits.2] using leValue_lt digits.1⟩
    invFun value := ⟨leBytes width value, length_leBytes width value⟩
    left_inv := by
      rintro ⟨digits, rfl⟩
      exact Subtype.ext (leBytes_leValue digits)
    right_inv value := Fin.ext (leValue_leBytes value.2)
  }

def u16 : Codec UInt16 :=
  (word 2).ofEquiv {
    toFun value := UInt16.ofNatLT value value.2
    invFun value := ⟨value.toNat, value.toNat_lt⟩
    left_inv value := by simp
    right_inv value := by simp
  }

def u32 : Codec UInt32 :=
  (word 4).ofEquiv {
    toFun value := UInt32.ofNatLT value value.2
    invFun value := ⟨value.toNat, value.toNat_lt⟩
    left_inv value := by simp
    right_inv value := by simp
  }

def u64 : Codec UInt64 :=
  (word 8).ofEquiv {
    toFun value := UInt64.ofNatLT value value.2
    invFun value := ⟨value.toNat, value.toNat_lt⟩
    left_inv value := by simp
    right_inv value := by simp
  }

def i16 : Codec Int16 :=
  u16.ofEquiv {
    toFun := UInt16.toInt16
    invFun := Int16.toUInt16
    left_inv value := by simp
    right_inv value := by simp
  }

def i32 : Codec Int32 :=
  u32.ofEquiv {
    toFun := UInt32.toInt32
    invFun := Int32.toUInt32
    left_inv value := by simp
    right_inv value := by simp
  }

def i64 : Codec Int64 :=
  u64.ofEquiv {
    toFun := UInt64.toInt64
    invFun := Int64.toUInt64
    left_inv value := by simp
    right_inv value := by simp
  }

theorem hasWidth_word (width : Nat) : (word width).HasWidth width :=
  (hasWidth_block width).ofEquiv _

theorem hasWidth_u16 : u16.HasWidth 2 :=
  (hasWidth_word 2).ofEquiv _

theorem hasWidth_u32 : u32.HasWidth 4 :=
  (hasWidth_word 4).ofEquiv _

theorem hasWidth_u64 : u64.HasWidth 8 :=
  (hasWidth_word 8).ofEquiv _

theorem u32_encode (value : UInt32) : u32.encode value = leBytes 4 value.toNat :=
  rfl

/-- The index of one of `count` enumeration variants.  An index that names no
variant is rejected. -/
def variant (count : Nat) (bound : count ≤ 2 ^ 32) : Codec (Fin count) :=
  u32.refine
    (fun raw => if known : raw.toNat < count then some ⟨raw.toNat, known⟩ else none)
    (fun index => UInt32.ofNatLT index (lt_of_lt_of_le index.2 bound))
    (by
      intro raw index
      constructor
      · intro accepted
        split at accepted
        · cases accepted
          simp
        · cases accepted
      · rintro rfl
        simp)

theorem variant_encode {count : Nat} (bound : count ≤ 2 ^ 32) (index : Fin count) :
    (variant count bound).encode index = leBytes 4 index := by
  simp [variant, refine, u32_encode]

/-- Byte strings whose length fits the 64-bit length that precedes them. -/
abbrev SizedBytes := { bytes : Bytes // bytes.length < 2 ^ 64 }

/-- A 64-bit length followed by that many bytes. -/
def sized : Codec SizedBytes :=
  (tagged u64 fun length => block length.toNat).ofEquiv {
    toFun value := ⟨value.2.1, by rw [value.2.2]; exact value.1.toNat_lt⟩
    invFun value :=
      ⟨UInt64.ofNat value.1.length, value.1, (UInt64.toNat_ofNat_of_lt' value.2).symm⟩
    left_inv := by
      rintro ⟨length, bytes, equal⟩
      obtain rfl : length = UInt64.ofNat bytes.length := by rw [equal, UInt64.ofNat_toNat]
      rfl
    right_inv value := rfl
  }

end Codec

end Bug.Encoding
