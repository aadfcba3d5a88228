import Bug.Encoding.Integer

/-!
# Length-prefixed UTF-8 text

A text is a string whose UTF-8 length fits a 64-bit length.  Its codec writes
the length and the UTF-8 bytes, and rejects bytes that are not valid UTF-8.
-/

namespace Bug.Encoding

/-- A string that fits behind a 64-bit length. -/
structure Text where
  val : String
  size_lt : val.utf8ByteSize < 2 ^ 64
  deriving DecidableEq

namespace Text

/-- The UTF-8 bytes of a text. -/
def utf8 (text : Text) : Bytes :=
  text.val.toByteArray.data.toList

/-- Read a byte string as UTF-8. -/
def ofUtf8 (raw : Codec.SizedBytes) : Option Text :=
  if valid : raw.1.toByteArray.IsValidUTF8 then
    some ⟨String.fromUTF8 raw.1.toByteArray valid, by
      rw [← String.size_toByteArray]
      exact lt_of_eq_of_lt List.size_toByteArray raw.2⟩
  else
    none

theorem toByteArray_utf8 (text : Text) : text.utf8.toByteArray = text.val.toByteArray := by
  apply ByteArray.ext
  rw [List.data_toByteArray, utf8]

theorem ofUtf8_eq_some_iff (raw : Codec.SizedBytes) (text : Text) :
    ofUtf8 raw = some text ↔ raw = ⟨text.utf8, text.size_lt⟩ := by
  constructor
  · intro read
    unfold ofUtf8 at read
    split at read
    · cases read
      apply Subtype.ext
      exact List.toList_data_toByteArray.symm
    · cases read
  · rintro rfl
    have valid : text.utf8.toByteArray.IsValidUTF8 := by
      rw [toByteArray_utf8]
      exact text.val.isValidUTF8
    have sameString : String.fromUTF8 text.utf8.toByteArray valid = text.val :=
      String.toByteArray_inj.mp (toByteArray_utf8 text)
    simp only [ofUtf8, dif_pos valid, sameString]

def codec : Codec Text :=
  Codec.sized.refine ofUtf8 (fun text => ⟨text.utf8, text.size_lt⟩) ofUtf8_eq_some_iff

end Text

end Bug.Encoding
