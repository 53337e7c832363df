import Mathlib
import PackageSearch.Text.Utf8

/-!
# Texts and their bytes

The bytes of a text are those of its characters one after the other. They give the text back, and
they are ordered as the text is: of two different characters the bytes of the smaller come first,
whatever follows, since neither character's bytes begin with those of the other.
-/

set_option autoImplicit false

namespace PackageSearch.Text

open String (utf8EncodeChar)

theorem toList_loop (bytes : ByteArray) (start : Nat) (found : List UInt8) :
    ByteArray.toList.loop bytes start found = found.reverse ++ bytes.data.toList.drop start := by
  induction start, found using ByteArray.toList.loop.induct bytes with
  | case1 start found more ih =>
      have remaining : bytes.data.toList.drop start =
          bytes.data[start] :: bytes.data.toList.drop (start + 1) := by
        rw [List.drop_eq_getElem_cons (by simpa using more)]
        rfl
      rw [ByteArray.toList.loop, if_pos more, ih, remaining]
      simp [ByteArray.get!, more]
  | case2 start found done =>
      have nothing : bytes.data.toList.drop start = [] :=
        List.drop_of_length_le (by simpa using done)
      rw [ByteArray.toList.loop, if_neg done, nothing, List.append_nil]

theorem toList_eq_data (bytes : ByteArray) : bytes.toList = bytes.data.toList := by
  rw [ByteArray.toList, toList_loop, List.drop_zero, List.reverse_nil, List.nil_append]

/-- The bytes of a text are those of its characters. -/
theorem bytes_eq (text : String) :
    text.toUTF8.toList = text.toList.flatMap utf8EncodeChar := by
  rw [toList_eq_data, String.toUTF8, ← String.utf8Encode_toList, List.utf8Encode,
    List.data_toByteArray]

theorem bytes_ofList (characters : List Char) :
    (String.ofList characters).toUTF8.toList = characters.flatMap utf8EncodeChar := by
  rw [bytes_eq, String.toList_ofList]

theorem bytes_append (left right : String) :
    (left ++ right).toUTF8.toList = left.toUTF8.toList ++ right.toUTF8.toList := by
  rw [bytes_eq, bytes_eq, bytes_eq, String.toList_append, List.flatMap_append]

theorem encodeChar_of_ascii {character : Char} (ascii : character.toNat < 128) :
    utf8EncodeChar character = [UInt8.ofNat character.toNat] := by
  exact if_pos (Nat.le_of_lt_succ ascii)

/-- The bytes of a text are read as that text. -/
theorem utf8?_bytes (text : String) : utf8? text.toUTF8.toList = some text := by
  have whole : text.toUTF8.toList.toByteArray = text.toByteArray := by
    apply ByteArray.ext
    rw [List.data_toByteArray, toList_eq_data]
    rfl
  rw [utf8?, whole]
  simp [String.fromUTF8?, text.isValidUTF8, String.fromUTF8]

/-- Bytes are read as a text only if they are its bytes. -/
theorem utf8?_eq_some_iff {bytes : Bytes} {text : String} :
    utf8? bytes = some text ↔ bytes = text.toUTF8.toList := by
  constructor
  · intro read
    rw [utf8?, String.fromUTF8?] at read
    split at read
    · have held : bytes.toByteArray = text.toByteArray :=
        congrArg String.toByteArray (Option.some.inj read)
      rw [toList_eq_data, String.toUTF8, ← held, List.data_toByteArray]
    · cases read
  · rintro rfl
    exact utf8?_bytes text

/-! ## The order of bytes -/

theorem ofNat_lt_iff {left right : Nat} (leftBound : left < 256) (rightBound : right < 256) :
    UInt8.ofNat left < UInt8.ofNat right ↔ left < right := by
  rw [UInt8.lt_iff_toNat_lt, UInt8.toNat_ofNat_of_lt' leftBound,
    UInt8.toNat_ofNat_of_lt' rightBound]

theorem ofNat_inj {left right : Nat} (leftBound : left < 256) (rightBound : right < 256) :
    UInt8.ofNat left = UInt8.ofNat right ↔ left = right := by
  rw [← UInt8.toNat_inj, UInt8.toNat_ofNat_of_lt' leftBound, UInt8.toNat_ofNat_of_lt' rightBound]

/-- The bytes of the smaller of two characters come first, whatever follows them. -/
theorem encodeChar_append_lt {left right : Char} (less : left < right)
    (leftRest rightRest : List UInt8) :
    utf8EncodeChar left ++ leftRest < utf8EncodeChar right ++ rightRest := by
  have codes : left.val.toNat < right.val.toNat := less
  have limit : right.val.toNat < 0x110000 := by
    rcases right.valid with low | ⟨-, high⟩
    · exact Nat.lt_trans low (by decide)
    · exact high
  -- A code is read as digits to the base 64, of which the bytes hold one each.
  have third (code : Nat) : code / 4096 = code / 64 / 64 := by omega
  have fourth (code : Nat) : code / 262144 = code / 64 / 64 / 64 := by omega
  simp only [utf8EncodeChar, third, fourth]
  -- One case for each pair of lengths; the smaller character has no more bytes than the greater.
  repeat' split
  all_goals
    simp (disch := omega) only [List.cons_append, List.nil_append, List.cons_lt_cons_iff,
      ofNat_lt_iff, ofNat_inj]
    omega

/-- The bytes of a character do not begin with those of another one. -/
theorem eq_of_encodeChar_prefix {left right : Char}
    (begins : utf8EncodeChar left <+: utf8EncodeChar right) : left = right := by
  obtain ⟨rest, whole⟩ := begins
  rcases lt_trichotomy left right with less | same | greater
  · have order := encodeChar_append_lt less rest []
    rw [whole, List.append_nil] at order
    exact absurd order (List.lt_irrefl _)
  · exact same
  · have order := encodeChar_append_lt greater [] rest
    rw [whole, List.append_nil] at order
    exact absurd order (List.lt_irrefl _)

/-- Of two texts the smaller has the smaller bytes. -/
theorem bytes_lt_of_lt {left right : String} (less : left < right) :
    left.toUTF8.toList < right.toUTF8.toList := by
  rw [bytes_eq, bytes_eq]
  have order : List.Lex (· < ·) left.toList right.toList := String.lt_iff.mp less
  generalize left.toList = leftCharacters at order
  generalize right.toList = rightCharacters at order
  induction order with
  | nil =>
      rename_i character rest
      rw [List.flatMap_nil, List.flatMap_cons]
      cases shape : utf8EncodeChar character with
      | nil => exact absurd shape String.utf8EncodeChar_ne_nil
      | cons first others => exact List.Lex.nil
  | cons order ih =>
      rw [List.flatMap_cons, List.flatMap_cons]
      exact List.append_left_lt ih
  | rel first =>
      rw [List.flatMap_cons, List.flatMap_cons]
      exact encodeChar_append_lt first _ _

end PackageSearch.Text
