import Mathlib
import PackageSearch.Proofs.Number.Displayed
import PackageSearch.Proofs.Text.Utf8
import PackageSearch.Query

/-!
# Page numbers in machine words

How the numbers of a page are read on a machine: texts are cut at indices of their bytes, and
numbers are words of 64 bits, with a sign until they are used. A cut may fall inside a character and
a product may not fit its word, and either would break the reading off. Neither happens for any
text, and the words stand for the numbers that are read without bounds.
-/

set_option autoImplicit false

namespace PackageSearch.Query

theorem numeral?_eq_some_iff {digits : List Char} {value : Nat}
    (areDigits : ∀ digit ∈ digits, digit.isDigit = true) :
    numeral? digits = some value ↔ digits ≠ [] ∧ numeralValue digits = value := by
  cases digits with
  | nil => simp [numeral?]
  | cons digit rest =>
      have whole : numeral? (digit :: rest) = some (numeralValue (digit :: rest)) :=
        if_neg (by simpa using areDigits)
      rw [whole, Option.some.injEq]
      exact ⟨fun valued => ⟨List.cons_ne_nil _ _, valued⟩, fun found => found.2⟩

theorem leadingInteger?_eq (text : String) :
    leadingInteger? text =
      (numeral? (leadingDigits (leadingSign (Text.trimLeft text.toList)).2).1).bind fun value =>
        if maxSigned < value then none
        else some
          (if (leadingSign (Text.trimLeft text.toList)).1 then -(value : Int) else value) := by
  unfold leadingInteger?
  obtain ⟨negative, unsigned⟩ := leadingSign (Text.trimLeft text.toList)
  dsimp only
  obtain ⟨digits, rest⟩ := leadingDigits unsigned
  cases numeral? digits <;> rfl

theorem sizeOf_eq (given : Option String) :
    sizeOf given =
      (((given.bind leadingInteger?).filter (0 < ·)).map Int.toNat).getD defaultSize := by
  unfold sizeOf
  cases given.bind leadingInteger? with
  | none => rfl
  | some value => by_cases positive : 0 < value <;> simp [Option.filter_some, positive]

theorem startOf_eq (given : Option String) :
    startOf given =
      (((given.bind leadingInteger?).filter (0 ≤ ·)).map Int.toNat).getD defaultStart := by
  unfold startOf
  cases given.bind leadingInteger? with
  | none => rfl
  | some value => by_cases positive : 0 ≤ value <;> simp [Option.filter_some, positive]

namespace Machine

/-- Why a reading is broken off. -/
inductive Breakdown where
  | insideCharacter
  | overflow

/-- The number as a word with a sign, if it fits one. -/
def word? (number : Int) : Option Int64 :=
  if (Int64.ofInt number).toInt = number then some (Int64.ofInt number) else none

/-- The text from an index on, where a character has to begin. -/
def textFrom (text : String) (index : Nat) : Except Breakdown String :=
  if valid : String.Pos.Raw.IsValid text ⟨index⟩ then
    .ok (text.sliceFrom (text.pos ⟨index⟩ valid)).copy
  else .error .insideCharacter

/-- The text before an index, where a character has to begin or the text to end. -/
def textUpTo (text : String) (index : Nat) : Except Breakdown String :=
  if valid : String.Pos.Raw.IsValid text ⟨index⟩ then
    .ok (text.sliceTo (text.pos ⟨index⟩ valid)).copy
  else .error .insideCharacter

/-- Digits are read from left to right as long as the number fits. -/
def readDigit? (held : Int64) (digit : Char) : Option Int64 :=
  (word? (held.toInt * 10)).bind fun shifted => word? (shifted.toInt + digitValue digit)

def wordOfDigits? (digits : List Char) : Option Int64 :=
  if digits.isEmpty then none else digits.foldlM readDigit? 0

/-- The product with a sign. -/
def signed (sign value : Int64) : Except Breakdown Int64 :=
  match word? (sign.toInt * value.toInt) with
  | some product => .ok product
  | none => .error .overflow

/-- The sign that the first byte of a text tells, and what is left of the text behind it. -/
def signAndRest (first : UInt8) (text : String) : Except Breakdown (Int64 × String) :=
  if first = 0x2d then (textFrom text 1).map fun rest => (-1, rest)
  else if first = 0x2b then (textFrom text 1).map fun rest => (1, rest)
  else .ok (1, text)

/-- The index of the first character that is no digit, or that of the end. -/
def endOfDigits (text : String) : Nat :=
  (String.ofList (leadingDigits text.toList).1).utf8ByteSize

/-- The word of the digits that a text starts with, under a sign. -/
def signedWord? (sign : Int64) (text : String) : Except Breakdown (Option Int64) := do
  let digits ← textUpTo text (endOfDigits text)
  match wordOfDigits? digits.toList with
  | none => .ok none
  | some value => (signed sign value).map some

def leadingWord? (text : String) : Except Breakdown (Option Int64) :=
  let solid := String.ofList (Text.trimLeft text.toList)
  match solid.toUTF8.toList.head? with
  | none => .ok none
  | some first => do
      let (sign, unsigned) ← signAndRest first solid
      signedWord? sign unsigned

/-- A number of a page: a leading word that suits it, with its sign dropped, or the default. -/
def pageWord (suits : Int64 → Bool) (fallback : UInt64) :
    Option String → Except Breakdown UInt64
  | none => .ok fallback
  | some text =>
      (leadingWord? text).map fun word => ((word.filter suits).map Int64.toUInt64).getD fallback

def sizeWord : Option String → Except Breakdown UInt64 := pageWord (0 < ·) 20

def startWord : Option String → Except Breakdown UInt64 := pageWord (0 ≤ ·) 0

/-! ## Cuts -/

theorem textFrom_append (before after : String) :
    textFrom (before ++ after) before.utf8ByteSize = .ok after := by
  have splits := @String.Pos.splits_append_rawEndPos before after
  have valid : String.Pos.Raw.IsValid (before ++ after) ⟨before.utf8ByteSize⟩ :=
    String.Pos.Raw.isValid_rawEndPos.append_right after
  rw [textFrom, dif_pos valid]
  exact congrArg Except.ok splits.copy_sliceFrom_eq

theorem textUpTo_append (before after : String) :
    textUpTo (before ++ after) before.utf8ByteSize = .ok before := by
  have splits := @String.Pos.splits_append_rawEndPos before after
  have valid : String.Pos.Raw.IsValid (before ++ after) ⟨before.utf8ByteSize⟩ :=
    String.Pos.Raw.isValid_rawEndPos.append_right after
  rw [textUpTo, dif_pos valid]
  exact congrArg Except.ok splits.copy_sliceTo_eq

/-! ## Numerals -/

theorem toInt_ofInt_natCast {value : Nat} (small : value ≤ maxSigned) :
    (Int64.ofInt value).toInt = value := by
  have bound : value ≤ 2 ^ 63 - 1 := small
  exact Int64.toInt_ofInt_of_le (by omega) (by omega)

theorem word?_natCast (value : Nat) :
    word? value = if value ≤ maxSigned then some (.ofInt value) else none := by
  unfold word?
  by_cases small : value ≤ maxSigned
  · rw [if_pos small, if_pos (toInt_ofInt_natCast small)]
  · have bound : ¬ value ≤ 2 ^ 63 - 1 := small
    have fits := (Int64.ofInt value).toInt_lt
    rw [if_neg small, if_neg (by omega)]

theorem readDigit?_ofInt {held : Nat} (small : held ≤ maxSigned) (digit : Char) :
    readDigit? (.ofInt held) digit =
      if 10 * held + digitValue digit ≤ maxSigned then
        some (.ofInt (10 * held + digitValue digit : Nat))
      else none := by
  have shifted : (held : Int) * 10 = (10 * held : Nat) := by omega
  rw [readDigit?, toInt_ofInt_natCast small, shifted, word?_natCast]
  by_cases fits : 10 * held ≤ maxSigned
  · rw [if_pos fits, Option.bind_some, toInt_ofInt_natCast fits, ← Nat.cast_add, word?_natCast]
  · rw [if_neg fits, Option.bind_none, if_neg (by omega)]

theorem le_foldl_digits (digits : List Char) (held : Nat) :
    held ≤ digits.foldl (fun value digit => 10 * value + digitValue digit) held := by
  induction digits generalizing held with
  | nil => exact Nat.le_refl _
  | cons digit rest ih =>
      have grown : held ≤ 10 * held + digitValue digit := by omega
      exact grown.trans (ih _)

/-- Once a word has been left the number cannot come back into it, so reading digit by digit ends as
if the number were read at once. -/
theorem foldlM_readDigit? (digits : List Char) {held : Nat} (small : held ≤ maxSigned) :
    digits.foldlM readDigit? (.ofInt held) =
      if digits.foldl (fun value digit => 10 * value + digitValue digit) held ≤ maxSigned then
        some (.ofInt (digits.foldl (fun value digit => 10 * value + digitValue digit) held : Nat))
      else none := by
  induction digits generalizing held with
  | nil => exact (if_pos small).symm
  | cons digit rest ih =>
      rw [List.foldlM_cons, readDigit?_ofInt small, List.foldl_cons]
      by_cases fits : 10 * held + digitValue digit ≤ maxSigned
      · rw [if_pos fits]
        exact ih fits
      · have larger := le_foldl_digits rest (10 * held + digitValue digit)
        rw [if_neg fits, if_neg (by omega)]
        rfl

theorem wordOfDigits?_eq {digits : List Char} (areDigits : ∀ digit ∈ digits, digit.isDigit = true) :
    wordOfDigits? digits = (numeral? digits).bind fun value =>
      if value ≤ maxSigned then some (.ofInt value) else none := by
  cases digits with
  | nil => rfl
  | cons digit rest =>
      have whole := (numeral?_eq_some_iff areDigits).2 ⟨List.cons_ne_nil digit rest, rfl⟩
      rw [whole, Option.bind_some]
      exact foldlM_readDigit? (digit :: rest) (Nat.zero_le _)

/-! ## Signs -/

theorem signed_eq {sign : Int64} {negative : Bool} {value : Nat} (small : value ≤ maxSigned)
    (means : sign.toInt = if negative then -1 else 1) :
    ∃ word, signed sign (.ofInt value) = .ok word ∧
      word.toInt = if negative then -(value : Int) else value := by
  have bound : value ≤ 2 ^ 63 - 1 := small
  have product : sign.toInt * (Int64.ofInt value).toInt =
      if negative then -(value : Int) else value := by
    rw [toInt_ofInt_natCast small, means]
    split <;> omega
  generalize signedValue : (if negative then -(value : Int) else value) = number at product
  have fits : (Int64.ofInt number).toInt = number := by
    apply Int64.toInt_ofInt_of_le <;> (split at signedValue <;> omega)
  refine ⟨.ofInt number, ?_, fits⟩
  rw [signed, product, word?, if_pos fits]

/-- A text begins with a byte that is a character exactly if it begins with that character. -/
theorem head?_bytes_eq_iff {first mark : Char} {byte : UInt8} (rest : List Char)
    (single : String.utf8EncodeChar mark = [byte]) :
    (String.ofList (first :: rest)).toUTF8.toList.head? = some byte ↔ first = mark := by
  rw [Text.bytes_ofList, List.flatMap_cons]
  constructor
  · intro starts
    refine (Text.eq_of_encodeChar_prefix ?_).symm
    cases encoded : String.utf8EncodeChar first with
    | nil => exact absurd encoded String.utf8EncodeChar_ne_nil
    | cons head others =>
        rw [encoded, List.cons_append, List.head?_cons] at starts
        rw [single, ← Option.some.inj starts]
        exact ⟨others, rfl⟩
  · rintro rfl
    rw [single]
    rfl

theorem textFrom_one {mark : Char} (single : mark.utf8Size = 1) (rest : List Char) :
    textFrom (String.ofList (mark :: rest)) 1 = .ok (String.ofList rest) := by
  have whole : String.ofList (mark :: rest) = String.singleton mark ++ String.ofList rest := by
    rw [← String.toList_inj]
    simp
  have size : (String.singleton mark).utf8ByteSize = 1 := by
    rw [String.utf8ByteSize_singleton, single]
  rw [whole, ← size, textFrom_append]

theorem signAndRest_eq {first : Char} {rest : List Char} {byte : UInt8}
    (starts : (String.ofList (first :: rest)).toUTF8.toList.head? = some byte) :
    ∃ sign, signAndRest byte (String.ofList (first :: rest)) =
        .ok (sign, String.ofList (leadingSign (first :: rest)).2) ∧
      sign.toInt = if (leadingSign (first :: rest)).1 then -1 else 1 := by
  have minus : (String.ofList (first :: rest)).toUTF8.toList.head? = some 0x2d ↔ first = '-' :=
    head?_bytes_eq_iff rest rfl
  have plus : (String.ofList (first :: rest)).toUTF8.toList.head? = some 0x2b ↔ first = '+' :=
    head?_bytes_eq_iff rest rfl
  rw [starts, Option.some.injEq] at minus plus
  unfold signAndRest
  simp only [minus, plus]
  by_cases isMinus : first = '-'
  · subst isMinus
    refine ⟨-1, ?_, rfl⟩
    rw [if_pos rfl, textFrom_one rfl]
    rfl
  · by_cases isPlus : first = '+'
    · subst isPlus
      refine ⟨1, ?_, rfl⟩
      rw [if_neg isMinus, if_pos rfl, textFrom_one rfl]
      rfl
    · have unsigned : leadingSign (first :: rest) = (false, first :: rest) := by
        unfold leadingSign
        split <;> simp_all
      refine ⟨1, ?_, ?_⟩
      · rw [if_neg isMinus, if_neg isPlus, unsigned]
      · rw [unsigned]
        rfl

/-! ## Readings -/

theorem textUpTo_endOfDigits (text : String) :
    textUpTo text (endOfDigits text) = .ok (String.ofList (leadingDigits text.toList).1) := by
  have whole : text = String.ofList (leadingDigits text.toList).1 ++
      String.ofList (leadingDigits text.toList).2 := by
    rw [← String.toList_inj, String.toList_append, String.toList_ofList, String.toList_ofList]
    exact List.takeWhile_append_dropWhile.symm
  have cut := textUpTo_append (String.ofList (leadingDigits text.toList).1)
    (String.ofList (leadingDigits text.toList).2)
  rwa [← whole] at cut

theorem signedWord?_eq {sign : Int64} {negative : Bool} (text : String)
    (means : sign.toInt = if negative then -1 else 1) :
    ∃ word, signedWord? sign text = .ok word ∧
      word.map Int64.toInt = (numeral? (leadingDigits text.toList).1).bind fun value =>
        if maxSigned < value then none else some (if negative then -(value : Int) else value) := by
  have areDigits : ∀ digit ∈ (leadingDigits text.toList).1, digit.isDigit = true :=
    fun digit member => List.mem_takeWhile_imp member
  have digits : wordOfDigits? (String.ofList (leadingDigits text.toList).1).toList =
      (numeral? (leadingDigits text.toList).1).bind fun value =>
        if value ≤ maxSigned then some (.ofInt value) else none := by
    rw [String.toList_ofList, wordOfDigits?_eq areDigits]
  rw [signedWord?, textUpTo_endOfDigits]
  simp only [bind, Except.bind, digits]
  cases numeral? (leadingDigits text.toList).1 with
  | none => exact ⟨none, rfl, rfl⟩
  | some value =>
      simp only [Option.bind_some]
      by_cases small : value ≤ maxSigned
      · obtain ⟨word, product, valued⟩ := signed_eq small means
        refine ⟨some word, ?_, ?_⟩
        · simp only [if_pos small, product, Except.map]
        · rw [if_neg (Nat.not_lt.2 small), Option.map_some, valued]
      · refine ⟨none, ?_, ?_⟩
        · rw [if_neg small]
        · rw [if_pos (Nat.lt_of_not_le small), Option.map_none]

/-- The reading of a text ends, with the word of the number that the text starts with. -/
theorem leadingWord?_eq (text : String) :
    ∃ word, leadingWord? text = .ok word ∧ word.map Int64.toInt = leadingInteger? text := by
  rw [leadingInteger?_eq]
  unfold leadingWord?
  cases Text.trimLeft text.toList with
  | nil =>
      have empty : (String.ofList []).toUTF8.toList = [] := Text.bytes_ofList []
      refine ⟨none, ?_, rfl⟩
      simp only [empty, List.head?_nil]
  | cons first rest =>
      have nonempty : (String.ofList (first :: rest)).toUTF8.toList ≠ [] := by
        rw [Text.bytes_ofList, List.flatMap_cons]
        simp
      obtain ⟨byte, bytes, spelled⟩ := List.exists_cons_of_ne_nil nonempty
      have starts : (String.ofList (first :: rest)).toUTF8.toList.head? = some byte := by
        rw [spelled, List.head?_cons]
      obtain ⟨sign, cut, means⟩ := signAndRest_eq starts
      obtain ⟨word, read, valued⟩ :=
        signedWord?_eq (String.ofList (leadingSign (first :: rest)).2) means
      refine ⟨word, ?_, ?_⟩
      · simp only [starts, cut, bind, Except.bind, read]
      · rw [valued, String.toList_ofList]

/-- A word that is not negative is the same number without its sign. -/
theorem toNat_toUInt64 {word : Int64} (positive : 0 ≤ word.toInt) :
    word.toUInt64.toNat = word.toInt.toNat := by
  have notNegative : 0 ≤ word := Int64.le_iff_toInt_le.2 positive
  rw [Int64.toNat_toUInt64_of_le notNegative, Int64.toNat_toInt]

/-- The number of a page is read from any text, if no negative number suits the page. -/
theorem pageWord_eq {suits : Int64 → Bool} (wanted : Int → Bool)
    (same : ∀ word : Int64, suits word = wanted word.toInt)
    (positive : ∀ value, wanted value = true → 0 ≤ value)
    (fallback : UInt64) (given : Option String) :
    ∃ word, pageWord suits fallback given = .ok word ∧
      word.toNat =
        (((given.bind leadingInteger?).filter wanted).map Int.toNat).getD fallback.toNat := by
  cases given with
  | none => exact ⟨fallback, rfl, rfl⟩
  | some text =>
      obtain ⟨found, read, valued⟩ := leadingWord?_eq text
      refine ⟨((found.filter suits).map Int64.toUInt64).getD fallback, ?_, ?_⟩
      · rw [pageWord, read, Except.map]
      · rw [Option.bind_some, ← valued]
        cases found with
        | none => rfl
        | some word =>
            rw [Option.map_some, Option.filter_some, Option.filter_some, same word]
            by_cases isWanted : wanted word.toInt = true
            · rw [if_pos isWanted, if_pos isWanted]
              exact toNat_toUInt64 (positive _ isWanted)
            · rw [if_neg isWanted, if_neg isWanted]
              rfl

theorem sizeWord_eq (given : Option String) :
    ∃ word, sizeWord given = .ok word ∧ word.toNat = sizeOf given := by
  rw [sizeOf_eq]
  refine pageWord_eq (0 < ·) (fun word => ?_) (fun value wanted => ?_) 20 given
  · exact decide_eq_decide.2 Int64.lt_iff_toInt_lt
  · exact (of_decide_eq_true wanted).le

theorem startWord_eq (given : Option String) :
    ∃ word, startWord given = .ok word ∧ word.toNat = startOf given := by
  rw [startOf_eq]
  refine pageWord_eq (0 ≤ ·) (fun word => ?_) (fun value wanted => ?_) 0 given
  · exact decide_eq_decide.2 Int64.le_iff_toInt_le
  · exact of_decide_eq_true wanted

end Machine

end PackageSearch.Query
