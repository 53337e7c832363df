import Mathlib
import PackageSearch.Json.Node
import PackageSearch.Proofs.Text.Utf8

/-!
# Reading quoted texts

A quoted text is read as the text it was made from. The reader collects pieces, bytes or escaped
units; each character of the text leaves pieces that stand for the character's bytes, so all of them
together stand for the text's.
-/

set_option autoImplicit false

namespace PackageSearch.Json

open String (utf8EncodeChar)

/-! ## Steps of the reader -/

theorem hexUnit_length {text rest : Bytes} {value : Nat}
    (result : hexUnit text = .ok (value, rest)) :
    rest.length < text.length := by
  unfold hexUnit at result
  split at result
  · split at result
    · cases result
      simp only [List.length_cons]
      omega
    · cases result
  · cases result

/-- One step for each byte is enough, and more change nothing. -/
theorem readPieces_fuel {fuel more : Nat} {pieces : List Piece} {text : Bytes}
    (enough : text.length < fuel) (alsoEnough : text.length < more) :
    readPieces fuel pieces text = readPieces more pieces text := by
  induction fuel generalizing more pieces text with
  | zero => cases enough
  | succ fuel ih =>
      cases more with
      | zero => cases alsoEnough
      | succ more =>
          cases text with
          | nil => rfl
          | cons byte rest =>
              simp only [List.length_cons] at enough alsoEnough
              have next (pieces : List Piece) (text : Bytes) (shorter : text.length ≤ rest.length) :
                  readPieces fuel pieces text = readPieces more pieces text :=
                ih (by omega) (by omega)
              simp only [readPieces]
              split
              · rfl
              split
              · cases rest with
                | nil => rfl
                | cons letter rest =>
                    simp only [List.length_cons] at next
                    simp only
                    split
                    · cases unit : hexUnit rest with
                      | error fault => rfl
                      | ok found =>
                          have shorter := hexUnit_length unit
                          exact next _ _ (by omega)
                    · split
                      · exact next _ _ (by omega)
                      · rfl
              split
              · rfl
              · exact next _ _ (Nat.le_refl _)

/-- The pieces of a text up to its closing quotation mark, behind those already read. -/
def piecesFrom (pieces : List Piece) (text : Bytes) : Except Break (List Piece × Bytes) :=
  readPieces (text.length + 1) pieces text

section Steps

variable {pieces : List Piece} {rest : Bytes}

theorem piecesFrom_close : piecesFrom pieces (0x22 :: rest) = .ok (pieces, rest) := rfl

theorem piecesFrom_plain {byte : UInt8} (noMark : byte ≠ 0x22) (noEscape : byte ≠ 0x5c)
    (visible : 0x20 ≤ byte) :
    piecesFrom pieces (byte :: rest) = piecesFrom (.byte byte :: pieces) rest := by
  have notBelow : ¬ byte < 0x20 := UInt8.not_lt.mpr visible
  simp only [piecesFrom, List.length_cons, readPieces, if_neg noMark, if_neg noEscape,
    if_neg notBelow]

theorem piecesFrom_escape {letter value : UInt8} (other : letter ≠ 0x75)
    (known : escapeByte? letter = some value) :
    piecesFrom pieces (0x5c :: letter :: rest) = piecesFrom (.byte value :: pieces) rest := by
  have first : (0x5c : UInt8) ≠ 0x22 := by decide
  simp only [piecesFrom, List.length_cons, readPieces, if_neg first, if_pos, if_neg other, known]
  exact readPieces_fuel (by omega) (by omega)

theorem piecesFrom_unit {text : Bytes} {value : Nat} (unit : hexUnit text = .ok (value, rest)) :
    piecesFrom pieces (0x5c :: 0x75 :: text) = piecesFrom (.unit value :: pieces) rest := by
  have first : (0x5c : UInt8) ≠ 0x22 := by decide
  have shorter := hexUnit_length unit
  simp only [piecesFrom, List.length_cons, readPieces, if_neg first, if_pos, unit]
  exact readPieces_fuel (by omega) (by omega)

end Steps

/-! ## The pieces of a text -/

/-- The characters that have an escape of their own. -/
def shortEscapes : List Char := ['"', '\\', '\n', '\r', '\t', '\x08', '\x0c']

/-- The control characters that are escaped by number. -/
def byNumber (character : Char) : Prop :=
  character ∉ shortEscapes ∧ character.toNat < 0x20

instance (character : Char) : Decidable (byNumber character) :=
  inferInstanceAs (Decidable (_ ∧ _))

/-- The pieces a character leaves, in order. -/
def piecesOf (character : Char) : List Piece :=
  if byNumber character then [.unit character.toNat]
  else (utf8EncodeChar character).map .byte

def escapedBytes (character : Char) : Bytes :=
  (escaped character).flatMap utf8EncodeChar

/-- A byte that stands for itself between quotation marks. -/
def IsPlain (byte : UInt8) : Prop := byte ≠ 0x22 ∧ byte ≠ 0x5c ∧ 0x20 ≤ byte

theorem piecesFrom_map_byte {bytes : Bytes} (pieces : List Piece) (rest : Bytes)
    (plain : ∀ byte ∈ bytes, IsPlain byte) :
    piecesFrom pieces (bytes ++ rest) = piecesFrom ((bytes.map .byte).reverse ++ pieces) rest := by
  induction bytes generalizing pieces with
  | nil => rfl
  | cons byte bytes ih =>
      obtain ⟨noMark, noEscape, visible⟩ := plain byte List.mem_cons_self
      rw [List.cons_append, piecesFrom_plain noMark noEscape visible,
        ih _ fun other member => plain other (List.mem_cons_of_mem _ member)]
      simp

theorem isPlain_ofNat {code : Nat} (small : code < 256) (noMark : code ≠ 0x22)
    (noEscape : code ≠ 0x5c) (visible : 0x20 ≤ code) : IsPlain (UInt8.ofNat code) := by
  have value : (UInt8.ofNat code).toNat = code := UInt8.toNat_ofNat_of_lt' small
  refine ⟨fun same => noMark ?_, fun same => noEscape ?_, ?_⟩
  · rw [← value, same]
    rfl
  · rw [← value, same]
    rfl
  · rw [UInt8.le_iff_toNat_le, value]
    exact visible

/-- The bytes of a visible character that needs no escape stand for themselves. -/
theorem isPlain_of_mem {character : Char} (noMark : character ≠ '"')
    (noEscape : character ≠ '\\') (visible : 0x20 ≤ character.toNat) :
    ∀ byte ∈ utf8EncodeChar character, IsPlain byte := by
  have mark : character.val.toNat ≠ 0x22 := fun same => noMark (Char.toNat_inj.mp same)
  have escape : character.val.toNat ≠ 0x5c := fun same => noEscape (Char.toNat_inj.mp same)
  have shown : 0x20 ≤ character.val.toNat := visible
  intro byte member
  simp only [utf8EncodeChar] at member
  -- Every byte of a character of several bytes is at least 0x80.
  repeat' split at member
  all_goals
    simp only [List.mem_cons, List.not_mem_nil, or_false] at member
    rcases member with rfl | rfl | rfl | rfl <;> apply isPlain_ofNat <;> omega

theorem hexValue?_hexDigit {value : Nat} (small : value < 16) :
    utf8EncodeChar (hexDigit value) = [UInt8.ofNat (hexDigit value).toNat] ∧
      hexValue? (UInt8.ofNat (hexDigit value).toNat) = some value := by
  have all : ∀ value < 16, utf8EncodeChar (hexDigit value) =
      [UInt8.ofNat (hexDigit value).toNat] ∧
      hexValue? (UInt8.ofNat (hexDigit value).toNat) = some value := by decide
  exact all value small

theorem hexUnit_escaped {code : Nat} (small : code < 0x20) (rest : Bytes) :
    hexUnit (0x30 :: 0x30 :: (utf8EncodeChar (hexDigit (code / 16)) ++
      utf8EncodeChar (hexDigit (code % 16)) ++ rest)) = .ok (code, rest) := by
  obtain ⟨high, highValue⟩ := hexValue?_hexDigit (by omega : code / 16 < 16)
  obtain ⟨low, lowValue⟩ := hexValue?_hexDigit (by omega : code % 16 < 16)
  have zero : hexValue? 0x30 = some 0 := by decide
  have whole : ((0 * 16 + 0) * 16 + code / 16) * 16 + code % 16 = code := by omega
  simp only [high, low, List.cons_append, List.nil_append, hexUnit, zero, highValue, lowValue,
    whole]

theorem escapedBytes_short {character : Char} (short : character ∈ shortEscapes) :
    ∃ letter value, letter ≠ 0x75 ∧ escapeByte? letter = some value ∧
      escapedBytes character = [0x5c, letter] ∧ utf8EncodeChar character = [value] := by
  simp only [shortEscapes, List.mem_cons, List.not_mem_nil, or_false] at short
  rcases short with rfl | rfl | rfl | rfl | rfl | rfl | rfl <;>
    exact ⟨_, _, by decide, rfl, rfl, rfl⟩

theorem escaped_of_not_short {character : Char} (other : character ∉ shortEscapes) :
    escaped character =
      if character.toNat < 0x20 then
        ['\\', 'u', '0', '0', hexDigit (character.toNat / 16), hexDigit (character.toNat % 16)]
      else [character] := by
  simp only [shortEscapes, List.mem_cons, List.not_mem_nil, or_false, not_or] at other
  obtain ⟨quote, backslash, newline, carriage, tab, back, feed⟩ := other
  have notBack : character.toNat ≠ 0x08 := fun same => back (Char.toNat_inj.mp same)
  have notFeed : character.toNat ≠ 0x0c := fun same => feed (Char.toNat_inj.mp same)
  rw [escaped, if_neg quote, if_neg backslash, if_neg newline, if_neg carriage, if_neg tab,
    if_neg notBack, if_neg notFeed]

theorem piecesFrom_escapedBytes (character : Char) (pieces : List Piece) (rest : Bytes) :
    piecesFrom pieces (escapedBytes character ++ rest) =
      piecesFrom ((piecesOf character).reverse ++ pieces) rest := by
  by_cases short : character ∈ shortEscapes
  · obtain ⟨letter, value, other, known, bytes, single⟩ := escapedBytes_short short
    rw [bytes, piecesOf, if_neg fun numbered => numbered.1 short, single]
    exact piecesFrom_escape other known
  · by_cases control : character.toNat < 0x20
    · rw [piecesOf, if_pos ⟨short, control⟩, escapedBytes, escaped_of_not_short short,
        if_pos control]
      apply piecesFrom_unit
      have zero : utf8EncodeChar '0' = [0x30] := rfl
      simpa [List.flatMap_cons, zero] using hexUnit_escaped control rest
    · rw [piecesOf, if_neg fun numbered => control numbered.2, escapedBytes,
        escaped_of_not_short short, if_neg control, List.flatMap_singleton]
      apply piecesFrom_map_byte
      apply isPlain_of_mem
      · rintro rfl
        exact short (by decide)
      · rintro rfl
        exact short (by decide)
      · exact Nat.le_of_not_lt control

theorem piecesFrom_escapedText (characters : List Char) (pieces : List Piece) (rest : Bytes) :
    piecesFrom pieces (characters.flatMap escapedBytes ++ rest) =
      piecesFrom ((characters.flatMap piecesOf).reverse ++ pieces) rest := by
  induction characters generalizing pieces with
  | nil => rfl
  | cons character characters ih =>
      rw [List.flatMap_cons, List.append_assoc, piecesFrom_escapedBytes, ih, List.flatMap_cons,
        List.reverse_append, List.append_assoc]

/-! ## The bytes of the pieces -/

def Piece.bytes : Piece → Bytes
  | .byte value => [value]
  | .unit value => characterBytes value

/-- A piece that is no half of a pair of surrogates. -/
def Piece.IsWhole : Piece → Prop
  | .byte _ => True
  | .unit value => isLowSurrogate value = false ∧ isHighSurrogate value = false

theorem pieceBytes?_of_whole {pieces : List Piece} (whole : ∀ piece ∈ pieces, piece.IsWhole)
    (bytes : Bytes) :
    pieceBytes? pieces bytes = some (pieces.reverse.flatMap Piece.bytes ++ bytes) := by
  induction pieces generalizing bytes with
  | nil => rfl
  | cons piece rest ih =>
      have later := ih fun other member => whole other (List.mem_cons_of_mem _ member)
      have first := whole piece List.mem_cons_self
      cases piece with
      | byte value =>
          rw [pieceBytes?, later]
          simp [Piece.bytes]
      | unit value =>
          obtain ⟨notLow, notHigh⟩ := first
          have step : pieceBytes? (.unit value :: rest) bytes =
              pieceBytes? rest (characterBytes value ++ bytes) := by
            cases rest with
            | nil => simp [pieceBytes?, notLow, notHigh]
            | cons next rest => cases next <;> simp [pieceBytes?, notLow, notHigh]
          rw [step, later]
          simp [Piece.bytes]

theorem isWhole_of_mem {character : Char} : ∀ piece ∈ piecesOf character, piece.IsWhole := by
  intro piece member
  unfold piecesOf at member
  split at member
  · rename_i numbered
    rw [List.mem_singleton.mp member]
    have low : ∀ code < 0x20, isLowSurrogate code = false ∧ isHighSurrogate code = false := by
      decide
    exact low _ numbered.2
  · obtain ⟨byte, -, rfl⟩ := List.mem_map.mp member
    trivial

/-- The pieces of a character stand for its bytes. -/
theorem bytes_piecesOf (character : Char) :
    (piecesOf character).flatMap Piece.bytes = utf8EncodeChar character := by
  unfold piecesOf
  split
  · have bytes : characterBytes character.toNat = utf8EncodeChar character := by
      rw [characterBytes, Char.ofNat_toNat, Text.bytes_eq]
      simp
    simpa [Piece.bytes] using bytes
  · rw [List.flatMap_map]
    exact List.flatMap_singleton' _

/-- A quoted text is read as the text it was made from, whatever follows. -/
theorem readText_quoted (text : String) (rest : Bytes) :
    readText (text.toList.flatMap escapedBytes ++ 0x22 :: rest) = .ok (.ok text, rest) := by
  have read : readPieces ((text.toList.flatMap escapedBytes ++ 0x22 :: rest).length + 1) []
      (text.toList.flatMap escapedBytes ++ 0x22 :: rest) =
      .ok ((text.toList.flatMap piecesOf).reverse, rest) := by
    have pieces := piecesFrom_escapedText text.toList [] (0x22 :: rest)
    rw [piecesFrom_close, List.append_nil] at pieces
    exact pieces
  have whole : ∀ piece ∈ (text.toList.flatMap piecesOf).reverse, piece.IsWhole := by
    intro piece member
    obtain ⟨character, -, held⟩ := List.mem_flatMap.mp (List.mem_reverse.mp member)
    exact isWhole_of_mem piece held
  have bytes : pieceBytes? (text.toList.flatMap piecesOf).reverse [] = some text.toUTF8.toList := by
    rw [pieceBytes?_of_whole whole, List.append_nil, List.reverse_reverse, List.flatMap_assoc,
      Text.bytes_eq]
    simp only [bytes_piecesOf]
  rw [readText, read]
  simp only [bind, Except.bind, textOf, bytes, Option.bind_some, Text.utf8?_bytes]

/-- A quoted text: its escaped characters between quotation marks. -/
theorem quoted_bytes (text : String) :
    (quoted text).toUTF8.toList = 0x22 :: (text.toList.flatMap escapedBytes ++ [0x22]) := by
  have mark : utf8EncodeChar '"' = [0x22] := rfl
  rw [quoted, Text.bytes_ofList]
  simp only [List.cons_append, List.flatMap_cons, List.flatMap_append, List.flatMap_assoc,
    List.flatMap_nil, mark, List.nil_append]
  rfl

end PackageSearch.Json
