import Mathlib
import PackageSearch.Proofs.Pattern.Places

/-!
# Escaped texts

An escaped text is read as its characters one behind the other, whatever meaning they have in other
patterns. So its pattern occurs where the text does, and it is refused only for its size.
-/

set_option autoImplicit false

namespace PackageSearch.Pattern

open Text (CharacterSet)

/-! ## Reading -/

def letterExpression (character : Char) : Expression := .letter ⟨character, false⟩

def literalExpression : List Char → Expression
  | [character] => letterExpression character
  | text => .sequence (text.map letterExpression)

theorem metaCharacters_eq : metaCharacters =
    ['\\', '.', '+', '*', '?', '(', ')', '|', '[', ']', '\x7b', '\x7d', '^', '$', '#', '&',
      '-', '~'] := by
  decide +kernel

theorem readEscape?_metaCharacter {character : Char} (isMeta : character ∈ metaCharacters)
    (rest : List Char) :
    readEscape? false (character :: rest) = some (letterExpression character, rest) := by
  rw [metaCharacters_eq] at isMeta
  fin_cases isMeta <;> rfl

theorem readChoice?_escapedCharacter (fuel : Nat) (character : Char) (rest : List Char)
    (names : List (List Char)) (parts branches : List Expression) :
    readChoice? (fuel + 1) ⟨escapedCharacter character ++ rest, false, names⟩ parts branches =
      readChoice? fuel ⟨rest, false, names⟩ (letterExpression character :: parts) branches := by
  by_cases isMeta : character ∈ metaCharacters
  · have escaped : escapedCharacter character ++ rest = '\\' :: character :: rest := by
      simp [escapedCharacter, isMeta]
    rw [escaped, readChoice?]
    simp [skip, readEscape?_metaCharacter isMeta]
  · have escaped : escapedCharacter character ++ rest = character :: rest := by
      simp [escapedCharacter, isMeta]
    rw [escaped, readChoice?]
    simp only [skip, Bool.false_eq_true, if_false]
    rw [metaCharacters_eq] at isMeta
    split <;> simp_all [letterExpression]

theorem readChoice?_escaped {text : List Char} {fuel : Nat} (enough : text.length ≤ fuel)
    (names : List (List Char)) (parts branches : List Expression) :
    readChoice? (fuel + 1) ⟨text.flatMap escapedCharacter, false, names⟩ parts branches =
      some (choiceOf (sequenceOf ((text.map letterExpression).reverse ++ parts) :: branches),
        ⟨[], false, names⟩) := by
  induction text generalizing fuel parts with
  | nil =>
      rw [List.flatMap_nil, readChoice?]
      rfl
  | cons character rest ih =>
      obtain ⟨less, rfl⟩ : ∃ less, fuel = less + 1 :=
        Nat.exists_eq_add_one.2 (Nat.lt_of_lt_of_le (Nat.succ_pos _) enough)
      rw [List.flatMap_cons, readChoice?_escapedCharacter, ih (Nat.le_of_succ_le_succ enough),
        List.map_cons, List.reverse_cons, List.append_assoc, List.singleton_append]

theorem sequenceOf_letters (text : List Char) :
    sequenceOf (text.map letterExpression).reverse = literalExpression text := by
  match text with
  | [] => rfl
  | [character] => rfl
  | first :: second :: rest =>
      rw [sequenceOf, List.reverse_reverse]
      · rfl
      · intro part single
        have length := congrArg List.length single
        simp at length

theorem depth_literalExpression (text : List Char) : (literalExpression text).depth ≤ 1 := by
  have flat : partsDepth (text.map letterExpression) = 0 := by
    induction text with
    | nil => rfl
    | cons character rest ih => exact (congrArg (max 0) ih).trans (Nat.max_self 0)
  match text with
  | [] => exact Nat.zero_le _
  | [character] => exact Nat.zero_le _
  | first :: second :: rest =>
      rw [literalExpression, Expression.depth, flat]
      · split <;> omega
      · simp

theorem length_le_length_escaped (text : List Char) :
    text.length ≤ (text.flatMap escapedCharacter).length := by
  induction text with
  | nil => exact Nat.le_refl _
  | cons character rest ih =>
      have step : 1 ≤ (escapedCharacter character).length := by
        rw [escapedCharacter]
        split <;> simp
      rw [List.length_cons, List.flatMap_cons, List.length_append]
      omega

theorem ofText?_escaped (text : List Char) :
    Expression.ofText? (text.flatMap escapedCharacter) = some (literalExpression text) := by
  have depth : (literalExpression text).depth ≤ maxDepth :=
    (depth_literalExpression text).trans (by decide)
  rw [Expression.ofText?, readChoice?_escaped (length_le_length_escaped text), List.append_nil,
    sequenceOf_letters, choiceOf]
  simp [depth]

/-! ## The pattern -/

def letterPattern (character : Char) : Pattern := .oneOf (.singleton character.toNat)

def literalPattern : List Char → Pattern
  | [character] => letterPattern character
  | text => .sequence (text.map letterPattern)

theorem patternOf?_letterExpression (character : Char) :
    patternOf? .initial (letterExpression character) =
      some (letterPattern character, .initial) := rfl

theorem patternsOf?_letters (text : List Char) :
    patternsOf? .initial (text.map letterExpression) =
      some (text.map letterPattern, .initial) := by
  induction text with
  | nil => rfl
  | cons character rest ih =>
      rw [List.map_cons, patternsOf?, patternOf?_letterExpression]
      simp [ih]

theorem patternOf?_literalExpression (text : List Char) :
    patternOf? .initial (literalExpression text) = some (literalPattern text, .initial) := by
  match text with
  | [] => rfl
  | [character] => rfl
  | first :: second :: rest =>
      rw [literalExpression, patternOf?, patternsOf?_letters]
      · rfl
      · simp

theorem sizes_letters (text : List Char) :
    stateSize * text.length ≤ sizes (text.map letterPattern) := by
  induction text with
  | nil => exact Nat.zero_le _
  | cons character rest ih =>
      have width : 1 ≤ (codeBytes character.toNat).length := by
        rw [codeBytes]
        split_ifs <;> simp
      have once : stateSize * 1 ≤ size (letterPattern character) := by
        have single : size (letterPattern character) =
            stateSize * (codeBytes character.toNat).length := by
          simp [letterPattern, size, setSize, CharacterSet.singleton]
        rw [single]
        exact Nat.mul_le_mul_left _ width
      rw [List.map_cons, sizes, List.length_cons, Nat.mul_succ]
      omega

theorem size_literalPattern (text : List Char) :
    size (literalPattern text) = sizes (text.map letterPattern) := by
  match text with
  | [] => rfl
  | [character] => rfl
  | first :: second :: rest => rfl

/-! ## Matching -/

theorem contains_letter_iff {character other : Char} :
    (CharacterSet.singleton character.toNat).contains other.toNat = true ↔ other = character := by
  rw [CharacterSet.contains_singleton, decide_eq_true_iff, Char.toNat_inj]

theorem cons_prefix_drop_iff {character : Char} {rest text : List Char} {index : Nat} :
    character :: rest <+: text.drop index ↔
      text[index]? = some character ∧ rest <+: text.drop (index + 1) := by
  rw [← List.head?_drop, ← List.tail_drop]
  cases text.drop index with
  | nil => simp
  | cons first others => simp [List.cons_prefix_cons, eq_comm]

/-- A letter leads from a place to the next one, over this letter. -/
theorem getElem?_ends_letter {before : Option Char} {text : List Char} {starts : Marks}
    (length : starts.length = text.length + 1) (character : Char) (index : Nat) :
    (ends (places before text) (letterPattern character) starts)[index]? = some true ↔
      ∃ earlier, index = earlier + 1 ∧ starts[earlier]? = some true ∧
        text[earlier]? = some character := by
  simp only [letterPattern, getElem?_ends_oneOf length, contains_letter_iff, exists_eq_right]

/-- Letters lead somewhere exactly if they stand behind some place to start from. -/
theorem any_endsOfAll_letters {before : Option Char} {text : List Char} {starts : Marks}
    (length : starts.length = text.length + 1) (wanted : List Char) :
    (endsOfAll (places before text) (wanted.map letterPattern) starts).any id = true ↔
      ∃ index : Nat, starts[index]? = some true ∧ wanted <+: text.drop index := by
  induction wanted generalizing starts with
  | nil =>
      rw [List.map_nil, endsOfAll, any_marks_iff]
      simp
  | cons character rest ih =>
      let next := ends (places before text) (letterPattern character) starts
      have step : (∃ index : Nat, next[index]? = some true ∧ rest <+: text.drop index) ↔
          ∃ index : Nat, starts[index]? = some true ∧ character :: rest <+: text.drop index := by
        simp only [next, getElem?_ends_letter length, cons_prefix_drop_iff]
        constructor
        · rintro ⟨_, ⟨earlier, rfl, begun, found⟩, further⟩
          exact ⟨earlier, begun, found, further⟩
        · rintro ⟨earlier, begun, found, further⟩
          exact ⟨earlier + 1, ⟨earlier, rfl, begun, found⟩, further⟩
      rw [List.map_cons, endsOfAll, ← step]
      split
      · exact ih (length_ends_oneOf length _)
      · rename_i none
        exact iff_of_false none fun ⟨index, begun, _⟩ => none (any_marks_iff.mpr ⟨index, begun⟩)

theorem ends_literalPattern (around : List Neighbours) (wanted : List Char) (starts : Marks) :
    ends around (literalPattern wanted) starts =
      endsOfAll around (wanted.map letterPattern) starts := by
  match wanted with
  | [] => rfl
  | [character] =>
      rw [List.map_singleton, endsOfAll, endsOfAll, ite_self]
      rfl
  | first :: second :: rest => rfl

theorem occursIn_literalPattern {wanted text : List Char} :
    (literalPattern wanted).occursIn text = true ↔ wanted <:+: text := by
  rw [occursIn, ends_literalPattern, any_endsOfAll_letters (length_starts text)]
  constructor
  · rintro ⟨index, -, leads⟩
    exact leads.isInfix.trans (List.drop_suffix index text).isInfix
  · intro inside
    obtain ⟨behind, leads, ends⟩ := List.infix_iff_prefix_suffix.mp inside
    refine ⟨text.length - behind.length, getElem?_starts (Nat.sub_le ..), ?_⟩
    rwa [← List.suffix_iff_eq_drop.mp ends]

/-! ## The engine -/

theorem toList_escape (text : String) :
    (engine.escape text).toList = text.toList.flatMap escapedCharacter :=
  String.toList_ofList

theorem ofText?_escape (text : String) :
    ofText? (engine.escape text) =
      if wholeSize (literalPattern text.toList) ≤ maxSize then some (literalPattern text.toList)
      else none := by
  rw [ofText?, toList_escape, ofText?_escaped]
  simp [patternOf?_literalExpression]

theorem isLiteral_engine : engine.IsLiteral := by
  intro text passes compiles name
  obtain ⟨pattern, reads, rfl⟩ := Option.map_eq_some_iff.mp compiles
  rw [ofText?_escape] at reads
  split at reads
  · cases reads
    exact occursIn_literalPattern
  · cases reads

/-- An escaped text is refused if it is too large, one state a character. -/
theorem compile?_escape_of_oversized {text : String}
    (large : maxSize < stateSize * text.toList.length) :
    engine.compile? (engine.escape text) = none := by
  have exceeds : maxSize < wholeSize (literalPattern text.toList) := by
    have size := sizes_letters text.toList
    rw [wholeSize, size_literalPattern]
    omega
  rw [engine, Option.map_eq_none_iff]
  exact (ofText?_escape text).trans (if_neg (Nat.not_le.mpr exceeds))

end PackageSearch.Pattern
