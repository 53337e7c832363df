import Mathlib
import PackageSearch.Index.Clause
import PackageSearch.Index.Reader
import PackageSearch.Proofs.Text.Runs

/-!
# Query texts of one word

A query text of ASCII letters and digits is read as one word, whatever its letters are, unless it is
an operator. No reader on the way has anything to stop at in it: every character that has a meaning
of its own is a blank or a mark. The clause of such a text asks for the word in each standard field.
-/

set_option autoImplicit false

namespace PackageSearch.Index

open Text (isBlank isAlphanumeric lowerEach lowerText lowerCharacter)

/-- Letters and digits of ASCII, at least one. -/
structure IsWord (word : List Char) : Prop where
  nonempty : word ≠ []
  alphanumeric : ∀ character ∈ word, character.isAlphanum = true

/-- The operators and the other words that a query text reads in a way of their own. -/
def queryWords : List String := ["AND", "OR", "NOT", "IN"]

/-! ## Characters -/

section Characters

variable {character : Char} (alphanumeric : character.isAlphanum = true)

include alphanumeric

theorem ne_of_alphanum {mark : Char} (isMark : mark.isAlphanum = false) : character ≠ mark := by
  rintro rfl
  simp [alphanumeric] at isMark

theorem code_of_alphanum :
    (48 ≤ character.toNat ∧ character.toNat ≤ 57) ∨ (65 ≤ character.toNat ∧ character.toNat ≤ 90) ∨
      (97 ≤ character.toNat ∧ character.toNat ≤ 122) := by
  simp only [Char.isAlphanum, Char.isAlpha, Char.isUpper, Char.isLower, Char.isDigit,
    Bool.or_eq_true, Bool.and_eq_true, decide_eq_true_eq, ge_iff_le, UInt32.le_iff_toNat_le]
      at alphanumeric
  change ((65 ≤ character.toNat ∧ character.toNat ≤ 90) ∨
    (97 ≤ character.toNat ∧ character.toNat ≤ 122)) ∨
      (48 ≤ character.toNat ∧ character.toNat ≤ 57) at alphanumeric
  omega

theorem not_contains_of_alphanum {marks : List Char}
    (areMarks : ∀ mark ∈ marks, mark.isAlphanum = false) : marks.contains character = false := by
  rw [List.contains_eq_mem, decide_eq_false_iff_not]
  exact fun listed => ne_of_alphanum alphanumeric (areMarks character listed) rfl

theorem reservedInField_of_alphanum : reservedInField.contains character = false := by
  have listed : reservedInField = ['+', '^', '\x60', ':', '\x7b', '\x7d', '"', '\'', '[', ']',
      '(', ')', '!', '\\', '*', ' '] := rfl
  rw [listed]
  exact not_contains_of_alphanum alphanumeric (by simp)

theorem isSpacing_of_alphanum : isSpacing character = false := by
  have marks : ∀ mark ∈ [' ', '\t', '\n', '\r'], mark.isAlphanum = false := by simp
  have foreign := not_contains_of_alphanum alphanumeric marks
  simpa [isSpacing, and_assoc] using foreign

theorem isBlank_of_alphanum : isBlank character = false := by
  have code := code_of_alphanum alphanumeric
  simp only [isBlank, Bool.or_eq_false_iff, Bool.and_eq_false_iff, decide_eq_false_iff_not]
  omega

theorem isAlphanumeric_of_alphanum : isAlphanumeric character = true := by
  have code := code_of_alphanum alphanumeric
  rw [isAlphanumeric, if_pos (by omega)]
  exact alphanumeric

theorem lowerCharacter_of_alphanum : lowerCharacter character = [character.toLower] := by
  have code := code_of_alphanum alphanumeric
  rw [lowerCharacter, if_pos (by omega)]

theorem toLower_utf8Size_of_alphanum : character.toLower.utf8Size = 1 := by
  have narrow : ∀ code < 123, (Char.ofNat code).toLower.utf8Size = 1 := by decide +kernel
  have code := code_of_alphanum alphanumeric
  simpa using narrow character.toNat (by omega)

end Characters

namespace IsWord

variable {word : List Char}

theorem exists_cons (isWord : IsWord word) : ∃ first rest, word = first :: rest ∧
    first.isAlphanum = true ∧ ∀ character ∈ rest, character.isAlphanum = true := by
  obtain ⟨first, rest, rfl⟩ := List.exists_cons_of_ne_nil isWord.nonempty
  exact ⟨first, rest, rfl, isWord.alphanumeric first List.mem_cons_self,
    fun character listed => isWord.alphanumeric character (List.mem_cons_of_mem _ listed)⟩

end IsWord

/-! ## Readers -/

section Readers

variable {word : List Char} (alphanumeric : ∀ character ∈ word, character.isAlphanum = true)

include alphanumeric

theorem skipSpacing_of_alphanum : skipSpacing word = word := by
  cases word with
  | nil => rfl
  | cons first rest =>
      have unspaced := isSpacing_of_alphanum (alphanumeric first List.mem_cons_self)
      rw [skipSpacing, List.dropWhile_cons_of_neg (by simp [unspaced])]

theorem fieldSpan_of_alphanum : fieldSpan word = (word, []) := by
  induction word with
  | nil => rfl
  | cons first rest ih =>
      have plain := alphanumeric first List.mem_cons_self
      have unreserved := reservedInField_of_alphanum plain
      have others := ih fun character listed =>
        alphanumeric character (List.mem_cons_of_mem _ listed)
      rw [fieldSpan, unreserved, others]
      · simp
      · rintro _ _ rfl
        simp at plain
      · rintro rfl
        simp at plain

theorem wordSpan_of_alphanum {stops : List Char}
    (marks : ∀ mark ∈ stops, mark.isAlphanum = false) : wordSpan stops word = (word, []) := by
  induction word with
  | nil => rfl
  | cons first rest ih =>
      have plain := alphanumeric first List.mem_cons_self
      have others := ih fun character listed =>
        alphanumeric character (List.mem_cons_of_mem _ listed)
      unfold wordSpan
      split
      case h_1 same => cases same
      case h_2 same =>
        cases same
        simp at plain
      case h_3 same =>
        cases same
        rw [isBlank_of_alphanum plain, not_contains_of_alphanum plain marks, others]
        rfl

theorem unescaped_of_alphanum : unescaped word = word := by
  induction word with
  | nil => rfl
  | cons first rest ih =>
      have plain := alphanumeric first List.mem_cons_self
      have others := ih fun character listed =>
        alphanumeric character (List.mem_cons_of_mem _ listed)
      rw [unescaped, others]
      · rintro _ _ rfl
        simp at plain
      · rintro rfl
        simp at plain

end Readers

namespace IsWord

variable {word : List Char} (isWord : IsWord word)

include isWord

theorem readField_eq : readField? word = none := by
  obtain ⟨first, rest, rfl, plain, _⟩ := isWord.exists_cons
  have span := fieldSpan_of_alphanum isWord.alphanumeric
  simp [readField?, span, skipSpacing]

theorem readTerm_eq {stops : List Char} (marks : ∀ mark ∈ stops, mark.isAlphanum = false) :
    readTerm stops word = (some (.none, word), []) := by
  have read : readWord stops word = (some word, []) := by
    rw [readWord, skipSpacing_of_alphanum isWord.alphanumeric,
      wordSpan_of_alphanum isWord.alphanumeric marks]
    simp [isWord.nonempty, unescaped_of_alphanum isWord.alphanumeric]
  obtain ⟨first, rest, rfl, plain, _⟩ := isWord.exists_cons
  rw [readTerm, read]
  · rfl
  · rintro _ same
    cases same
    simp at plain
  · rintro _ same
    cases same
    simp at plain

theorem openedSet_eq : openedSet? word = none := by
  have alphanumeric := isWord.alphanumeric
  unfold openedSet?
  split
  case h_1 rest =>
    have plain : ∀ character ∈ rest, character.isAlphanum = true := fun character listed =>
      alphanumeric character (by simp [listed])
    rw [skipSpacing_of_alphanum plain]
    split
    · simp at plain
    · rfl
  case h_2 => rfl

theorem readTarget_eq :
    readTarget word = (some (.phrase none .none (String.ofList word) 0 false), []) := by
  have marks : ∀ mark ∈ [')', '^'], mark.isAlphanum = false := by simp
  have phrase : readPhrase none word =
      (some (.phrase none .none (String.ofList word) 0 false), []) := by
    rw [readPhrase, isWord.readTerm_eq marks]
    rfl
  obtain ⟨first, rest, rfl, plain, _⟩ := isWord.exists_cons
  simp only [readTarget, isWord.readField_eq, skipSpacing_of_alphanum isWord.alphanumeric,
    isWord.openedSet_eq]
  split
  all_goals first
    | exact phrase
    | (rename_i same; cases same; simp at plain)

theorem readSign_eq : readSign word = (none, word) := by
  obtain ⟨first, rest, rfl, plain, _⟩ := isWord.exists_cons
  unfold readSign
  split
  all_goals first
    | rfl
    | (rename_i same; cases same; simp at plain)

theorem readOperator_eq (ordinary : String.ofList word ∉ queryWords) :
    readOperator word = (none, word) := by
  have alphanumeric := isWord.alphanumeric
  have unfollowed {rest : List Char} (plain : ∀ character ∈ rest, character.isAlphanum = true)
      (nonempty : rest ≠ []) : afterOperator? rest = none := by
    unfold afterOperator?
    split
    · exact absurd rfl nonempty
    · simp at plain
    · rfl
  unfold readOperator
  split
  case h_1 rest =>
    have nonempty : rest ≠ [] := by
      rintro rfl
      exact ordinary (by simp [queryWords])
    rw [unfollowed (fun character listed => alphanumeric character (by simp [listed])) nonempty]
  case h_2 rest =>
    have nonempty : rest ≠ [] := by
      rintro rfl
      exact ordinary (by simp [queryWords])
    rw [unfollowed (fun character listed => alphanumeric character (by simp [listed])) nonempty]
  case h_3 => rfl

theorem readLeaf_eq (fuel : Nat) : readElements.readLeaf (fuel + 1) word =
    (some (.leaf (.phrase none .none (String.ofList word) 0 false)), []) := by
  have alphanumeric := isWord.alphanumeric
  unfold readElements.readLeaf
  simp only [isWord.readTarget_eq]
  split
  case h_1 => simp at alphanumeric
  case h_2 => simp at alphanumeric
  case h_3 next rest =>
    have unspaced : isSpacing next = false :=
      isSpacing_of_alphanum (alphanumeric next (by simp))
    simp [unspaced]
  case h_4 => simp [isWord.readField_eq]

/-- A word is read as one phrase in no field. -/
theorem ofText_eq (ordinary : String.ofList word ∉ queryWords) :
    Expression.ofText word = .leaf (.phrase none .none (String.ofList word) 0 false) := by
  have positive : 0 < word.length := List.length_pos_iff.mpr isWord.nonempty
  have read : readElements (2 * word.length + 2) word =
      ([⟨none, none, .leaf (.phrase none .none (String.ofList word) 0 false)⟩], []) := by
    simp only [readElements, skipSpacing_of_alphanum isWord.alphanumeric,
      isWord.readOperator_eq ordinary, isWord.readSign_eq, isWord.readLeaf_eq, readFactor,
      List.length_nil, positive, if_true]
    rfl
  rw [Expression.ofText, read]
  rfl

end IsWord

/-! ## Tokens and clauses -/

namespace IsWord

variable {word : List Char} (isWord : IsWord word)

include isWord

theorem alphanumericRuns_eq : alphanumericRuns word = [word] := by
  apply Text.runs_of_free isWord.nonempty
  intro character listed
  rw [isAlphanumeric_of_alphanum (isWord.alphanumeric character listed)]
  rfl

theorem lowerEach_eq : lowerEach word = word.map Char.toLower := by
  have each : ∀ character ∈ word, lowerCharacter character = [character.toLower] :=
    fun character listed => lowerCharacter_of_alphanum (isWord.alphanumeric character listed)
  rw [Text.lowerEach, List.flatMap_congr each, List.map_eq_flatMap]

/-- Of ASCII letters the lower-case form of a text is that of its characters. -/
theorem lowerText_eq : lowerText word = word.map Char.toLower := by
  have alphanumeric := isWord.alphanumeric
  suffices settled : ∀ before, Text.lowerAfter before word = word.map Char.toLower from settled []
  clear isWord
  induction word with
  | nil => exact fun before => rfl
  | cons first rest ih =>
      intro before
      have plain := alphanumeric first List.mem_cons_self
      have others := ih fun character listed =>
        alphanumeric character (List.mem_cons_of_mem _ listed)
      have noSigma : first ≠ 'Σ' := by
        rintro rfl
        simp at plain
      rw [Text.lowerAfter, if_neg noSigma, lowerCharacter_of_alphanum plain, others,
        List.singleton_append, List.map_cons]

theorem tokensOf_eq : tokensOf word = [word.map Char.toLower] := by
  rw [tokensOf, isWord.alphanumericRuns_eq, List.map_singleton, isWord.lowerEach_eq]

theorem infixTokens_eq : infixTokens word = [word.map Char.toLower] := by
  rw [infixTokens, isWord.alphanumericRuns_eq, List.map_singleton, isWord.lowerText_eq]

/-- The clause of a word asks for it in each standard field, in lower case but for the version. -/
theorem clause_eq (ordinary : String.ofList word ∉ queryWords) :
    Clause.ofExpression (Expression.ofText word) =
      .group (Field.standard.map fun field =>
        (.should, .phrase field
          [if field.isVerbatim then word else word.map Char.toLower] 0)) := by
  have settled (field : Field) : Clause.ofPhrase? word 0 false field =
      some (.phrase field [if field.isVerbatim then word else word.map Char.toLower] 0) := by
    have tokens : field.tokensIn word =
        [if field.isVerbatim then word else word.map Char.toLower] := by
      rw [Field.tokensIn, isWord.tokensOf_eq]
      split <;> rfl
    rw [Clause.ofPhrase?, tokens]
    rfl
  rw [isWord.ofText_eq ordinary]
  simp only [Clause.ofExpression, Clause.settle, Clause.ofLeaf, String.toList_ofList,
    Field.standard, List.filterMap_cons, List.filterMap_nil, settled]
  rfl

theorem utf8ByteSize_lower :
    (String.ofList (word.map Char.toLower)).utf8ByteSize = word.length := by
  have alphanumeric := isWord.alphanumeric
  rw [String.utf8ByteSize_ofList]
  clear isWord
  induction word with
  | nil => rfl
  | cons first rest ih =>
      have others := ih fun character listed =>
        alphanumeric character (List.mem_cons_of_mem _ listed)
      rw [List.map_cons, String.utf8Len_cons, others,
        toLower_utf8Size_of_alphanum (alphanumeric first List.mem_cons_self), List.length_cons]

end IsWord

end PackageSearch.Index
