import Mathlib
import PackageSearch.Proofs.Number.Shortest
import PackageSearch.Text.Blank

/-!
# Displayed numbers

The text of a number shown on its own is read as that number, and the text of what is not a number
as one that is not a number. The digits with their point in any of the three places denote the
decimal they are the digits of.
-/

set_option autoImplicit false

namespace PackageSearch

/-! ## Characters of numbers -/

theorem isBlank_of_isDigit {character : Char} (digit : character.isDigit = true) :
    Text.isBlank character = false := by
  have range := Char.isDigit_iff_toNat.mp digit
  simp only [Char.reduceToNat] at range
  simp only [Text.isBlank, Bool.or_eq_false_iff, Bool.and_eq_false_iff, decide_eq_false_iff_not]
  omega

theorem toLower_of_isDigit {character : Char} (digit : character.isDigit = true) :
    character.toLower = character := by
  have range := Char.isDigit_iff_toNat.mp digit
  simp only [Char.reduceToNat] at range
  have small : ¬ (character.val ≥ 'A'.val ∧ character.val ≤ 'Z'.val) := by
    rintro ⟨letter, -⟩
    have code : 65 ≤ character.toNat := UInt32.le_iff_toNat_le.mp letter
    omega
  exact dif_neg small

theorem trim_eq_self {text : List Char}
    (solid : ∀ character ∈ text, Text.isBlank character = false) :
    Text.trim text = text := by
  have kept {text : List Char} (solid : ∀ character ∈ text, Text.isBlank character = false) :
      Text.trimLeft text = text := by
    cases text with
    | nil => rfl
    | cons first rest =>
        rw [Text.trimLeft, List.dropWhile_cons, if_neg (by simp [solid first List.mem_cons_self])]
  rw [Text.trim, kept solid, kept (by simpa using solid), List.reverse_reverse]

theorem leadingDigits_append {digits rest : List Char}
    (all : ∀ digit ∈ digits, digit.isDigit = true)
    (stop : ∀ next ∈ rest.head?, next.isDigit = false) :
    leadingDigits (digits ++ rest) = (digits, rest) := by
  have nothing : rest.takeWhile Char.isDigit = [] ∧ rest.dropWhile Char.isDigit = rest := by
    cases rest with
    | nil => exact ⟨rfl, rfl⟩
    | cons next rest => simp [stop next rfl]
  rw [leadingDigits, List.takeWhile_append_of_pos all, List.dropWhile_append_of_pos all, nothing.1,
    nothing.2, List.append_nil]

theorem leadingDigits_eq_self {digits : List Char} (all : ∀ digit ∈ digits, digit.isDigit = true) :
    leadingDigits digits = (digits, []) := by
  have whole : leadingDigits (digits ++ []) = (digits, []) := leadingDigits_append all nofun
  rwa [List.append_nil] at whole

theorem leadingSign_of_isDigit {first : Char} {rest : List Char} (digit : first.isDigit = true) :
    leadingSign (first :: rest) = (false, first :: rest) := by
  unfold leadingSign
  split
  · simp_all
  · simp_all
  · rfl

/-! ## Digits around a point -/

/-- A text of digits with a point before its fraction, or with neither. -/
structure IsPositional (text whole fraction : List Char) : Prop where
  text_eq : text = whole ++ if fraction = [] then [] else '.' :: fraction
  wholeGiven : whole ≠ []
  digits : ∀ digit ∈ whole ++ fraction, digit.isDigit = true

namespace IsPositional

variable {text whole fraction : List Char}

theorem exists_first (parts : IsPositional text whole fraction) :
    ∃ first rest, text = first :: rest ∧ first.isDigit = true := by
  obtain ⟨first, rest, rfl⟩ := List.exists_cons_of_ne_nil parts.wholeGiven
  exact ⟨first, _, parts.text_eq, parts.digits first List.mem_cons_self⟩

theorem solid (parts : IsPositional text whole fraction) :
    ∀ character ∈ text, Text.isBlank character = false := by
  intro character member
  rw [parts.text_eq] at member
  rcases List.mem_append.mp member with inWhole | behind
  · exact isBlank_of_isDigit (parts.digits _ (List.mem_append_left _ inWhole))
  · split at behind
    · cases behind
    · rcases List.mem_cons.mp behind with rfl | inFraction
      · rfl
      · exact isBlank_of_isDigit (parts.digits _ (List.mem_append_right _ inFraction))

theorem ofDigits?_eq (parts : IsPositional text whole fraction) (negative : Bool) :
    Binary64.ofDigits? negative text =
      some (Binary64.ofDecimal negative (numeralValue (whole ++ fraction)) (-fraction.length)) := by
  have wholeDigits : ∀ digit ∈ whole, digit.isDigit = true := fun digit member =>
    parts.digits digit (List.mem_append_left _ member)
  have fractionDigits : ∀ digit ∈ fraction, digit.isDigit = true := fun digit member =>
    parts.digits digit (List.mem_append_right _ member)
  have given : whole.isEmpty = false := by simpa using parts.wholeGiven
  rw [parts.text_eq]
  unfold Binary64.ofDigits?
  by_cases none : fraction = []
  · rw [if_pos none, List.append_nil, leadingDigits_eq_self wholeDigits, none]
    simp [given, Binary64.exponent?]
  · rw [if_neg none, leadingDigits_append wholeDigits (by rintro next ⟨⟩; rfl)]
    simp [given, Binary64.exponent?, leadingDigits_eq_self fractionDigits]

theorem ofText?_eq (parts : IsPositional text whole fraction) (negative : Bool) :
    Binary64.ofText? (String.ofList (if negative then '-' :: text else text)) =
      some (Binary64.ofDecimal negative (numeralValue (whole ++ fraction)) (-fraction.length)) := by
  have signed : leadingSign (if negative then '-' :: text else text) = (negative, text) := by
    cases negative with
    | true => rfl
    | false =>
        obtain ⟨first, rest, rfl, digit⟩ := parts.exists_first
        exact leadingSign_of_isDigit digit
  -- `inf`, `infinity` and `nan` start with a letter, the text with a digit.
  have noWord {word : String} {letter : Char} {others : List Char}
      (spelled : word = String.ofList (letter :: others)) (noDigit : letter.isDigit = false) :
      String.ofList (text.map Char.toLower) ≠ word := by
    intro same
    obtain ⟨first, rest, rfl, digit⟩ := parts.exists_first
    have heads := String.ofList_injective (same.trans spelled)
    rw [List.map_cons, toLower_of_isDigit digit, List.cons.injEq] at heads
    rw [heads.1, noDigit] at digit
    cases digit
  simp only [Binary64.ofText?, String.toList_ofList, signed]
  rw [if_neg (not_or.mpr ⟨noWord rfl rfl, noWord rfl rfl⟩), if_neg (noWord rfl rfl)]
  exact parts.ofDigits?_eq negative

end IsPositional

/-- Wherever the point goes, the text denotes what the digits do at their place. -/
theorem Decimal.exists_isPositional {decimal : Decimal} (given : decimal.digits ≠ [])
    (digits : ∀ digit ∈ decimal.digits, digit.isDigit = true) :
    ∃ whole fraction, IsPositional (decimal.positional []) whole fraction ∧
      ∃ places : Nat, numeralValue (whole ++ fraction) = numeralValue decimal.digits * 10 ^ places ∧
        decimal.exponent + 1 - decimal.digits.length = -fraction.length + places := by
  have zeros (count : Nat) : ∀ digit ∈ List.replicate count '0', digit.isDigit = true :=
    fun digit member => (List.eq_of_mem_replicate member).symm ▸ rfl
  unfold Decimal.positional
  simp only
  split
  · -- Zeros go before the digits.
    rename_i below
    refine ⟨['0'], List.replicate (decimal.exponent.natAbs - 1) '0' ++ decimal.digits,
      ⟨?_, by simp, ?_⟩, 0, ?_, ?_⟩
    · simp [given]
    · simp only [List.mem_append, List.mem_singleton]
      rintro digit (rfl | zero | ours)
      · rfl
      · exact zeros _ digit zero
      · exact digits digit ours
    · rw [numeralValue_append, numeralValue_append (List.replicate _ _),
        numeralValue_replicate_zero, show numeralValue ['0'] = 0 from rfl, Nat.mul_zero,
        Nat.mul_zero, Nat.zero_add, Nat.zero_add,
        Nat.pow_zero, Nat.mul_one]
    · rw [List.length_append, List.length_replicate]
      omega
  · rename_i notBelow
    split
    · -- Zeros go behind the digits, which have no fraction.
      rename_i integer
      refine ⟨decimal.digits ++
          List.replicate (decimal.exponent.natAbs + 1 - decimal.digits.length) '0', [],
        ⟨by simp, by simp [given], ?_⟩, decimal.exponent.natAbs + 1 - decimal.digits.length, ?_, ?_⟩
      · simp only [List.append_nil, List.mem_append]
        rintro digit (ours | zero)
        · exact digits digit ours
        · exact zeros _ digit zero
      · rw [List.append_nil, numeralValue_append, numeralValue_replicate_zero,
          List.length_replicate, Nat.add_zero, Nat.mul_comm]
      · rw [List.length_nil]
        omega
    · -- The point goes between the digits.
      rename_i longer
      have behind : decimal.digits.drop (decimal.exponent.natAbs + 1) ≠ [] := by
        simpa using Nat.lt_of_not_le longer
      refine ⟨decimal.digits.take (decimal.exponent.natAbs + 1),
        decimal.digits.drop (decimal.exponent.natAbs + 1), ⟨?_, ?_, ?_⟩, 0, ?_, ?_⟩
      · rw [if_neg behind]
      · simpa using given
      · rw [List.take_append_drop]
        exact digits
      · rw [List.take_append_drop, Nat.pow_zero, Nat.mul_one]
      · rw [List.length_drop]
        omega

namespace Binary64

/-! ## The text of a number -/

theorem isDigit_of_mem_shortest (number : Binary64) :
    ∀ digit ∈ number.shortest.digits, digit.isDigit = true := by
  intro digit member
  have original := List.mem_reverse.mp
    ((List.dropWhile_suffix _).subset (List.mem_reverse.mp member))
  exact isDigit_toDigits _ digit original

theorem shortest_ne_nil {number : Binary64} (finite : number.isFinite = true)
    (nonzero : number.magnitudeBits ≠ 0) : number.shortest.digits ≠ [] := by
  intro none
  have admits := admitsDecimal_shortest finite nonzero
  rw [none] at admits
  exact Nat.lt_irrefl 0 (reach_of_admitsDecimal (magnitude_fits finite nonzero) admits).1

theorem exists_displayText {number : Binary64} (finite : number.isFinite = true)
    (nonzero : number.magnitudeBits ≠ 0) :
    ∃ text whole fraction, IsPositional text whole fraction ∧
      number.displayText = String.ofList (if number.isNegative then '-' :: text else text) ∧
      number.magnitude.rounding.AdmitsDecimal (numeralValue (whole ++ fraction))
        (-fraction.length) := by
  obtain ⟨whole, fraction, parts, places, value, place⟩ :=
    Decimal.exists_isPositional (shortest_ne_nil finite nonzero) (isDigit_of_mem_shortest number)
  have bits : number.magnitudeBits < infinityBits := of_decide_eq_true finite
  have aNumber : number.isNaN = false := decide_eq_false (Nat.not_lt.mpr (Nat.le_of_lt bits))
  have bounded : number.isInfinite = false := beq_false_of_ne (Nat.ne_of_lt bits)
  refine ⟨_, whole, fraction, parts, ?_, ?_⟩
  · simp only [displayText, aNumber, bounded, nonzero, if_false, signed]
    rfl
  · rw [value]
    refine Rounding.AdmitsDecimal.mul_pow ?_
    rw [← place]
    exact admitsDecimal_shortest finite nonzero

theorem isBlank_signed {text : List Char} (negative : Bool)
    (solid : ∀ character ∈ text, Text.isBlank character = false) :
    ∀ character ∈ if negative then '-' :: text else text, Text.isBlank character = false := by
  cases negative with
  | false => exact solid
  | true =>
      intro character member
      rcases List.mem_cons.mp member with rfl | inText
      · rfl
      · exact solid character inText

theorem ofText?_zero (negative : Bool) :
    ofText? (String.ofList (if negative then ['-', '0'] else ['0'])) =
      some (ofBits negative 0) := by
  cases negative <;> rfl

theorem ofText?_infinity (negative : Bool) :
    ofText? (String.ofList (if negative then ['-', 'i', 'n', 'f'] else ['i', 'n', 'f'])) =
      some (infinity negative) := by
  cases negative <;> rfl

/-- A number's text is read as that number, and has no blanks. -/
theorem ofText?_displayText {number : Binary64} (aNumber : number.isNaN = false) :
    ofText? number.displayText = some number ∧
      ∀ character ∈ number.displayText.toList, Text.isBlank character = false := by
  have whole := ofBits_magnitudeBits number
  by_cases infinite : number.isInfinite = true
  · have bits : number.magnitudeBits = infinityBits := beq_iff_eq.mp infinite
    have text : number.displayText =
        String.ofList (if number.isNegative then ['-', 'i', 'n', 'f'] else ['i', 'n', 'f']) := by
      simp only [displayText, aNumber, infinite, if_true, signed]
      rfl
    rw [text, String.toList_ofList, ofText?_infinity, infinity, ← bits, whole]
    exact ⟨rfl, isBlank_signed _ (by simp [Text.isBlank])⟩
  · have bounded : number.isInfinite = false := Bool.eq_false_iff.mpr infinite
    by_cases nonzero : number.magnitudeBits = 0
    · have text : number.displayText =
          String.ofList (if number.isNegative then ['-', '0'] else ['0']) := by
        simp only [displayText, aNumber, bounded, nonzero, if_true, signed]
        rfl
      rw [text, String.toList_ofList, ofText?_zero, ← nonzero, whole]
      exact ⟨rfl, isBlank_signed _ (by simp [Text.isBlank])⟩
    · have finite : number.isFinite = true := by
        have small : ¬ infinityBits < number.magnitudeBits := of_decide_eq_false aNumber
        have other : number.magnitudeBits ≠ infinityBits := beq_eq_false_iff_ne.mp bounded
        exact decide_eq_true (Nat.lt_of_le_of_ne (Nat.le_of_not_lt small) other)
      obtain ⟨text, _, _, parts, displayed, admits⟩ := exists_displayText finite nonzero
      rw [displayed, String.toList_ofList, parts.ofText?_eq,
        ofDecimal_of_admits _ finite nonzero admits, whole]
      exact ⟨rfl, isBlank_signed _ parts.solid⟩

theorem ofText?_displayText_of_isNaN {number : Binary64} (notNumber : number.isNaN = true) :
    ofText? number.displayText = some notANumber ∧
      ∀ character ∈ number.displayText.toList, Text.isBlank character = false := by
  have text : number.displayText = "NaN" := if_pos notNumber
  rw [text]
  exact ⟨rfl, by simp [Text.isBlank]⟩

end Binary64

end PackageSearch
