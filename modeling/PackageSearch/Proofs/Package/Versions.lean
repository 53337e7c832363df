import Mathlib
import PackageSearch.Package.Version
import PackageSearch.Proofs.Number.Displayed
import PackageSearch.Proofs.Package.Names

/-!
# The order and the texts of versions

Versions are ordered by their ranks: the numbers, then the prerelease, with a release above all of
them, then the build metadata. Identifiers of digits alone rank by their value and below the others,
build identifiers of one value by how long they are. `compares_compare` says that comparing versions
compares their ranks. A text is read as a version exactly if it is the written form of it, so no two
texts are read as one version, and no two versions that are read have one rank.
-/

set_option autoImplicit false

namespace PackageSearch

open Ordering (Compares)

/-! ## Comparing part by part -/

section Parts

variable {α β : Type} [LinearOrder α] [LinearOrder β] {first second : Ordering}

theorem compares_pair {left right : α} {leftRest rightRest : β} (head : first.Compares left right)
    (rest : second.Compares leftRest rightRest) :
    (first.then second).Compares (toLex (left, leftRest)) (toLex (right, rightRest)) := by
  cases first with
  | lt => exact Prod.Lex.toLex_lt_toLex.2 (.inl head)
  | gt => exact Prod.Lex.toLex_lt_toLex.2 (.inl head)
  | eq =>
      obtain rfl : left = right := head
      cases second with
      | lt => exact Prod.Lex.toLex_lt_toLex.2 (.inr ⟨rfl, rest⟩)
      | gt => exact Prod.Lex.toLex_lt_toLex.2 (.inr ⟨rfl, rest⟩)
      | eq => exact congrArg (fun rest => toLex (left, rest)) rest

theorem compares_cons {left right : α} {lefts rights : List α} (head : first.Compares left right)
    (rest : second.Compares lefts rights) :
    (first.then second).Compares (left :: lefts) (right :: rights) := by
  cases first with
  | lt => exact List.cons_lt_cons_iff.2 (.inl head)
  | gt => exact List.cons_lt_cons_iff.2 (.inl head)
  | eq =>
      obtain rfl : left = right := head
      cases second with
      | lt => exact List.cons_lt_cons_iff.2 (.inr ⟨rfl, rest⟩)
      | gt => exact List.cons_lt_cons_iff.2 (.inr ⟨rfl, rest⟩)
      | eq => exact congrArg (left :: ·) rest

/-- An ordering of two things is one of two others that stand as they do. -/
theorem compares_imp {left right : α} {other another : β} (compares : first.Compares left right)
    (less : left < right → other < another) (same : left = right → other = another)
    (more : right < left → another < other) : first.Compares other another := by
  cases first with
  | lt => exact less compares
  | eq => exact same compares
  | gt => exact more compares

end Parts

theorem compares_compare_nat (left right : Nat) : (compare left right).Compares left right :=
  (compare_iff left right).1 rfl

/-! ## Numerals -/

theorem numeralValue_cons (digit : Char) (digits : List Char) :
    numeralValue (digit :: digits) =
      10 ^ digits.length * digitValue digit + numeralValue digits := by
  have single : numeralValue [digit] = digitValue digit := by simp [numeralValue]
  rw [← List.singleton_append, numeralValue_append, single]

theorem toNat_of_isDigit {digit : Char} (isDigit : digit.isDigit = true) :
    digit.toNat = 48 + digitValue digit ∧ digitValue digit < 10 := by
  have range := Char.isDigit_iff_toNat.mp isDigit
  simp only [Char.reduceToNat] at range
  simp only [digitValue, Char.reduceToNat]
  omega

theorem numeralValue_lt {digits : List Char} (isNumeral : ∀ digit ∈ digits, digit.isDigit = true) :
    numeralValue digits < 10 ^ digits.length := by
  induction digits with
  | nil => decide
  | cons digit rest ih =>
      have small := (toNat_of_isDigit (isNumeral digit List.mem_cons_self)).2
      have below := ih fun other member => isNumeral other (List.mem_cons_of_mem _ member)
      rw [numeralValue_cons, List.length_cons, Nat.pow_succ]
      calc 10 ^ rest.length * digitValue digit + numeralValue rest
          < 10 ^ rest.length * digitValue digit + 10 ^ rest.length := Nat.add_lt_add_left below _
        _ = 10 ^ rest.length * (digitValue digit + 1) := by ring
        _ ≤ 10 ^ rest.length * 10 := Nat.mul_le_mul_left _ small

/-- A numeral without a leading zero is at least the power of ten of its length. -/
theorem pow_le_numeralValue {digit : Char} {digits : List Char} (isDigit : digit.isDigit = true)
    (leading : digit ≠ '0') : 10 ^ digits.length ≤ numeralValue (digit :: digits) := by
  have code := (toNat_of_isDigit isDigit).1
  have other : digit.toNat ≠ 48 := by
    intro same
    exact leading (Char.toNat_inj.1 same)
  have positive : 1 ≤ digitValue digit := by omega
  rw [numeralValue_cons]
  exact Nat.le_add_right_of_le (Nat.le_mul_of_pos_right _ positive)

/-- Of two numerals of one length the one with the lower digits has the lower value. -/
theorem numeralValue_lt_of_lt {left right : List Char} (same : left.length = right.length)
    (leftDigits : ∀ digit ∈ left, digit.isDigit = true)
    (rightDigits : ∀ digit ∈ right, digit.isDigit = true) (less : left < right) :
    numeralValue left < numeralValue right := by
  induction left generalizing right with
  | nil =>
      cases right with
      | nil => exact absurd less (lt_irrefl _)
      | cons => cases same
  | cons first rest ih =>
      cases right with
      | nil => cases same
      | cons other others =>
          have lengths : rest.length = others.length := Nat.succ.inj same
          have firstDigit := toNat_of_isDigit (leftDigits first List.mem_cons_self)
          have otherDigit := toNat_of_isDigit (rightDigits other List.mem_cons_self)
          have leftRest : ∀ digit ∈ rest, digit.isDigit = true := fun digit member =>
            leftDigits digit (List.mem_cons_of_mem _ member)
          have rightRest : ∀ digit ∈ others, digit.isDigit = true := fun digit member =>
            rightDigits digit (List.mem_cons_of_mem _ member)
          rw [numeralValue_cons, numeralValue_cons, lengths]
          rcases List.cons_lt_cons_iff.1 less with lower | ⟨rfl, lower⟩
          · have codes : first.toNat < other.toNat := lower
            have digits : digitValue first + 1 ≤ digitValue other := by omega
            have below : numeralValue rest < 10 ^ others.length :=
              lengths ▸ numeralValue_lt leftRest
            calc 10 ^ others.length * digitValue first + numeralValue rest
                < 10 ^ others.length * digitValue first + 10 ^ others.length :=
                  Nat.add_lt_add_left below _
              _ = 10 ^ others.length * (digitValue first + 1) := by ring
              _ ≤ 10 ^ others.length * digitValue other := Nat.mul_le_mul_left _ digits
              _ ≤ _ := Nat.le_add_right _ _
          · exact Nat.add_lt_add_left (ih lengths leftRest rightRest lower) _

theorem numeralValue_lt_of_shorter {left right : List Char}
    (leftDigits : ∀ digit ∈ left, digit.isDigit = true)
    (rightDigits : ∀ digit ∈ right, digit.isDigit = true) (less : left.length < right.length)
    (leads : right.head? ≠ some '0') : numeralValue left < numeralValue right := by
  cases right with
  | nil => cases less
  | cons first rest =>
      have leading : first ≠ '0' := by
        intro zero
        exact leads (congrArg some zero)
      calc numeralValue left
          < 10 ^ left.length := numeralValue_lt leftDigits
        _ ≤ 10 ^ rest.length := Nat.pow_le_pow_right (by decide) (Nat.le_of_lt_succ less)
        _ ≤ numeralValue (first :: rest) :=
          pow_le_numeralValue (rightDigits first List.mem_cons_self) leading

theorem numeralValue_dropZeros (digits : List Char) :
    numeralValue (digits.dropWhile (· == '0')) = numeralValue digits := by
  induction digits with
  | nil => rfl
  | cons digit rest ih =>
      by_cases zero : digit = '0'
      · subst zero
        rw [List.dropWhile_cons_of_pos rfl, ih, numeralValue_cons]
        simp [digitValue]
      · rw [List.dropWhile_cons_of_neg (by simpa using zero)]

namespace Package.Version

theorem compares_compareTexts (left right : List Char) :
    (compareTexts left right).Compares left right := by
  induction left generalizing right with
  | nil =>
      cases right with
      | nil => rfl
      | cons character rest => exact List.nil_lt_cons character rest
  | cons first rest ih =>
      cases right with
      | nil => exact List.nil_lt_cons first rest
      | cons other others =>
          have heads : (compare first.toNat other.toNat).Compares first other :=
            compares_imp (compares_compare_nat _ _) id Char.toNat_inj.1 id
          exact compares_cons heads (ih others)

/-- Numerals of one length are ordered as their digits. -/
theorem compares_digits {left right : List Char} (same : left.length = right.length)
    (leftDigits : ∀ digit ∈ left, digit.isDigit = true)
    (rightDigits : ∀ digit ∈ right, digit.isDigit = true) :
    (compareTexts left right).Compares (numeralValue left) (numeralValue right) := by
  apply compares_imp (compares_compareTexts left right)
  · exact numeralValue_lt_of_lt same leftDigits rightDigits
  · exact congrArg numeralValue
  · exact numeralValue_lt_of_lt same.symm rightDigits leftDigits

/-- Of two numerals the longer one is the greater, unless it starts with a zero. -/
theorem compares_compareNumerals {left right : List Char}
    (leftDigits : ∀ digit ∈ left, digit.isDigit = true)
    (rightDigits : ∀ digit ∈ right, digit.isDigit = true)
    (leftLeads : right.length < left.length → left.head? ≠ some '0')
    (rightLeads : left.length < right.length → right.head? ≠ some '0') :
    (compareNumerals left right).Compares (numeralValue left) (numeralValue right) := by
  rw [compareNumerals]
  rcases lt_trichotomy left.length right.length with less | same | more
  · rw [compare_lt_iff_lt.2 less]
    exact numeralValue_lt_of_shorter leftDigits rightDigits less (rightLeads less)
  · rw [compare_eq_iff_eq.2 same]
    exact compares_digits same leftDigits rightDigits
  · rw [compare_gt_iff_gt.2 more]
    exact numeralValue_lt_of_shorter rightDigits leftDigits more (leftLeads more)

theorem compares_compareLists {α : Type} [LinearOrder α] {rank : List Char → α}
    {identifiers : List Char → List Char → Ordering} {lefts rights : List (List Char)}
    (each : ∀ left ∈ lefts, ∀ right ∈ rights,
      (identifiers left right).Compares (rank left) (rank right)) :
    (compareLists identifiers lefts rights).Compares (lefts.map rank) (rights.map rank) := by
  induction lefts generalizing rights with
  | nil =>
      cases rights with
      | nil => rfl
      | cons right rights => exact List.nil_lt_cons _ _
  | cons left lefts ih =>
      cases rights with
      | nil => exact List.nil_lt_cons _ _
      | cons right rights =>
          exact compares_cons (each left List.mem_cons_self right List.mem_cons_self)
            (ih fun left inLefts right inRights =>
              each left (List.mem_cons_of_mem _ inLefts) right (List.mem_cons_of_mem _ inRights))

/-! ## Ranks -/

/-- What an identifier ranks by: digits alone by a value of theirs, below all other identifiers. -/
def identifierRank {α : Type} (value : List Char → α) (identifier : List Char) : α ⊕ₗ List Char :=
  if isNumeric identifier then Sum.inlₗ (value identifier) else Sum.inrₗ identifier

theorem compares_compareIdentifiers {α : Type} [LinearOrder α] {value : List Char → α}
    {numerals : List Char → List Char → Ordering} {left right : List Char}
    (numeric : isNumeric left = true → isNumeric right = true →
      (numerals left right).Compares (value left) (value right)) :
    (compareIdentifiers numerals left right).Compares (identifierRank value left)
      (identifierRank value right) := by
  unfold compareIdentifiers identifierRank
  cases leftNumeric : isNumeric left <;> cases rightNumeric : isNumeric right
  · exact compares_imp (compares_compareTexts left right) Sum.Lex.inr_lt_inr_iff.2
      (congrArg Sum.inrₗ) Sum.Lex.inr_lt_inr_iff.2
  · exact Sum.Lex.inl_lt_inr _ _
  · exact Sum.Lex.inl_lt_inr _ _
  · exact compares_imp (numeric leftNumeric rightNumeric) Sum.Lex.inl_lt_inl_iff.2
      (congrArg Sum.inlₗ) Sum.Lex.inl_lt_inl_iff.2

/-- A release ranks above its prereleases. -/
def prereleaseRank (identifiers : List (List Char)) : WithTop (List (ℕ ⊕ₗ List Char)) :=
  if identifiers = [] then ⊤ else ↑(identifiers.map (identifierRank numeralValue))

/-- Build numbers of one value rank by their leading zeros. -/
def buildRank (identifiers : List (List Char)) : List ((ℕ ×ₗ ℕ) ⊕ₗ List Char) :=
  identifiers.map (identifierRank fun digits => toLex (numeralValue digits, digits.length))

abbrev Rank : Type :=
  ℕ ×ₗ ℕ ×ₗ ℕ ×ₗ WithTop (List (ℕ ⊕ₗ List Char)) ×ₗ List ((ℕ ×ₗ ℕ) ⊕ₗ List Char)

/-- What a version ranks by. -/
def rank (version : Version) : Rank :=
  toLex (version.major, toLex (version.minor, toLex (version.patch,
    toLex (prereleaseRank version.prerelease, buildRank version.build))))

/-- A version that a text can spell. -/
structure IsWellFormed (version : Version) : Prop where
  major : version.major ≤ maxNumber
  minor : version.minor ≤ maxNumber
  patch : version.patch ≤ maxNumber
  prerelease : ∀ identifier ∈ version.prerelease, isPrereleaseIdentifier identifier = true
  build : ∀ identifier ∈ version.build, isIdentifier identifier = true

theorem isDigit_of_isNumeric {identifier : List Char} (numeric : isNumeric identifier = true) :
    ∀ digit ∈ identifier, digit.isDigit = true :=
  List.all_eq_true.1 numeric

theorem ne_nil_of_isIdentifier {identifier : List Char} (legal : isIdentifier identifier = true) :
    identifier ≠ [] := by
  rintro rfl
  cases legal

theorem isIdentifier_of_prerelease {identifier : List Char}
    (legal : isPrereleaseIdentifier identifier = true) : isIdentifier identifier = true :=
  (Bool.and_eq_true_iff.1 legal).1

/-- A prerelease number starts with a zero only if it is zero. -/
theorem head?_ne_zero {identifier : List Char} (legal : isPrereleaseIdentifier identifier = true)
    (numeric : isNumeric identifier = true) (long : 1 < identifier.length) :
    identifier.head? ≠ some '0' := by
  intro zero
  simp [isPrereleaseIdentifier, numeric, zero, long] at legal

theorem compares_comparePrereleases {left right : List (List Char)}
    (leftLegal : ∀ identifier ∈ left, isPrereleaseIdentifier identifier = true)
    (rightLegal : ∀ identifier ∈ right, isPrereleaseIdentifier identifier = true) :
    (comparePrereleases left right).Compares (prereleaseRank left) (prereleaseRank right) := by
  have long {short other : List Char} (legal : isPrereleaseIdentifier short = true)
      (less : short.length < other.length) : 1 < other.length :=
    Nat.lt_of_le_of_lt
      (List.length_pos_of_ne_nil (ne_nil_of_isIdentifier (isIdentifier_of_prerelease legal))) less
  have lists : (compareLists (compareIdentifiers compareNumerals) left right).Compares
      (left.map (identifierRank numeralValue)) (right.map (identifierRank numeralValue)) := by
    refine compares_compareLists fun one inLeft other inRight => ?_
    refine compares_compareIdentifiers fun oneNumeric otherNumeric => ?_
    exact compares_compareNumerals (isDigit_of_isNumeric oneNumeric)
      (isDigit_of_isNumeric otherNumeric)
      (fun less => head?_ne_zero (leftLegal _ inLeft) oneNumeric (long (rightLegal _ inRight) less))
      (fun less =>
        head?_ne_zero (rightLegal _ inRight) otherNumeric (long (leftLegal _ inLeft) less))
  cases left with
  | nil =>
      cases right with
      | nil => rfl
      | cons => exact WithTop.coe_lt_top _
  | cons one lefts =>
      cases right with
      | nil => exact WithTop.coe_lt_top _
      | cons other rights =>
          exact compares_imp lists WithTop.coe_lt_coe.2 (congrArg _) WithTop.coe_lt_coe.2

theorem compares_compareBuilds (left right : List (List Char)) :
    (compareBuilds left right).Compares (buildRank left) (buildRank right) := by
  have digits {identifier : List Char} (numeric : isNumeric identifier = true) :
      ∀ digit ∈ identifier.dropWhile (· == '0'), digit.isDigit = true := fun digit member =>
    isDigit_of_isNumeric numeric digit ((List.dropWhile_sublist _).mem member)
  have leads (identifier : List Char) : (identifier.dropWhile (· == '0')).head? ≠ some '0' := by
    intro zero
    have stopped := List.head?_dropWhile_not (· == '0') identifier
    rw [zero] at stopped
    cases stopped
  refine compares_compareLists fun one _ other _ => ?_
  refine compares_compareIdentifiers fun oneNumeric otherNumeric => ?_
  refine compares_pair ?_ (compares_compare_nat one.length other.length)
  rw [← numeralValue_dropZeros one, ← numeralValue_dropZeros other]
  exact compares_compareNumerals (digits oneNumeric) (digits otherNumeric)
    (fun _ => leads one) (fun _ => leads other)

/-- Comparing versions compares their ranks. -/
theorem compares_compare {left right : Version} (leftLegal : left.IsWellFormed)
    (rightLegal : right.IsWellFormed) :
    (Version.compare left right).Compares left.rank right.rank :=
  compares_pair (compares_compare_nat _ _) <|
    compares_pair (compares_compare_nat _ _) <|
      compares_pair (compares_compare_nat _ _) <|
        compares_pair (compares_comparePrereleases leftLegal.prerelease rightLegal.prerelease)
          (compares_compareBuilds _ _)

/-! ## Texts -/

/-- Numerals that are compared as equal are the same digits. -/
theorem eq_of_compareNumerals {left right : List Char} (equal : compareNumerals left right = .eq) :
    left = right := by
  have texts := (Ordering.then_eq_eq.1 equal).2
  exact (compares_compareTexts left right).eq_eq.1 texts

theorem head?_toDigits_ne_zero {value : Nat} (long : 1 < (Nat.toDigits 10 value).length) :
    (Nat.toDigits 10 value).head? ≠ some '0' := by
  have positive : 0 < value := Nat.pos_of_ne_zero fun zero => by
    subst zero
    exact absurd long (by decide)
  have least := Binary64.pow_digitCount_le positive
  have digits := isDigit_toDigits value
  have read := numeralValue_toDigits value
  unfold Binary64.digitCount at least
  cases spelled : Nat.toDigits 10 value with
  | nil => exact nofun
  | cons first rest =>
      rw [spelled] at digits read least
      rintro ⟨⟩
      have below := numeralValue_lt fun digit member => digits digit (List.mem_cons_of_mem _ member)
      rw [numeralValue_cons] at read
      simp only [digitValue, Nat.sub_self, Nat.mul_zero, Nat.zero_add, List.length_cons,
        Nat.add_sub_cancel] at read least
      omega

/-- A numeral without a leading zero is the decimal form of its value. -/
theorem eq_toDigits {digits : List Char} (given : digits ≠ [])
    (isNumeral : ∀ digit ∈ digits, digit.isDigit = true)
    (leads : 1 < digits.length → digits.head? ≠ some '0') :
    digits = Nat.toDigits 10 (numeralValue digits) := by
  have some := List.length_pos_of_ne_nil given
  have same : (compareNumerals digits (Nat.toDigits 10 (numeralValue digits))).Compares
      (numeralValue digits) (numeralValue (Nat.toDigits 10 (numeralValue digits))) :=
    compares_compareNumerals isNumeral (isDigit_toDigits _)
      (fun less => leads (Nat.lt_of_le_of_lt Nat.length_toDigits_pos less))
      (fun less => head?_toDigits_ne_zero (Nat.lt_of_le_of_lt some less))
  rw [numeralValue_toDigits] at same
  exact eq_of_compareNumerals (same.eq_eq.2 rfl)

theorem number?_eq_some_iff {text rest : List Char} {value : Nat} :
    number? text = some (value, rest) ↔
      value ≤ maxNumber ∧ text = Nat.toDigits 10 value ++ rest ∧
        ∀ next ∈ rest.head?, next.isDigit = false := by
  constructor
  · intro read
    unfold number? leadingDigits at read
    dsimp only at read
    split_ifs at read with refused
    simp only [Bool.or_eq_true, not_or, Bool.and_eq_true, beq_iff_eq, decide_eq_true_eq, not_and,
      List.isEmpty_iff, Nat.not_lt] at refused
    obtain ⟨⟨given, leads⟩, small⟩ := refused
    obtain ⟨rfl, rfl⟩ := Prod.mk.inj (Option.some.inj read)
    have isNumeral : ∀ digit ∈ text.takeWhile Char.isDigit, digit.isDigit = true :=
      fun digit member => List.mem_takeWhile_imp member
    refine ⟨small, ?_, ?_⟩
    · rw [← eq_toDigits given isNumeral fun long zero => absurd long (Nat.not_lt.2 (leads zero)),
        List.takeWhile_append_dropWhile]
    · intro next first
      have stopped := List.head?_dropWhile_not Char.isDigit text
      rw [first] at stopped
      simpa using stopped
  · rintro ⟨small, rfl, stop⟩
    have digits := isDigit_toDigits value
    have leads : ((Nat.toDigits 10 value).head? == some '0' &&
        decide (1 < (Nat.toDigits 10 value).length)) = false := by
      rw [Bool.and_eq_false_imp]
      intro zero
      rw [decide_eq_false_iff_not]
      exact fun long => head?_toDigits_ne_zero long (beq_iff_eq.1 zero)
    have given : (Nat.toDigits 10 value).isEmpty = false := by
      rw [List.isEmpty_eq_false_iff]
      exact Nat.toDigits_ne_nil
    simp [number?, leadingDigits_append digits stop, leads, given, numeralValue_toDigits,
      Nat.not_lt.2 small]

/-- Identifiers with periods between them. -/
def joined (identifiers : List (List Char)) : List Char := ['.'].intercalate identifiers

/-- Identifiers behind a mark, or nothing where there are none. -/
def marked (mark : Char) (identifiers : List (List Char)) : List Char :=
  if identifiers = [] then [] else mark :: joined identifiers

/-- How a version is written. -/
def written (version : Version) : List Char :=
  Nat.toDigits 10 version.major ++ '.' :: Nat.toDigits 10 version.minor ++
    '.' :: Nat.toDigits 10 version.patch ++
    (marked '-' version.prerelease ++ marked '+' version.build)

theorem isIdentifierCharacter_of_mem {identifier : List Char} {character : Char}
    (legal : isIdentifier identifier = true) (member : character ∈ identifier) :
    isIdentifierCharacter character = true :=
  List.all_eq_true.1 (Bool.and_eq_true_iff.1 legal).2 character member

theorem identifiers_joined {parts : List (List Char)} (given : parts ≠ [])
    (legal : ∀ part ∈ parts, isIdentifier part = true) : identifiers (joined parts) = parts := by
  rw [identifiers, Text.pieces_eq_splitOnP]
  refine List.splitOn_intercalate '.' (fun part member period => ?_) given
  exact absurd (isIdentifierCharacter_of_mem (legal part member) period) (by decide)

theorem joined_identifiers (text : List Char) : joined (identifiers text) = text := by
  rw [identifiers, Text.pieces_eq_splitOnP]
  exact List.intercalate_splitOn '.'

theorem identifiers_ne_nil (text : List Char) : identifiers text ≠ [] := by
  rw [identifiers, Text.pieces_eq_splitOnP]
  exact List.splitOnP_ne_nil _ _

theorem mem_joined {parts : List (List Char)} {character : Char}
    (member : character ∈ joined parts) :
    character = '.' ∨ ∃ part ∈ parts, character ∈ part := by
  induction parts with
  | nil => cases member
  | cons part rest ih =>
      cases rest with
      | nil =>
          rw [joined, List.intercalate_singleton] at member
          exact .inr ⟨part, List.mem_cons_self, member⟩
      | cons next rest =>
          rw [joined, List.intercalate_cons_cons, List.append_assoc, List.mem_append] at member
          rcases member with here | behind
          · exact .inr ⟨part, List.mem_cons_self, here⟩
          · rcases List.mem_cons.1 behind with period | later
            · exact .inl period
            · exact (ih later).imp_right fun ⟨other, inRest, inside⟩ =>
                ⟨other, List.mem_cons_of_mem _ inRest, inside⟩

theorem plus_not_mem_marked {parts : List (List Char)}
    (legal : ∀ part ∈ parts, isIdentifier part = true) : '+' ∉ marked '-' parts := by
  intro plus
  unfold marked at plus
  split at plus
  · cases plus
  · rcases List.mem_cons.1 plus with dash | inside
    · cases dash
    · rcases mem_joined inside with period | ⟨part, member, character⟩
      · cases period
      · exact absurd (isIdentifierCharacter_of_mem (legal part member) character) (by decide)

/-- What a version's text ends with: the prerelease, and the build metadata behind a plus sign. -/
theorem cut_marked {prerelease : List (List Char)} (build : List (List Char))
    (legal : ∀ part ∈ prerelease, isIdentifier part = true) :
    (marked '-' prerelease ++ marked '+' build).takeWhile (· != '+') = marked '-' prerelease ∧
      (marked '-' prerelease ++ marked '+' build).dropWhile (· != '+') = marked '+' build := by
  have before : ∀ character ∈ marked '-' prerelease, (character != '+') = true := by
    intro character member
    exact bne_iff_ne.2 (ne_of_mem_of_not_mem member (plus_not_mem_marked legal))
  have stops : (marked '+' build).takeWhile (· != '+') = [] ∧
      (marked '+' build).dropWhile (· != '+') = marked '+' build := by
    unfold marked
    split <;> simp
  rw [List.takeWhile_append_of_pos before, List.dropWhile_append_of_pos before, stops.1, stops.2,
    List.append_nil]
  exact ⟨rfl, rfl⟩

theorem period?_eq_some_iff {text rest : List Char} :
    period? text = some rest ↔ text = '.' :: rest := by
  unfold period?
  split
  · rename_i behind
    simp
  · rename_i other
    refine ⟨nofun, fun same => absurd same (other rest)⟩

theorem legalIdentifiers?_eq_some_iff {legal : List Char → Bool} {text : List Char}
    {parts : List (List Char)} (sound : ∀ part, legal part = true → isIdentifier part = true) :
    legalIdentifiers? legal text = some parts ↔
      parts ≠ [] ∧ text = joined parts ∧ ∀ part ∈ parts, legal part = true := by
  constructor
  · intro read
    unfold legalIdentifiers? at read
    split_ifs at read with all
    obtain rfl := Option.some.inj read
    exact ⟨identifiers_ne_nil text, (joined_identifiers text).symm, List.all_eq_true.1 all⟩
  · rintro ⟨given, rfl, all⟩
    rw [legalIdentifiers?, identifiers_joined given fun part member => sound part (all part member),
      if_pos (List.all_eq_true.2 all)]

theorem prerelease?_eq_some_iff {core : List Char} {parts : List (List Char)} :
    prerelease? core = some parts ↔
      core = marked '-' parts ∧ ∀ part ∈ parts, isPrereleaseIdentifier part = true := by
  have behind (text : List Char) : legalIdentifiers? isPrereleaseIdentifier text = some parts ↔
      parts ≠ [] ∧ text = joined parts ∧ ∀ part ∈ parts, isPrereleaseIdentifier part = true :=
    legalIdentifiers?_eq_some_iff fun part => isIdentifier_of_prerelease
  unfold prerelease? marked
  split
  · split_ifs with none <;> simp [none, @eq_comm _ []]
  · rw [behind]
    split_ifs with none <;> simp_all
  · rename_i notEmpty notMarked
    refine ⟨nofun, fun both => ?_⟩
    split_ifs at both
    · exact absurd both.1 notEmpty
    · exact absurd both.1 (notMarked _)

theorem build?_eq_some_iff {text : List Char} {parts : List (List Char)} :
    build? (text.dropWhile (· != '+')) = some parts ↔
      text.dropWhile (· != '+') = marked '+' parts ∧ ∀ part ∈ parts, isIdentifier part = true := by
  have behind (text : List Char) : legalIdentifiers? isIdentifier text = some parts ↔
      parts ≠ [] ∧ text = joined parts ∧ ∀ part ∈ parts, isIdentifier part = true :=
    legalIdentifiers?_eq_some_iff fun part => id
  have stopped := List.head?_dropWhile_not (· != '+') text
  generalize text.dropWhile (· != '+') = metadata at stopped ⊢
  unfold build? marked
  split
  · split_ifs with none <;> simp [none, @eq_comm _ []]
  · obtain rfl := bne_eq_false_iff_eq.1 stopped
    rw [behind]
    split_ifs with none <;> simp_all

/-- A text is read as a version exactly if it is what that version is written as. -/
theorem parse?_eq_some_iff {text : String} {version : Version} :
    parse? text = some version ↔ version.IsWellFormed ∧ text.toList = version.written := by
  obtain ⟨major, minor, patch, prerelease, build⟩ := version
  simp only [parse?, Option.bind_eq_bind, Option.bind_eq_some_iff, Prod.exists,
    period?_eq_some_iff, number?_eq_some_iff, prerelease?_eq_some_iff, build?_eq_some_iff,
    Option.some.injEq, mk.injEq]
  constructor
  · rintro ⟨_, _, ⟨majorFits, spelled, -⟩, _, rfl, _, _, ⟨minorFits, rfl, -⟩, _, rfl, _, rest,
      ⟨patchFits, rfl, -⟩, _, ⟨core, prereleaseLegal⟩, _, ⟨metadata, buildLegal⟩,
      rfl, rfl, rfl, rfl, rfl⟩
    refine ⟨⟨majorFits, minorFits, patchFits, prereleaseLegal, buildLegal⟩, ?_⟩
    rw [spelled, written, ← core, ← metadata, List.takeWhile_append_dropWhile]
    simp only [List.append_assoc, List.cons_append]
  · rintro ⟨legal, spelled⟩
    have cut := cut_marked build fun part member =>
      isIdentifier_of_prerelease (legal.prerelease part member)
    refine ⟨_, _, ⟨legal.major, ?_, ?_⟩, _, rfl, _, _, ⟨legal.minor, rfl, ?_⟩, _, rfl, _,
      marked '-' prerelease ++ marked '+' build, ⟨legal.patch, rfl, ?_⟩, _,
      ⟨cut.1, legal.prerelease⟩, _, ⟨cut.2, legal.build⟩, rfl, rfl, rfl, rfl, rfl⟩
    · rw [spelled, written]
      simp only [List.append_assoc, List.cons_append]
    · rintro next ⟨⟩
      rfl
    · rintro next ⟨⟩
      rfl
    · intro next first
      unfold marked at first
      split at first <;> split at first <;> cases first <;> rfl

/-! ## Different versions -/

theorem eq_of_identifierRank {α : Type} {value : List Char → α} {left right : List Char}
    (numeric : isNumeric left = true → isNumeric right = true →
      value left = value right → left = right)
    (same : identifierRank value left = identifierRank value right) : left = right := by
  unfold identifierRank at same
  split_ifs at same with leftNumeric rightNumeric rightNumeric
  · exact numeric leftNumeric rightNumeric (Sum.inl.inj same)
  · cases same
  · cases same
  · exact Sum.inr.inj same

theorem eq_of_map_eq {α β : Type} {rank : α → β} {lefts rights : List α}
    (each : ∀ left ∈ lefts, ∀ right ∈ rights, rank left = rank right → left = right)
    (same : lefts.map rank = rights.map rank) : lefts = rights := by
  induction lefts generalizing rights with
  | nil => exact (List.map_eq_nil_iff.1 same.symm).symm
  | cons left lefts ih =>
      cases rights with
      | nil => cases same
      | cons right rights =>
          obtain ⟨heads, tails⟩ := List.cons.inj same
          rw [each left List.mem_cons_self right List.mem_cons_self heads,
            ih (fun left inLefts right inRights =>
              each left (List.mem_cons_of_mem _ inLefts) right
                (List.mem_cons_of_mem _ inRights)) tails]

theorem eq_of_prereleaseRank {left right : List (List Char)}
    (leftLegal : ∀ identifier ∈ left, isPrereleaseIdentifier identifier = true)
    (rightLegal : ∀ identifier ∈ right, isPrereleaseIdentifier identifier = true)
    (same : prereleaseRank left = prereleaseRank right) : left = right := by
  unfold prereleaseRank at same
  split_ifs at same with leftNone rightNone rightNone
  · rw [leftNone, rightNone]
  · cases same
  · cases same
  · refine eq_of_map_eq (fun one inLeft other inRight => ?_) (WithTop.coe_injective same)
    refine eq_of_identifierRank fun oneNumeric otherNumeric values => ?_
    have spelled {identifier : List Char} (legal : isPrereleaseIdentifier identifier = true)
        (numeric : isNumeric identifier = true) :
        identifier = Nat.toDigits 10 (numeralValue identifier) :=
      eq_toDigits (ne_nil_of_isIdentifier (isIdentifier_of_prerelease legal))
        (isDigit_of_isNumeric numeric) (head?_ne_zero legal numeric)
    rw [spelled (leftLegal one inLeft) oneNumeric, values,
      ← spelled (rightLegal other inRight) otherNumeric]

theorem eq_of_buildRank {left right : List (List Char)} (same : buildRank left = buildRank right) :
    left = right := by
  refine eq_of_map_eq (fun one _ other _ => ?_) same
  refine eq_of_identifierRank fun oneNumeric otherNumeric values => ?_
  obtain ⟨values, lengths⟩ := Prod.mk.inj (toLex.injective values)
  have digits := compares_digits lengths (isDigit_of_isNumeric oneNumeric)
    (isDigit_of_isNumeric otherNumeric)
  exact (compares_compareTexts one other).eq_eq.1 (digits.eq_eq.2 values)

/-- No two versions have one rank. -/
theorem eq_of_rank {left right : Version} (leftLegal : left.IsWellFormed)
    (rightLegal : right.IsWellFormed) (same : left.rank = right.rank) : left = right := by
  obtain ⟨major, minor, patch, prerelease, build⟩ := left
  obtain ⟨_, _, _, _, _⟩ := right
  obtain ⟨rfl, same⟩ := Prod.mk.inj (toLex.injective same)
  obtain ⟨rfl, same⟩ := Prod.mk.inj (toLex.injective same)
  obtain ⟨rfl, same⟩ := Prod.mk.inj (toLex.injective same)
  obtain ⟨prereleases, builds⟩ := Prod.mk.inj (toLex.injective same)
  obtain rfl := eq_of_prereleaseRank leftLegal.prerelease rightLegal.prerelease prereleases
  obtain rfl := eq_of_buildRank builds
  rfl

end Package.Version

end PackageSearch
