import Mathlib
import PackageSearch.Proofs.Query.MachineWords

/-!
# Pages

Which page the parameters of a query ask for. The start and the end are each the number at the
beginning of a parameter, whatever follows it, if that number suits a page and fits a word with a
sign; every other parameter counts as if it were missing.
-/

set_option autoImplicit false

namespace PackageSearch.Query

/-- A text from its beginning on: all its leading blanks, one sign if there is one behind them, all
the digits that follow, and the rest. -/
structure Beginning (text : List Char) where
  blanks : List Char
  sign : Option Char
  digits : List Char
  rest : List Char
  whole : text = blanks ++ (sign.toList ++ (digits ++ rest))
  areBlank : ∀ character ∈ blanks, Text.isBlank character = true
  allBlanks : ∀ next ∈ (sign.toList ++ (digits ++ rest)).head?, Text.isBlank next = false
  isSign : ∀ mark ∈ sign, mark = '-' ∨ mark = '+'
  noSign : sign = none → ∀ next ∈ (digits ++ rest).head?, ¬ (next = '-' ∨ next = '+')
  areDigits : ∀ digit ∈ digits, digit.isDigit = true
  allDigits : ∀ next ∈ rest.head?, next.isDigit = false

/-- The parameter is given, with a number at its beginning: the digits have this value, and the sign
tells whether the number is negative. -/
def Gives (given : Option String) (negative : Bool) (value : Nat) : Prop :=
  ∃ text, given = some text ∧ ∃ beginning : Beginning text.toList,
    beginning.digits ≠ [] ∧ numeralValue beginning.digits = value ∧
      (negative = true ↔ beginning.sign = some '-')

/-- A page can end at the number that is given. -/
def GivesSize (given : Option String) (value : Nat) : Prop :=
  Gives given false value ∧ 1 ≤ value ∧ value ≤ 2 ^ 63 - 1

/-- A page can start at the number that is given, where zero may have any sign. -/
def GivesStart (given : Option String) (value : Nat) : Prop :=
  ∃ negative, Gives given negative value ∧ (negative = false ∨ value = 0) ∧ value ≤ 2 ^ 63 - 1

/-! ## Beginnings of texts -/

theorem trimLeft_append {blanks rest : List Char}
    (areBlank : ∀ character ∈ blanks, Text.isBlank character = true)
    (stop : ∀ next ∈ rest.head?, Text.isBlank next = false) :
    Text.trimLeft (blanks ++ rest) = rest := by
  rw [Text.trimLeft, List.dropWhile_append_of_pos areBlank]
  cases rest with
  | nil => rfl
  | cons next others => exact List.dropWhile_cons_of_neg (by simp [stop next rfl])

theorem leadingSign_append {sign : Option Char} {rest : List Char}
    (isSign : ∀ mark ∈ sign, mark = '-' ∨ mark = '+')
    (noSign : sign = none → ∀ next ∈ rest.head?, ¬ (next = '-' ∨ next = '+')) :
    leadingSign (sign.toList ++ rest) = (decide (sign = some '-'), rest) := by
  cases sign with
  | none =>
      cases rest with
      | nil => rfl
      | cons next others =>
          have plain := noSign rfl next rfl
          unfold leadingSign
          split <;> simp_all
  | some mark =>
      rcases isSign mark rfl with rfl | rfl
      · rfl
      · rfl

theorem exists_sign (text : List Char) :
    ∃ sign : Option Char, sign.toList ++ (leadingSign text).2 = text ∧
      (∀ mark ∈ sign, mark = '-' ∨ mark = '+') ∧
      (sign = none → ∀ next ∈ (leadingSign text).2.head?, ¬ (next = '-' ∨ next = '+')) := by
  unfold leadingSign
  split
  · exact ⟨some '-', rfl, by simp, nofun⟩
  · exact ⟨some '+', rfl, by simp, nofun⟩
  · next noMinus noPlus =>
      refine ⟨none, rfl, nofun, fun _ next isNext => ?_⟩
      obtain ⟨others, rfl⟩ := List.head?_eq_some_iff.1 isNext
      rintro (rfl | rfl)
      · exact noMinus others rfl
      · exact noPlus others rfl

theorem not_of_mem_head?_dropWhile {passed : Char → Bool} {text : List Char} {next : Char}
    (isNext : next ∈ (text.dropWhile passed).head?) : passed next = false := by
  have stops := List.head?_dropWhile_not passed text
  rw [isNext] at stops
  exact stops

namespace Beginning

variable {text : List Char}

theorem leadingSign_eq (beginning : Beginning text) :
    leadingSign (Text.trimLeft text) =
      (decide (beginning.sign = some '-'), beginning.digits ++ beginning.rest) := by
  have solid : Text.trimLeft text =
      beginning.sign.toList ++ (beginning.digits ++ beginning.rest) :=
    (congrArg Text.trimLeft beginning.whole).trans
      (trimLeft_append beginning.areBlank beginning.allBlanks)
  rw [solid, leadingSign_append beginning.isSign beginning.noSign]

theorem leadingDigits_eq (beginning : Beginning text) :
    (leadingDigits (leadingSign (Text.trimLeft text)).2).1 = beginning.digits := by
  rw [beginning.leadingSign_eq, leadingDigits_append beginning.areDigits beginning.allDigits]

/-- Every text has a beginning, if only an empty one. -/
theorem exists_beginning (text : List Char) : Nonempty (Beginning text) := by
  obtain ⟨sign, solid, isSign, noSign⟩ := exists_sign (Text.trimLeft text)
  have unsigned : (leadingDigits (leadingSign (Text.trimLeft text)).2).1 ++
      (leadingDigits (leadingSign (Text.trimLeft text)).2).2 =
      (leadingSign (Text.trimLeft text)).2 :=
    List.takeWhile_append_dropWhile
  exact ⟨{
    blanks := text.takeWhile Text.isBlank
    sign := sign
    digits := (leadingDigits (leadingSign (Text.trimLeft text)).2).1
    rest := (leadingDigits (leadingSign (Text.trimLeft text)).2).2
    whole := by
      rw [unsigned, solid]
      exact List.takeWhile_append_dropWhile.symm
    areBlank := fun character member => List.mem_takeWhile_imp member
    allBlanks := by
      rw [unsigned, solid]
      exact fun next isNext => not_of_mem_head?_dropWhile isNext
    isSign := isSign
    noSign := by rwa [unsigned]
    areDigits := fun digit member => List.mem_takeWhile_imp member
    allDigits := fun next isNext => not_of_mem_head?_dropWhile isNext }⟩

end Beginning

/-! ## Numbers of pages -/

theorem gives_some_iff {text : String} {negative : Bool} {value : Nat} :
    Gives (some text) negative value ↔
      numeral? (leadingDigits (leadingSign (Text.trimLeft text.toList)).2).1 = some value ∧
        (leadingSign (Text.trimLeft text.toList)).1 = negative := by
  constructor
  · rintro ⟨_, ⟨⟩, beginning, given, valued, signed⟩
    rw [beginning.leadingDigits_eq, numeral?_eq_some_iff beginning.areDigits,
      beginning.leadingSign_eq]
    refine ⟨⟨given, valued⟩, ?_⟩
    rw [Bool.eq_iff_iff, decide_eq_true_iff, signed]
  · obtain ⟨beginning⟩ := Beginning.exists_beginning text.toList
    rw [beginning.leadingDigits_eq, numeral?_eq_some_iff beginning.areDigits,
      beginning.leadingSign_eq]
    rintro ⟨⟨given, valued⟩, signed⟩
    refine ⟨text, rfl, beginning, given, valued, ?_⟩
    rw [← signed, decide_eq_true_iff]

/-- The number that is read is the one that is given, if that fits a word with a sign. -/
theorem bind_leadingInteger?_eq_some_iff {given : Option String} {number : Int} :
    given.bind leadingInteger? = some number ↔
      ∃ negative value, Gives given negative value ∧ value ≤ 2 ^ 63 - 1 ∧
        number = if negative then -(value : Int) else value := by
  cases given with
  | none => simp [Gives]
  | some text =>
      simp only [Option.bind_some, leadingInteger?_eq, Option.bind_eq_some_iff, gives_some_iff]
      constructor
      · rintro ⟨value, read, held⟩
        by_cases large : maxSigned < value
        · rw [if_pos large] at held
          cases held
        · rw [if_neg large] at held
          exact ⟨_, value, ⟨read, rfl⟩, Nat.le_of_not_lt large, (Option.some.inj held).symm⟩
      · rintro ⟨_, value, ⟨read, rfl⟩, small, rfl⟩
        exact ⟨value, read, if_neg (Nat.not_lt.2 small)⟩

theorem givesSize_iff {given : Option String} {size : Nat} :
    GivesSize given size ↔
      ((given.bind leadingInteger?).filter (0 < ·)).map Int.toNat = some size := by
  simp only [Option.map_eq_some_iff, Option.filter_eq_some_iff, bind_leadingInteger?_eq_some_iff,
    decide_eq_true_iff]
  constructor
  · rintro ⟨gives, positive, small⟩
    exact ⟨size, ⟨⟨false, size, gives, small, rfl⟩, Int.natCast_pos.2 positive⟩, rfl⟩
  · rintro ⟨_, ⟨⟨negative, value, gives, small, rfl⟩, positive⟩, rfl⟩
    cases negative with
    | false => exact ⟨gives, Int.natCast_pos.1 positive, small⟩
    | true => exact absurd positive (by simp)

theorem givesStart_iff {given : Option String} {start : Nat} :
    GivesStart given start ↔
      ((given.bind leadingInteger?).filter (0 ≤ ·)).map Int.toNat = some start := by
  simp only [Option.map_eq_some_iff, Option.filter_eq_some_iff, bind_leadingInteger?_eq_some_iff,
    decide_eq_true_iff]
  constructor
  · rintro ⟨negative, gives, usable, small⟩
    have number : (if negative then -(start : Int) else start) = start := by
      rcases usable with rfl | rfl
      · rfl
      · simp
    exact ⟨start, ⟨⟨negative, start, gives, small, number.symm⟩, Int.natCast_nonneg start⟩, rfl⟩
  · rintro ⟨_, ⟨⟨negative, value, gives, small, rfl⟩, notNegative⟩, rfl⟩
    cases negative with
    | false => exact ⟨false, gives, .inl rfl, small⟩
    | true =>
        have zero : value = 0 := by simpa using notNegative
        subst zero
        exact ⟨true, gives, .inr rfl, small⟩

/-- The parameters are read as the page that they ask for: it ends and starts at the numbers that
are given, and where no such number is given it ends at 20 and starts at 0. On a machine no cut
falls inside a character, no word overflows, and the words of the page are these numbers. -/
theorem ofParameters_page (parameters : Dictionary String) :
    (∀ size, (ofParameters parameters).size = size ↔
      GivesSize (parameters.get? "size") size ∨
        size = 20 ∧ ∀ value, ¬ GivesSize (parameters.get? "size") value) ∧
    (∀ start, (ofParameters parameters).start = start ↔
      GivesStart (parameters.get? "from") start ∨
        start = 0 ∧ ∀ value, ¬ GivesStart (parameters.get? "from") value) ∧
    ∃ size start : UInt64,
      Machine.sizeWord (parameters.get? "size") = .ok size ∧
        size.toNat = (ofParameters parameters).size ∧
      Machine.startWord (parameters.get? "from") = .ok start ∧
        start.toNat = (ofParameters parameters).start := by
  refine ⟨fun size => ?_, fun start => ?_, ?_⟩
  · simp only [givesSize_iff, ← Option.eq_none_iff_forall_ne_some]
    rw [and_comm, eq_comm (a := size), ← Option.getD_eq_iff]
    exact Eq.congr_left (sizeOf_eq _)
  · simp only [givesStart_iff, ← Option.eq_none_iff_forall_ne_some]
    rw [and_comm, eq_comm (a := start), ← Option.getD_eq_iff]
    exact Eq.congr_left (startOf_eq _)
  · obtain ⟨size, readSize, sizeValue⟩ := Machine.sizeWord_eq (parameters.get? "size")
    obtain ⟨start, readStart, startValue⟩ := Machine.startWord_eq (parameters.get? "from")
    exact ⟨size, start, readSize, sizeValue, readStart, startValue⟩

example : sizeOf (some "\u2003+0015abc") = 15 := by decide

end PackageSearch.Query
