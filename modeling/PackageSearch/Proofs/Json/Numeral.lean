import Mathlib
import PackageSearch.Json.Decoder
import PackageSearch.Proofs.Number.Finite
import PackageSearch.Proofs.Text.Utf8

/-!
# The text of a number

A number's text is read the same whatever stands behind it, unless that continues the number. The
decimal digits of an integer are read as that integer. That a double's text is read as that double
is not proved here: `Survives` says so of one double.
-/

set_option autoImplicit false

namespace PackageSearch.Json

section Results

variable {ε α β : Type}

theorem bind_eq_ok {first : Except ε α} {next : α → Except ε β} {result : β} :
    (first >>= next) = .ok result ↔ ∃ value, first = .ok value ∧ next value = .ok result := by
  cases first with
  | error cause => simp [bind, Except.bind]
  | ok value => simp [bind, Except.bind]

theorem map_eq_ok {first : Except ε α} {change : α → β} {result : β} :
    first.map change = .ok result ↔ ∃ value, first = .ok value ∧ change value = result := by
  cases first with
  | error cause => simp [Except.map]
  | ok value => simp [Except.map]

end Results

/-- A text that does not continue a number. -/
def Stops (text : Bytes) : Prop :=
  ∀ byte ∈ text.head?, isDigitByte byte = false ∧ byte ≠ 0x2e ∧ byte ≠ 0x65 ∧ byte ≠ 0x45

theorem Stops.nil : Stops [] := by
  intro byte first
  cases first

theorem Stops.cons {mark : UInt8} (stops : isDigitByte mark = false ∧ mark ≠ 0x2e ∧ mark ≠ 0x65 ∧
    mark ≠ 0x45) (text : Bytes) : Stops (mark :: text) := by
  intro byte first
  cases first
  exact stops

/-! ## The parts of a number's text -/

def exponentSign : Bytes → Bool × Bytes
  | 0x2b :: rest => (false, rest)
  | 0x2d :: rest => (true, rest)
  | rest => (false, rest)

theorem exponentRun_cons (mark : UInt8) (text : Bytes) :
    exponentRun (mark :: text) =
      if mark = 0x65 ∨ mark = 0x45 then
        (digitRun (exponentSign text).2).map fun found =>
          (some ((exponentSign text).1, found.1), found.2)
      else .ok (none, mark :: text) := by
  have run (negative : Bool) (digits : Bytes) :
      (digitRun digits >>= fun found => .ok (some (negative, found.1), found.2)) =
        (digitRun digits).map fun found => (some (negative, found.1), found.2) := by
    cases digitRun digits <;> rfl
  unfold exponentRun exponentSign
  simp only [run]
  rfl

def leadingMinus : Bytes → Bool × Bytes
  | 0x2d :: rest => (true, rest)
  | text => (false, text)

theorem readNumeral_eq_ok_iff {text left : Bytes} {numeral : Numeral} :
    readNumeral text = .ok (numeral, left) ↔
      ∃ behindWhole behindFraction,
        wholeRun (leadingMinus text).2 = .ok (numeral.whole, behindWhole) ∧
        fractionRun behindWhole = .ok (numeral.fraction, behindFraction) ∧
        exponentRun behindFraction = .ok (numeral.exponent, left) ∧
        (leadingMinus text).1 = numeral.negative := by
  have steps : readNumeral text = (do
      let whole ← wholeRun (leadingMinus text).2
      let fraction ← fractionRun whole.2
      let exponent ← exponentRun fraction.2
      .ok (⟨(leadingMinus text).1, whole.1, fraction.1, exponent.1⟩, exponent.2)) := by
    unfold readNumeral leadingMinus
    rfl
  rw [steps]
  constructor
  · intro result
    obtain ⟨⟨whole, behindWhole⟩, wholeRead, result⟩ := bind_eq_ok.mp result
    obtain ⟨⟨fraction, behindFraction⟩, fractionRead, result⟩ := bind_eq_ok.mp result
    obtain ⟨⟨exponent, behind⟩, exponentRead, result⟩ := bind_eq_ok.mp result
    cases result
    exact ⟨behindWhole, behindFraction, wholeRead, fractionRead, exponentRead, rfl⟩
  · rintro ⟨behindWhole, behindFraction, wholeRead, fractionRead, exponentRead, negative⟩
    rw [wholeRead]
    simp only [bind, Except.bind, fractionRead, exponentRead, negative]

/-! ## What stands behind a number -/

section Append

variable {text left rest : Bytes}

theorem exponentSign_append (some : text ≠ []) :
    exponentSign (text ++ rest) = ((exponentSign text).1, (exponentSign text).2 ++ rest) := by
  cases text with
  | nil => exact absurd rfl some
  | cons byte text =>
      unfold exponentSign
      split <;> split <;> simp_all

theorem leadingMinus_append (some : text ≠ []) :
    leadingMinus (text ++ rest) = ((leadingMinus text).1, (leadingMinus text).2 ++ rest) := by
  cases text with
  | nil => exact absurd rfl some
  | cons byte text =>
      unfold leadingMinus
      split <;> split <;> simp_all

theorem digitRun_append {run : Bytes} (result : digitRun text = .ok (run, left))
    (stops : Stops rest) : digitRun (text ++ rest) = .ok (run, left ++ rest) := by
  have nothing : rest.takeWhile isDigitByte = [] ∧ rest.dropWhile isDigitByte = rest := by
    cases rest with
    | nil => exact ⟨rfl, rfl⟩
    | cons byte rest => simp [(stops byte rfl).1]
  have whole : (text ++ rest).takeWhile isDigitByte = text.takeWhile isDigitByte := by
    rw [List.takeWhile_append, nothing.1, List.append_nil]
    split
    · rename_i all
      exact ((List.takeWhile_prefix _).eq_of_length all).symm
    · rfl
  have behind : (text ++ rest).dropWhile isDigitByte = text.dropWhile isDigitByte ++ rest := by
    rw [List.dropWhile_append, nothing.2]
    split
    · rename_i all
      rw [List.isEmpty_iff.mp all, List.nil_append]
    · rfl
  unfold digitRun at result ⊢
  rw [whole, behind]
  cases taken : text.takeWhile isDigitByte with
  | nil =>
      rw [taken] at result
      cases result
  | cons first others =>
      rw [taken] at result
      cases result
      rfl

theorem wholeRun_append {run : Bytes} (result : wholeRun text = .ok (run, left))
    (stops : Stops rest) : wholeRun (text ++ rest) = .ok (run, left ++ rest) := by
  obtain ⟨⟨found, behind⟩, digits, whole⟩ := bind_eq_ok.mp result
  refine bind_eq_ok.mpr ⟨(found, behind ++ rest), digitRun_append digits stops, ?_⟩
  simp only at whole ⊢
  split at whole
  · cases whole
  · cases whole
    rfl

theorem fractionRun_append {run : Bytes} (result : fractionRun text = .ok (run, left))
    (stops : Stops rest) : fractionRun (text ++ rest) = .ok (run, left ++ rest) := by
  cases text with
  | nil =>
      cases result
      cases rest with
      | nil => rfl
      | cons byte rest =>
          have noPoint : byte ≠ 0x2e := (stops byte rfl).2.1
          unfold fractionRun
          split
          · simp_all
          · rfl
  | cons byte text =>
      by_cases point : byte = 0x2e
      · subst point
        exact digitRun_append result stops
      · unfold fractionRun at result ⊢
        split at result
        · simp_all
        · cases result
          split
          · simp_all
          · rfl

theorem exponentRun_append {exponent : Option (Bool × Bytes)}
    (result : exponentRun text = .ok (exponent, left)) (stops : Stops rest) :
    exponentRun (text ++ rest) = .ok (exponent, left ++ rest) := by
  cases text with
  | nil =>
      cases result
      cases rest with
      | nil => rfl
      | cons byte rest =>
          have noMark := (stops byte rfl).2.2
          simp [exponentRun, noMark]
  | cons mark text =>
      rw [List.cons_append, exponentRun_cons]
      rw [exponentRun_cons] at result
      by_cases marked : mark = 0x65 ∨ mark = 0x45
      · rw [if_pos marked] at result ⊢
        obtain ⟨⟨run, behind⟩, digits, whole⟩ := map_eq_ok.mp result
        cases whole
        have some : text ≠ [] := by
          rintro rfl
          cases digits
        rw [exponentSign_append some]
        exact map_eq_ok.mpr ⟨(run, behind ++ rest), digitRun_append digits stops, rfl⟩
      · rw [if_neg marked] at result ⊢
        cases result
        rfl

theorem readNumeral_append {numeral : Numeral} (result : readNumeral text = .ok (numeral, left))
    (stops : Stops rest) : readNumeral (text ++ rest) = .ok (numeral, left ++ rest) := by
  obtain ⟨behindWhole, behindFraction, whole, fraction, exponent, negative⟩ :=
    readNumeral_eq_ok_iff.mp result
  have some : text ≠ [] := by
    rintro rfl
    cases whole
  refine readNumeral_eq_ok_iff.mpr ⟨behindWhole ++ rest, behindFraction ++ rest, ?_,
    fractionRun_append fraction stops, exponentRun_append exponent stops, ?_⟩
  · rw [leadingMinus_append some]
    exact wholeRun_append whole stops
  · rw [leadingMinus_append some]
    exact negative

end Append

/-! ## The digits of an integer -/

/-- The decimal digits of a number, the first one zero only for zero itself. -/
def digitBytes (value : Nat) : Bytes :=
  (Nat.toDigits 10 value).flatMap String.utf8EncodeChar

theorem encodeChar_digitChar {digit : Nat} (small : digit < 10) :
    String.utf8EncodeChar digit.digitChar = [UInt8.ofNat (0x30 + digit)] := by
  have all : ∀ digit < 10,
      String.utf8EncodeChar digit.digitChar = [UInt8.ofNat (0x30 + digit)] := by
    decide
  exact all digit small

theorem digitBytes_of_lt {value : Nat} (small : value < 10) :
    digitBytes value = [UInt8.ofNat (0x30 + value)] := by
  rw [digitBytes, Nat.toDigits_of_lt_base small, List.flatMap_singleton,
    encodeChar_digitChar small]

theorem digitBytes_of_le {value : Nat} (large : 10 ≤ value) :
    digitBytes value = digitBytes (value / 10) ++ [UInt8.ofNat (0x30 + value % 10)] := by
  rw [digitBytes, Nat.toDigits_of_base_le (by decide) large, List.flatMap_append,
    List.flatMap_singleton, encodeChar_digitChar (Nat.mod_lt _ (by decide)), digitBytes]

/-- Induction along the digits of a number. -/
theorem digitInduction {motive : Nat → Prop} (one : ∀ value < 10, motive value)
    (more : ∀ value, 10 ≤ value → motive (value / 10) → motive value) (value : Nat) :
    motive value := by
  induction value using Nat.strong_induction_on with
  | _ value ih =>
      rcases Nat.lt_or_ge value 10 with small | large
      · exact one value small
      · exact more value large (ih _ (by omega))

theorem isDigitByte_ofNat {digit : Nat} (small : digit < 10) :
    isDigitByte (UInt8.ofNat (0x30 + digit)) = true := by
  have all : ∀ digit < 10, isDigitByte (UInt8.ofNat (0x30 + digit)) = true := by decide
  exact all digit small

theorem isDigitByte_of_mem (value : Nat) : ∀ byte ∈ digitBytes value, isDigitByte byte = true := by
  induction value using digitInduction with
  | one value small =>
      rw [digitBytes_of_lt small]
      simpa using isDigitByte_ofNat small
  | more value large ih =>
      rw [digitBytes_of_le large]
      intro byte member
      rcases List.mem_append.mp member with earlier | last
      · exact ih byte earlier
      · rw [List.mem_singleton.mp last]
        exact isDigitByte_ofNat (Nat.mod_lt _ (by decide))

/-- The digits of a number that is not zero start with another digit than zero. -/
theorem head_digitBytes {value : Nat} (positive : 0 < value) :
    ∃ first rest, digitBytes value = first :: rest ∧ first ≠ 0x30 := by
  induction value using digitInduction with
  | one value small =>
      have all : ∀ digit < 10, 0 < digit → UInt8.ofNat (0x30 + digit) ≠ 0x30 := by decide
      exact ⟨_, [], digitBytes_of_lt small, all value small positive⟩
  | more value large ih =>
      obtain ⟨first, rest, digits, other⟩ := ih (by omega)
      exact ⟨first, rest ++ [_], by rw [digitBytes_of_le large, digits]; rfl, other⟩

theorem significandOf_append {value found : Nat} {digits : Bytes} {digit : Nat}
    (counted : significandOf value digits = (found, 0)) (small : digit < 10)
    (fits : 10 * found + digit ≤ maxUnsigned) :
    significandOf value (digits ++ [UInt8.ofNat (0x30 + digit)]) = (10 * found + digit, 0) := by
  induction digits generalizing value with
  | nil =>
      cases counted
      have same : (UInt8.ofNat (0x30 + digit)).toNat - 0x30 = digit := by
        rw [UInt8.toNat_ofNat_of_lt' (Nat.lt_of_lt_of_le (by omega : _ < 58) (by decide))]
        omega
      simp only [List.nil_append, significandOf, same, if_pos fits]
  | cons first rest ih =>
      simp only [List.cons_append, significandOf] at counted ⊢
      split
      · rename_i next
        rw [if_pos next] at counted
        exact ih counted
      · rename_i overflow
        rw [if_neg overflow] at counted
        cases counted

theorem significandOf_digitBytes {value : Nat} (fits : value ≤ maxUnsigned) :
    significandOf 0 (digitBytes value) = (value, 0) := by
  induction value using digitInduction with
  | one value small =>
      rw [digitBytes_of_lt small]
      have counted : significandOf 0 ([] ++ [UInt8.ofNat (0x30 + value)]) = (10 * 0 + value, 0) :=
        significandOf_append rfl small (by simpa using fits)
      simpa using counted
  | more value large ih =>
      rw [digitBytes_of_le large]
      have whole : 10 * (value / 10) + value % 10 = value := Nat.div_add_mod value 10
      have counted := significandOf_append (ih (by omega)) (Nat.mod_lt value (by decide))
        (whole.symm ▸ fits)
      rw [counted, whole]

theorem digitBytes_ne_nil (value : Nat) : digitBytes value ≠ [] := by
  induction value using digitInduction with
  | one value small =>
      rw [digitBytes_of_lt small]
      exact List.cons_ne_nil _ _
  | more value large ih =>
      rw [digitBytes_of_le large]
      simp

theorem digitRun_digitBytes (value : Nat) :
    digitRun (digitBytes value) = .ok (digitBytes value, []) := by
  have digits := isDigitByte_of_mem value
  unfold digitRun
  rw [List.takeWhile_eq_self_iff.mpr digits, List.dropWhile_eq_nil_iff.mpr digits]
  split
  · rename_i none
    exact absurd none (digitBytes_ne_nil value)
  · rfl

theorem wholeRun_digitBytes (value : Nat) :
    wholeRun (digitBytes value) = .ok (digitBytes value, []) := by
  refine bind_eq_ok.mpr ⟨_, digitRun_digitBytes value, ?_⟩
  rcases Nat.eq_zero_or_pos value with rfl | positive
  · rfl
  · obtain ⟨first, rest, digits, other⟩ := head_digitBytes positive
    simp only [digits]
    split
    · simp_all
    · rfl

/-- The text of an integer: its sign and its digits. -/
def integerBytes (negative : Bool) (magnitude : Nat) : Bytes :=
  if negative then 0x2d :: digitBytes magnitude else digitBytes magnitude

/-- The text of an integer starts with its sign or with a digit. -/
theorem head_integerBytes (negative : Bool) (magnitude : Nat) :
    ∃ byte tail, integerBytes negative magnitude = byte :: tail ∧
      (byte = 0x2d ∧ negative = true ∧ tail = digitBytes magnitude ∨
        isDigitByte byte = true ∧ negative = false) := by
  cases negative with
  | true => exact ⟨_, _, rfl, .inl ⟨rfl, rfl, rfl⟩⟩
  | false =>
      cases digits : digitBytes magnitude with
      | nil => exact absurd digits (digitBytes_ne_nil magnitude)
      | cons first rest =>
          exact ⟨first, rest, digits,
            .inr ⟨isDigitByte_of_mem magnitude first (digits ▸ List.mem_cons_self), rfl⟩⟩

theorem leadingMinus_integerBytes (negative : Bool) (magnitude : Nat) :
    leadingMinus (integerBytes negative magnitude) = (negative, digitBytes magnitude) := by
  obtain ⟨byte, tail, text, ⟨rfl, rfl, rfl⟩ | ⟨digit, rfl⟩⟩ := head_integerBytes negative magnitude
  · rfl
  · have noSign : byte ≠ 0x2d := by
      rintro rfl
      cases digit
    have digits : digitBytes magnitude = byte :: tail := text
    rw [text, digits]
    unfold leadingMinus
    split
    · simp_all
    · rfl

theorem readNumeral_integerBytes (negative : Bool) (magnitude : Nat) :
    readNumeral (integerBytes negative magnitude) =
      .ok (⟨negative, digitBytes magnitude, [], none⟩, []) := by
  refine readNumeral_eq_ok_iff.mpr ⟨[], [], ?_, rfl, rfl, ?_⟩
  · rw [leadingMinus_integerBytes]
    exact wholeRun_digitBytes magnitude
  · rw [leadingMinus_integerBytes]

/-! ## What a text denotes -/

/-- A text is read as a number, perhaps with blanks around. -/
def Denotes (text : Bytes) (number : Number) : Prop :=
  ∃ byte tail numeral left, skipSpaces text = byte :: tail ∧
    (byte = 0x2d ∨ isDigitByte byte = true) ∧
    readNumeral (byte :: tail) = .ok (numeral, left) ∧ numeral.value = .ok number ∧
    skipSpaces left = []

theorem toString_bytes (value : Int) :
    (toString value).toUTF8.toList = integerBytes (value < 0) value.natAbs := by
  have digits (magnitude : Nat) : magnitude.repr.toUTF8.toList = digitBytes magnitude := by
    rw [Nat.repr_eq_ofList_toDigits, Text.bytes_ofList, digitBytes]
  cases value with
  | ofNat magnitude =>
      show magnitude.repr.toUTF8.toList = _
      rw [digits]
      rfl
  | negSucc less =>
      show ("-" ++ less.succ.repr).toUTF8.toList = _
      have minus : "-".toUTF8.toList = [0x2d] := by
        rw [Text.bytes_eq]
        rfl
      rw [Text.bytes_append, digits, minus, integerBytes, if_pos (by simp), Int.natAbs_negSucc]
      rfl

theorem isSpace_of_sign {byte : UInt8} (sign : byte = 0x2d ∨ isDigitByte byte = true) :
    isSpace byte = false := by
  by_contra space
  simp only [isSpace, Bool.not_eq_false, Bool.or_eq_true, decide_eq_true_eq] at space
  rcases space with ((rfl | rfl) | rfl) | rfl <;> revert sign <;> decide

theorem denotes_integer {value : Int} (inRange : (Number.integer value).InRange) :
    Denotes (toString value).toUTF8.toList (.integer value) := by
  obtain ⟨low, high⟩ := inRange
  have limits : maxUnsigned = 2 ^ 64 - 1 ∧ Nat.pow 2 63 = 2 ^ 63 := ⟨rfl, rfl⟩
  obtain ⟨byte, tail, text, start⟩ := head_integerBytes (value < 0) value.natAbs
  have sign : byte = 0x2d ∨ isDigitByte byte = true := start.imp And.left And.left
  refine ⟨byte, tail, ⟨value < 0, digitBytes value.natAbs, [], none⟩, [], ?_, sign, ?_, ?_, rfl⟩
  · rw [toString_bytes, text, skipSpaces, List.dropWhile_cons,
      if_neg (by simp [isSpace_of_sign sign])]
  · rw [← text]
    exact readNumeral_integerBytes _ _
  · have counted : significandOf 0 (digitBytes value.natAbs) = (value.natAbs, 0) :=
      significandOf_digitBytes (by omega)
    have signed : (! decide (value < 0)) = true ∨
        0 < value.natAbs ∧ value.natAbs ≤ Nat.pow 2 63 := by
      by_cases below : value < 0
      · exact .inr (by rw [limits.2]; omega)
      · exact .inl (by simp [below])
    have whole : (if decide (value < 0) = true then -(value.natAbs : Int) else value.natAbs) =
        value := by
      split
      · rename_i below
        have negative : value < 0 := of_decide_eq_true below
        omega
      · rename_i notBelow
        have positive : ¬ value < 0 := fun below => notBelow (decide_eq_true below)
        omega
    simp only [Numeral.value, counted]
    rw [if_pos ⟨rfl, rfl, trivial, signed⟩, whole]

/-- The text of a double is read as that double. -/
def Survives (real : Binary64) : Prop :=
  decode Decoder.value real.documentText.toUTF8.toList = .ok (.number (.real real))

def isReal (real : Binary64) : Except Fault Value → Bool
  | .ok (.number (.real found)) => found == real
  | _ => false

theorem isReal_iff {real : Binary64} {read : Except Fault Value} :
    isReal real read = true ↔ read = .ok (.number (.real real)) := by
  unfold isReal
  split
  · simp
  · rename_i other
    exact ⟨nofun, fun same => absurd same (other real)⟩

instance (real : Binary64) : Decidable (Survives real) :=
  decidable_of_iff
    (isReal real (decode Decoder.value
      (real.documentText.toList.flatMap String.utf8EncodeChar)) = true) (by
    rw [isReal_iff, Survives, Text.bytes_eq])

theorem readNode_number {fuel : Nat} {text rest : Bytes} {value : Except Fault Number}
    (result : readNode (fuel + 1) text = (.number value, rest)) :
    ∃ byte tail numeral, skipSpaces text = byte :: tail ∧
      (byte = 0x2d ∨ isDigitByte byte = true) ∧
      readNumeral (byte :: tail) = .ok (numeral, rest) ∧ numeral.value = value := by
  have word (expected : Bytes) (node : Node) (tail : Bytes)
      (other : ∀ value, node ≠ .number value) :
      readWord expected node tail ≠ (.number value, rest) := by
    unfold readWord
    split
    · exact fun same => other value (congrArg Prod.fst same)
    · exact fun same => Node.noConfusion (congrArg Prod.fst same)
  rw [readNode] at result
  split at result
  · cases result
  · rename_i byte tail start
    split at result
    · exact absurd result (word _ _ _ (by simp))
    split at result
    · exact absurd result (word _ _ _ (by simp))
    split at result
    · exact absurd result (word _ _ _ (by simp))
    split at result
    · rename_i sign
      split at result
      · rename_i numeral left numeralRead
        cases result
        exact ⟨byte, tail, numeral, start, sign, numeralRead, rfl⟩
      · cases result
    split at result
    · split at result <;> cases result
    split at result
    · cases result
    split at result
    · cases result
    · cases result

theorem value_eq_number {levels : Nat} {node : Node} {number : Number}
    (result : node.value levels = .ok (.number number)) : node = .number (.ok number) := by
  cases node with
  | number value =>
      obtain ⟨found, valued, same⟩ := map_eq_ok.mp result
      cases same
      rw [valued]
  | list items ending =>
      cases levels with
      | zero => cases result
      | succ levels =>
          obtain ⟨values, -, last⟩ := bind_eq_ok.mp result
          obtain ⟨-, -, same⟩ := bind_eq_ok.mp last
          cases same
  | record members ending =>
      cases levels with
      | zero => cases result
      | succ levels =>
          obtain ⟨values, -, last⟩ := bind_eq_ok.mp result
          obtain ⟨-, -, same⟩ := bind_eq_ok.mp last
          cases same
  | text value =>
      obtain ⟨found, -, same⟩ := map_eq_ok.mp result
      cases same
  | null => cases result
  | boolean value => cases result
  | broken place => cases result

theorem Survives.denotes {real : Binary64} (survives : Survives real) :
    Denotes real.documentText.toUTF8.toList (.real real) := by
  unfold Survives decode Document.ofBytes at survives
  generalize real.documentText.toUTF8.toList = text at survives ⊢
  cases tree : readNode (2 * text.length + 2) text with
  | mk root left =>
      rw [tree] at survives
      obtain ⟨value, valued, whole⟩ := bind_eq_ok.mp survives
      dsimp only at valued whole
      split at whole
      · cases whole
      · rename_i ends
        cases whole
        rw [value_eq_number valued] at tree
        obtain ⟨byte, tail, numeral, start, sign, read, denoted⟩ := readNode_number tree
        exact ⟨byte, tail, numeral, left, start, sign, read, denoted, by simpa using ends⟩

end PackageSearch.Json
