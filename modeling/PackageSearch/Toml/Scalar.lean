import PackageSearch.Number.Numeral
import PackageSearch.Toml.Value

/-!
# Numbers, truth values and moments of TOML

A scalar without quotes is one run of characters, and a moment may have one blank between its date
and its time. Digits may be grouped by single underscores. Moments must exist in the calendar.
-/

set_option autoImplicit false

namespace PackageSearch.Toml

/-- Digits in groups with single underscores between them, at least one digit: the digits. -/
def grouped? (isDigit : Char → Bool) : List Char → Option (List Char)
  | [] => none
  | [digit] => if isDigit digit then some [digit] else none
  | digit :: '_' :: rest =>
      if isDigit digit then (grouped? isDigit rest).map (digit :: ·) else none
  | digit :: rest =>
      if isDigit digit then (grouped? isDigit rest).map (digit :: ·) else none

/-- A decimal number without a sign: a zero or digits that do not start with one. -/
def decimal? (text : List Char) : Option Nat := do
  let digits ← grouped? Char.isDigit text
  if digits.head? = some '0' && digits.length ≠ 1 then none else some (numeralValue digits)

def hexDigit? (digit : Char) : Option Nat :=
  if digit.isDigit then some (digit.toNat - '0'.toNat)
  else if 'a' ≤ digit && digit ≤ 'f' then some (digit.toNat - 'a'.toNat + 10)
  else if 'A' ≤ digit && digit ≤ 'F' then some (digit.toNat - 'A'.toNat + 10)
  else none

def based? (base : Nat) (text : List Char) : Option Nat := do
  let digits ← grouped? (fun digit => (hexDigit? digit).any (· < base)) text
  some (digits.foldl (fun value digit => base * value + (hexDigit? digit).getD 0) 0)

/-- An integer; other bases than ten have a mark and no sign. -/
def integer? : List Char → Option Int
  | '0' :: 'x' :: rest => (based? 16 rest).map Int.ofNat
  | '0' :: 'o' :: rest => (based? 8 rest).map Int.ofNat
  | '0' :: 'b' :: rest => (based? 2 rest).map Int.ofNat
  | '-' :: rest => (decimal? rest).map fun value => -(value : Int)
  | '+' :: rest => (decimal? rest).map Int.ofNat
  | text => (decimal? text).map Int.ofNat

def integerLimit : Nat := Nat.pow 2 128

def isExponent (text : List Char) : Bool :=
  (grouped? Char.isDigit (leadingSign text).2).isSome

def isExponentMark (character : Char) : Bool :=
  character = 'e' || character = 'E'

/-- Whether a text is a real number: it has a fraction or an exponent, or is a named one. -/
def isReal (text : List Char) : Bool :=
  let magnitude := (leadingSign text).2
  let mantissa := magnitude.takeWhile fun character => ! isExponentMark character
  let exponent := magnitude.drop mantissa.length
  let whole := mantissa.takeWhile (· != '.')
  let fraction := mantissa.drop whole.length
  magnitude = "inf".toList || magnitude = "nan".toList ||
    ((decimal? whole).isSome && ! (fraction.isEmpty && exponent.isEmpty) &&
      (fraction.isEmpty || (grouped? Char.isDigit (fraction.drop 1)).isSome) &&
      (exponent.isEmpty || isExponent (exponent.drop 1)))

/-! ## Moments -/

def fixedDigits? (count : Nat) (text : List Char) : Option Nat :=
  if text.length = count then numeral? text else none

def isLeapYear (year : Nat) : Bool :=
  year % 4 = 0 && (year % 100 ≠ 0 || year % 400 = 0)

def daysOfMonth (year month : Nat) : Nat :=
  if month = 2 then (if isLeapYear year then 29 else 28)
  else if month = 4 || month = 6 || month = 9 || month = 11 then 30
  else 31

def isDate (text : List Char) : Bool :=
  match fixedDigits? 4 (text.take 4), text.drop 4 with
  | some year, '-' :: first :: second :: '-' :: day =>
      match fixedDigits? 2 [first, second], fixedDigits? 2 day with
      | some month, some day =>
          1 ≤ month && month ≤ 12 && 1 ≤ day && day ≤ daysOfMonth year month
      | _, _ => false
  | _, _ => false

def isTwoDigits (most : Nat) (text : List Char) : Bool :=
  (fixedDigits? 2 text).any (· ≤ most)

/-- Whether a text is the seconds of a time, perhaps with a fraction. -/
def isSeconds (text : List Char) : Bool :=
  isTwoDigits 60 (text.take 2) &&
    match text.drop 2 with
    | [] => true
    | '.' :: fraction => (numeral? fraction).isSome
    | _ => false

/-- Whether a text is a time of day; the seconds may be missing. -/
def isTime (text : List Char) : Bool :=
  isTwoDigits 23 (text.take 2) &&
    match text.drop 2 with
    | ':' :: rest =>
        isTwoDigits 59 (rest.take 2) &&
          match rest.drop 2 with
          | [] => true
          | ':' :: seconds => isSeconds seconds
          | _ => false
    | _ => false

def isOffset (text : List Char) : Bool :=
  match text with
  | ['Z'] => true
  | ['z'] => true
  | sign :: first :: second :: ':' :: minutes =>
      (sign = '+' || sign = '-') && isTwoDigits 23 [first, second] && isTwoDigits 59 minutes
  | _ => false

/-- Whether a text is a date, a time, or a date with a time and perhaps an offset. -/
def isMoment (text : List Char) : Bool :=
  let rest := text.drop 10
  let time := (rest.drop 1).takeWhile fun character =>
    character.isDigit || ":.".toList.contains character
  let offset := (rest.drop 1).drop time.length
  isTime text ||
    (isDate (text.take 10) &&
      (rest.isEmpty ||
        (rest.head?.any "Tt ".toList.contains && isTime time &&
          (offset.isEmpty || isOffset offset))))

/-! ## Runs -/

def isScalarCharacter (character : Char) : Bool :=
  character.isAlphanum || "+-_.:".toList.contains character

def startsTime : List Char → Bool
  | first :: second :: ':' :: _ => first.isDigit && second.isDigit
  | _ => false

/-- The run of a scalar; the time behind a date and a blank belongs to it. -/
def scalarSpan (text : List Char) : List Char × List Char :=
  let run := text.takeWhile isScalarCharacter
  match text.drop run.length with
  | ' ' :: rest =>
      if isDate run && startsTime rest then
        (run ++ ' ' :: rest.takeWhile isScalarCharacter, rest.dropWhile isScalarCharacter)
      else (run, ' ' :: rest)
  | rest => (run, rest)

def scalarOf? (run : List Char) : Option Value :=
  if run = "true".toList then some (.boolean true)
  else if run = "false".toList then some (.boolean false)
  else match integer? run with
    | some value => if value.natAbs < integerLimit then some (.integer value) else none
    | none =>
        if isReal run then some .real
        else if isMoment run then some .moment
        else none

def readScalar? (text : List Char) : Option (Value × List Char) :=
  let (run, rest) := scalarSpan text
  (scalarOf? run).map fun value => (value, rest)

end PackageSearch.Toml
