import PackageSearch.Number.Binary64

/-!
# Decimal numerals

Runs of ASCII digits, and the texts that denote a double: an optional sign, then `inf`,
`infinity` or `nan` in any case, or digits with an optional point and an optional exponent.
-/

set_option autoImplicit false

namespace PackageSearch

def digitValue (digit : Char) : Nat := digit.toNat - '0'.toNat

/-- The value of a run of digits, most significant first. -/
def numeralValue (digits : List Char) : Nat :=
  digits.foldl (fun value digit => 10 * value + digitValue digit) 0

/-- The longest run of ASCII digits a text starts with, and what follows it. -/
def leadingDigits (text : List Char) : List Char × List Char :=
  (text.takeWhile Char.isDigit, text.dropWhile Char.isDigit)

def numeral? (text : List Char) : Option Nat :=
  if text.isEmpty ∨ ¬ text.all Char.isDigit then none else some (numeralValue text)

def leadingSign : List Char → Bool × List Char
  | '-' :: rest => (true, rest)
  | '+' :: rest => (false, rest)
  | text => (false, text)

namespace Binary64

/-- The exponent written at the start of a text, `e` or `E` first; no exponent is zero. -/
def exponent? : List Char → Option Int
  | [] => some 0
  | mark :: rest =>
      if mark = 'e' ∨ mark = 'E' then
        let (negative, digits) := leadingSign rest
        (numeral? digits).map fun value => if negative then -(value : Int) else value
      else none

def ofDigits? (negative : Bool) (text : List Char) : Option Binary64 :=
  let (whole, rest) := leadingDigits text
  let (fraction, rest) := match rest with
    | '.' :: rest => leadingDigits rest
    | rest => ([], rest)
  if whole.isEmpty ∧ fraction.isEmpty then none
  else (exponent? rest).map fun exponent =>
    ofDecimal negative (numeralValue (whole ++ fraction)) (exponent - fraction.length)

def ofText? (text : String) : Option Binary64 :=
  let (negative, magnitude) := leadingSign text.toList
  let word := String.ofList (magnitude.map Char.toLower)
  if word = "inf" ∨ word = "infinity" then some (infinity negative)
  else if word = "nan" then some (if negative then negated notANumber else notANumber)
  else ofDigits? negative magnitude

end Binary64

end PackageSearch
