import PackageSearch.Number.Binary64

/-!
# Shortest decimal digits

The fewest decimal digits that read back as a given double, and of the decimals with so few
digits the one nearest to it. The value is compared with the two neighbours on each decimal grid,
in exact arithmetic; the first grid with a neighbour that rounds to the double wins.
-/

set_option autoImplicit false

namespace PackageSearch

/-- A decimal: its digits, and the power of ten of the first of them. -/
structure Decimal where
  digits : List Char
  exponent : Int
  deriving DecidableEq

namespace Binary64

/-- The numbers that round to one double: everything between `low` and `high`, with the ends when
`closed`. All three values are in quarters of a unit. -/
structure Rounding where
  low : Nat
  value : Nat
  high : Nat
  closed : Bool

def Magnitude.rounding (magnitude : Magnitude) : Rounding :=
  let scale := Nat.pow 2 magnitude.shift
  let below := if magnitude.significand = Nat.pow 2 52 ∧ 0 < magnitude.shift then 1 else 2
  { low := (4 * magnitude.significand - below) * scale
    value := 4 * magnitude.significand * scale
    high := (4 * magnitude.significand + 2) * scale
    closed := magnitude.significand % 2 = 0 }

def quartersPerOne : Nat := 4 * unitsPerOne

/-- The least `count` from the given one on with `denominator ≤ numerator * 10 ^ count`. -/
def leadingZeros (numerator denominator : Nat) : Nat → Nat → Nat
  | 0, count => count
  | fuel + 1, count =>
      if denominator ≤ numerator * Nat.pow 10 count then count
      else leadingZeros numerator denominator fuel (count + 1)

/-- The power of ten of the first digit of `numerator / denominator`. -/
def firstExponent (numerator denominator : Nat) : Int :=
  if denominator ≤ numerator then (digitCount (numerator / denominator) : Int) - 1
  else -(leadingZeros numerator denominator 400 1 : Int)

/-- A grid point `point * 10 ^ exponent` in quarter units, both sides scaled alike. -/
def Rounding.holds (rounding : Rounding) (point : Nat) (exponent : Int) : Bool :=
  let up := if exponent < 0 then 1 else Nat.pow 10 exponent.natAbs
  let down := if exponent < 0 then Nat.pow 10 exponent.natAbs else 1
  let place := point * up * quartersPerOne
  let low := rounding.low * down
  let high := rounding.high * down
  if rounding.closed then low ≤ place ∧ place ≤ high else low < place ∧ place < high

/-- The distance of a grid point from the value, on the scale of the grid. -/
def Rounding.distance (rounding : Rounding) (point : Nat) (exponent : Int) : Nat :=
  let up := if exponent < 0 then 1 else Nat.pow 10 exponent.natAbs
  let down := if exponent < 0 then Nat.pow 10 exponent.natAbs else 1
  let place := point * up * quartersPerOne
  let value := rounding.value * down
  if place ≤ value then value - place else place - value

/-- The neighbour of the value on the grid of `10 ^ exponent` that rounds to it, if one does. -/
def Rounding.onGrid? (rounding : Rounding) (exponent : Int) : Option Nat :=
  let up := if exponent < 0 then 1 else Nat.pow 10 exponent.natAbs
  let down := if exponent < 0 then Nat.pow 10 exponent.natAbs else 1
  let below := rounding.value * down / (up * quartersPerOne)
  let above := below + 1
  match rounding.holds below exponent, rounding.holds above exponent with
  | true, true =>
      let fromBelow := rounding.distance below exponent
      let fromAbove := rounding.distance above exponent
      some (
        if fromBelow < fromAbove ∨ (fromBelow = fromAbove ∧ below % 2 = 0) then below else above)
  | true, false => some below
  | false, true => some above
  | false, false => none

def Rounding.search (rounding : Rounding) : Nat → Int → Nat × Int
  | 0, exponent => (0, exponent)
  | fuel + 1, exponent =>
      match rounding.onGrid? exponent with
      | some point => (point, exponent)
      | none => rounding.search fuel (exponent - 1)

/-- The shortest decimal of a finite number other than zero, without its sign. -/
def shortest (number : Binary64) : Decimal :=
  let rounding := number.magnitude.rounding
  let (point, exponent) :=
    rounding.search 18 (firstExponent rounding.value quartersPerOne)
  let digits := Nat.toDigits 10 point
  let trimmed := (digits.reverse.dropWhile (· == '0')).reverse
  { digits := trimmed, exponent := exponent + (digits.length : Int) - 1 }

end Binary64

/-- The digits with a decimal point after the place of the ones, never in exponent form. An
integer has `fraction` behind its point, or no point when that is empty. -/
def Decimal.positional (decimal : Decimal) (fraction : List Char) : List Char :=
  let places := decimal.exponent.natAbs
  if decimal.exponent < 0 then
    '0' :: '.' :: List.replicate (places - 1) '0' ++ decimal.digits
  else if decimal.digits.length ≤ places + 1 then
    let whole := decimal.digits ++ List.replicate (places + 1 - decimal.digits.length) '0'
    if fraction.isEmpty then whole else whole ++ '.' :: fraction
  else decimal.digits.take (places + 1) ++ '.' :: decimal.digits.drop (places + 1)

/-- One digit, the point and the other digits, and the signed power of ten. -/
def Decimal.scientific (decimal : Decimal) : List Char :=
  let lead := match decimal.digits with
    | first :: second :: rest => first :: '.' :: second :: rest
    | short => short
  let sign := if decimal.exponent < 0 then '-' else '+'
  lead ++ 'e' :: sign :: Nat.toDigits 10 decimal.exponent.natAbs

namespace Binary64

def signed (number : Binary64) (text : List Char) : String :=
  String.ofList (if number.isNegative then '-' :: text else text)

/-- The text of a finite number in a document: positional for a first digit between `10 ^ -5` and
`10 ^ 15`, always with a fraction; what is not finite is `null`. -/
def documentText (number : Binary64) : String :=
  if ¬ number.isFinite then "null"
  else if number.magnitudeBits = 0 then number.signed ['0', '.', '0']
  else
    let decimal := number.shortest
    number.signed
      (if -5 ≤ decimal.exponent ∧ decimal.exponent ≤ 15 then decimal.positional ['0']
       else decimal.scientific)

/-- The text of a number shown on its own: positional whatever its size, integers without a
fraction. -/
def displayText (number : Binary64) : String :=
  if number.isNaN then "NaN"
  else if number.isInfinite then number.signed ['i', 'n', 'f']
  else if number.magnitudeBits = 0 then number.signed ['0']
  else number.signed (number.shortest.positional [])

end Binary64

end PackageSearch
