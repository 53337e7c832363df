/-!
# Double-precision numbers

A double is kept as its 64 bits, and every operation is exact arithmetic on natural numbers
followed by one rounding, half to even. Finite magnitudes are `significand * 2 ^ shift` units,
one unit being `2 ^ -1074`, so no negative exponent occurs.
-/

set_option autoImplicit false

namespace PackageSearch

/-- A double-precision number, by its bits. -/
structure Binary64 where
  bits : UInt64
  deriving DecidableEq, Inhabited

namespace Binary64

/-- The magnitude `significand * 2 ^ shift` in units of `2 ^ -1074`. -/
structure Magnitude where
  significand : Nat
  shift : Nat

def unitsPerOne : Nat := Nat.pow 2 1074

/-- The bits of the smallest value that is not finite. -/
def infinityBits : Nat := 0x7ff0000000000000

def signBit : Nat := 0x8000000000000000

def magnitudeBits (number : Binary64) : Nat := number.bits.toNat % signBit

def isNegative (number : Binary64) : Bool := signBit ≤ number.bits.toNat

def isNaN (number : Binary64) : Bool := infinityBits < number.magnitudeBits

def isInfinite (number : Binary64) : Bool := number.magnitudeBits == infinityBits

def isFinite (number : Binary64) : Bool := number.magnitudeBits < infinityBits

def magnitude (number : Binary64) : Magnitude :=
  let exponent := number.magnitudeBits / Nat.pow 2 52
  let fraction := number.magnitudeBits % Nat.pow 2 52
  if exponent = 0 then ⟨fraction, 0⟩ else ⟨Nat.pow 2 52 + fraction, exponent - 1⟩

def Magnitude.units (magnitude : Magnitude) : Nat :=
  magnitude.significand * Nat.pow 2 magnitude.shift

def ofBits (negative : Bool) (bits : Nat) : Binary64 :=
  ⟨UInt64.ofNat (if negative then signBit + bits else bits)⟩

/-- The quotient rounded to the nearest natural number, a half going to the even neighbour. -/
def roundedQuotient (numerator denominator : Nat) : Nat :=
  let quotient := numerator / denominator
  let twice := 2 * (numerator % denominator)
  if denominator < twice ∨ (twice = denominator ∧ quotient % 2 = 1) then quotient + 1 else quotient

/-- The double nearest to `numerator / denominator`; overflow gives an infinity. -/
def ofRatio (negative : Bool) (numerator denominator : Nat) : Binary64 :=
  let units := numerator * unitsPerOne
  let whole := units / denominator
  let shift := if whole = 0 then 0 else whole.log2 + 1 - 53
  let significand := roundedQuotient units (denominator * Nat.pow 2 shift)
  ofBits negative (min infinityBits (shift * Nat.pow 2 52 + significand))

def zero : Binary64 := ⟨0⟩

def infinity (negative : Bool) : Binary64 := ofBits negative infinityBits

def notANumber : Binary64 := ⟨0x7ff8000000000000⟩

def ofNat (value : Nat) : Binary64 := ofRatio false value 1

def ofInt (value : Int) : Binary64 := ofRatio (value < 0) value.natAbs 1

def powerOfTen (exponent : Nat) : Binary64 := ofNat (Nat.pow 10 exponent)

/-- The product of two finite numbers that are not negative. -/
def times (left right : Binary64) : Binary64 :=
  ofRatio false (left.magnitude.units * right.magnitude.units) (unitsPerOne * unitsPerOne)

/-- The quotient of two finite numbers that are not negative, the second not zero. -/
def dividedBy (left right : Binary64) : Binary64 :=
  ofRatio false left.magnitude.units right.magnitude.units

def negated (number : Binary64) : Binary64 := ⟨number.bits ^^^ UInt64.ofNat signBit⟩

def digitCount (value : Nat) : Nat := (Nat.toDigits 10 value).length

/-- The double nearest to `digits * 10 ^ exponent`. Values far outside the range of doubles are
answered without building the power. -/
def ofDecimal (negative : Bool) (digits : Nat) (exponent : Int) : Binary64 :=
  let reach := (digitCount digits : Int) + exponent
  if digits = 0 ∨ reach < -330 then ofBits negative 0
  else if 310 < reach then infinity negative
  else if exponent < 0 then ofRatio negative digits (Nat.pow 10 exponent.natAbs)
  else ofRatio negative (digits * Nat.pow 10 exponent.natAbs) 1

end Binary64

end PackageSearch
