/-!
# Natural logarithms of fractions

Fixed-point numbers count units of `10 ^ -18`. The logarithm of a fraction that is at least one is
a multiple of the logarithm of two and a rest below it; both come from the series of the inverse
hyperbolic tangent, `ln x = 2 (z + z³ / 3 + z⁵ / 5 + …)` with `z = (x - 1) / (x + 1)`.
-/

set_option autoImplicit false

namespace PackageSearch.FixedPoint

def one : Nat := Nat.pow 10 18

/-- Sum `count` terms of the series from a given power of `numerator / denominator` on, whose
exponent is `odd`. -/
def seriesFrom (numerator denominator : Nat) : Nat → Nat → Nat → Nat
  | 0, _, _ => 0
  | count + 1, odd, power =>
      power / odd + seriesFrom numerator denominator count (odd + 2)
        (power * Nat.pow numerator 2 / Nat.pow denominator 2)

/-- Twice the inverse hyperbolic tangent of a fraction of at most one third, to within some forty
units: each of the terms is less than a ninth of the one before. -/
def twiceArtanh (numerator denominator : Nat) : Nat :=
  2 * seriesFrom numerator denominator 20 1 (numerator * one / denominator)

/-- The natural logarithm of `numerator / denominator`, zero below one. -/
def logarithm (numerator denominator : Nat) : Nat :=
  let doublings := (numerator / denominator).log2
  let scaled := denominator * Nat.pow 2 doublings
  doublings * twiceArtanh 1 3 + twiceArtanh (numerator - scaled) (numerator + scaled)

end PackageSearch.FixedPoint
