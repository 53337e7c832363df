import Mathlib
import PackageSearch.Number.Shortest
import PackageSearch.Proofs.Number.Finite

/-!
# What rounds to a double

`Rounding.Admits` says of a ratio that it lies between the bounds of a `Rounding`. A ratio that the
bounds of a finite double admit is rounded to that double. Right below a power of two the places
that rounding cuts off are one less, so there the significand is rounded up to that power.
-/

set_option autoImplicit false

namespace PackageSearch.Binary64

theorem ofBits_magnitudeBits (number : Binary64) :
    ofBits number.isNegative number.magnitudeBits = number := by
  obtain ⟨bits⟩ := number
  have limit : bits.toNat < 2 * signBit := bits.toNat_lt
  have whole : (if decide (signBit ≤ bits.toNat) then signBit + bits.toNat % signBit
      else bits.toNat % signBit) = bits.toNat := by
    by_cases negative : signBit ≤ bits.toNat
    · rw [if_pos (decide_eq_true negative), Nat.mod_eq_sub_mod negative,
        Nat.mod_eq_of_lt (by omega)]
      omega
    · rw [if_neg (by simpa using negative), Nat.mod_eq_of_lt (by omega)]
  have same := congrArg (fun value => Binary64.mk (UInt64.ofNat value)) whole
  rw [UInt64.ofNat_toNat] at same
  exact same

/-! ## The magnitude of a finite number -/

/-- The significand has 53 binary digits, or at most so many when it is not shifted. -/
structure Magnitude.Fits (magnitude : Magnitude) : Prop where
  positive : 0 < magnitude.significand
  below : magnitude.significand < 2 ^ 53
  full : magnitude.shift = 0 ∨ 2 ^ 52 ≤ magnitude.significand
  reach : magnitude.shift ≤ largestShift

/-- The bits of a magnitude count up, so a carry out of the significand shifts it. -/
theorem magnitudeBits_eq (number : Binary64) :
    number.magnitude.shift * 2 ^ 52 + number.magnitude.significand = number.magnitudeBits := by
  simp only [magnitude, Nat.pow_eq]
  split <;> simp only <;> omega

theorem magnitude_fits {number : Binary64} (finite : number.isFinite = true)
    (positive : number.magnitudeBits ≠ 0) : number.magnitude.Fits := by
  have bits : number.magnitudeBits < 2047 * 2 ^ 52 := of_decide_eq_true finite
  have whole := magnitudeBits_eq number
  have reach : number.magnitude.shift ≤ 2045 ∧ number.magnitude.significand < 2 ^ 53 ∧
      (number.magnitude.shift = 0 ∨ 2 ^ 52 ≤ number.magnitude.significand) := by
    by_cases subnormal : number.magnitudeBits / 2 ^ 52 = 0
    · simp only [magnitude, Nat.pow_eq, subnormal, if_true]
      exact ⟨Nat.zero_le _, by omega, .inl trivial⟩
    · simp only [magnitude, Nat.pow_eq, subnormal, if_false]
      omega
  refine ⟨?_, reach.2.1, reach.2.2, largestShift_eq ▸ reach.1⟩
  rcases reach.2.2 with still | full
  · rw [still] at whole
    omega
  · omega

/-! ## Rounding to a given significand -/

theorem cutPlaces_eq {whole shift : Nat} (below : whole < 2 ^ (53 + shift))
    (full : shift = 0 ∨ 2 ^ (52 + shift) ≤ whole) : cutPlaces whole = shift := by
  unfold cutPlaces
  rcases Nat.eq_zero_or_pos whole with rfl | positive
  · rcases full with rfl | full
    · rfl
    · exact absurd full (Nat.not_le.mpr (Nat.two_pow_pos _))
  · rw [if_neg (Nat.ne_of_gt positive)]
    have upper := (Nat.log2_lt (Nat.ne_of_gt positive)).mpr below
    rcases full with rfl | full
    · omega
    · have lower := (Nat.le_log2 (Nat.ne_of_gt positive)).mpr full
      omega

/-- A numerator within half a denominator of a multiple is rounded to that multiple, from exactly
half a denominator away if the multiple is even. -/
theorem roundedQuotient_eq {numerator denominator rounded : Nat} (positive : 0 < denominator)
    (low : 2 * (rounded * denominator) ≤ 2 * numerator + denominator)
    (high : 2 * numerator ≤ 2 * (rounded * denominator) + denominator)
    (ends : rounded % 2 = 0 ∨ 2 * (rounded * denominator) < 2 * numerator + denominator ∧
      2 * numerator < 2 * (rounded * denominator) + denominator) :
    roundedQuotient numerator denominator = rounded := by
  have parts := Nat.div_add_mod numerator denominator
  have rest := Nat.mod_lt numerator positive
  simp only [roundedQuotient]
  generalize numerator / denominator = quotient at parts ⊢
  generalize numerator % denominator = remainder at parts rest ⊢
  rw [Nat.mul_comm] at parts
  have fromAbove : quotient ≤ rounded := by
    by_contra larger
    have carried := Nat.mul_le_mul_right denominator (Nat.lt_of_not_le larger)
    rw [Nat.succ_mul] at carried
    omega
  have fromBelow : rounded ≤ quotient + 1 := by
    by_contra larger
    have carried := Nat.mul_le_mul_right denominator (Nat.lt_of_not_le larger)
    rw [Nat.succ_mul, Nat.succ_mul] at carried
    omega
  rcases Nat.lt_or_eq_of_le fromAbove with less | rfl
  · obtain rfl : rounded = quotient + 1 := by omega
    rw [Nat.succ_mul quotient] at low high ends
    rw [if_pos (by omega)]
  · rw [if_neg (by omega)]

theorem ofRatio_eq_ofBits (negative : Bool)
    {numerator denominator units shift significand step : Nat} (positive : 0 < denominator)
    (scaled : numerator * unitsPerOne = units) (scale : denominator * 2 ^ shift = step)
    (below : units < 2 ^ 53 * step) (full : shift = 0 ∨ 2 ^ 52 * step ≤ units)
    (rounded : roundedQuotient units step = significand)
    (finite : shift * 2 ^ 52 + significand ≤ infinityBits) :
    ofRatio negative numerator denominator = ofBits negative (shift * 2 ^ 52 + significand) := by
  have factored (digits : Nat) : 2 ^ digits * step = 2 ^ (digits + shift) * denominator := by
    rw [← scale, Nat.pow_add]
    ring
  have cut : cutPlaces (units / denominator) = shift := by
    apply cutPlaces_eq
    · rw [Nat.div_lt_iff_lt_mul positive, ← factored]
      exact below
    · rw [Nat.le_div_iff_mul_le positive, ← factored]
      exact full
  have value : ofRatio negative numerator denominator = ofBits negative (min infinityBits
      (cutPlaces (units / denominator) * 2 ^ 52 +
        roundedQuotient units (denominator * 2 ^ cutPlaces (units / denominator)))) :=
    scaled ▸ rfl
  rw [value, cut, scale, rounded, Nat.min_eq_right finite]

/-- A ratio a quarter of a step or less below the foot of a binary place is cut off one place
earlier, and its significand carries into that place. -/
theorem ofRatio_eq_of_carry (negative : Bool) {numerator denominator units shift step : Nat}
    (positive : 0 < denominator) (scaled : numerator * unitsPerOne = units)
    (scale : denominator * 2 ^ shift = step) (shifted : 0 < shift) (under : units < 2 ^ 52 * step)
    (near : 4 * (2 ^ 52 * step) ≤ 4 * units + step)
    (finite : shift * 2 ^ 52 + 2 ^ 52 ≤ infinityBits) :
    ofRatio negative numerator denominator = ofBits negative (shift * 2 ^ 52 + 2 ^ 52) := by
  obtain ⟨earlier, rfl⟩ := Nat.exists_eq_add_one_of_ne_zero (Nat.ne_of_gt shifted)
  have carry : earlier * 2 ^ 52 + 2 ^ 53 = (earlier + 1) * 2 ^ 52 + 2 ^ 52 := by
    have double : 2 ^ 53 = 2 ^ 52 + 2 ^ 52 := rfl
    rw [Nat.add_one_mul, Nat.add_assoc, ← double]
  obtain ⟨half, finer, halved⟩ : ∃ half, denominator * 2 ^ earlier = half ∧ step = 2 * half :=
    ⟨_, rfl, by rw [← scale, Nat.pow_succ, Nat.mul_comm 2, Nat.mul_assoc]⟩
  have steps : 0 < half := finer ▸ Nat.mul_pos positive (Nat.two_pow_pos earlier)
  have rounded : roundedQuotient units half = 2 ^ 53 := by
    apply roundedQuotient_eq steps
    · omega
    · omega
    · exact .inl rfl
  rw [← carry] at finite ⊢
  exact ofRatio_eq_ofBits negative positive scaled finer (by omega) (.inr (by omega)) rounded finite

/-! ## The ratios that round to a number -/

/-- A ratio lies between the bounds, or on one of them when these are included. -/
def Rounding.Admits (rounding : Rounding) (numerator denominator : Nat) : Prop :=
  if rounding.closed then
    rounding.low * denominator ≤ numerator * quartersPerOne ∧
      numerator * quartersPerOne ≤ rounding.high * denominator
  else
    rounding.low * denominator < numerator * quartersPerOne ∧
      numerator * quartersPerOne < rounding.high * denominator

theorem Rounding.Admits.le {rounding : Rounding} {numerator denominator : Nat}
    (admits : rounding.Admits numerator denominator) :
    rounding.low * denominator ≤ numerator * quartersPerOne ∧
      numerator * quartersPerOne ≤ rounding.high * denominator := by
  unfold Rounding.Admits at admits
  split at admits
  · exact admits
  · exact admits.imp Nat.le_of_lt Nat.le_of_lt

theorem Rounding.Admits.of_lt {rounding : Rounding} {numerator denominator : Nat}
    (low : rounding.low * denominator < numerator * quartersPerOne)
    (high : numerator * quartersPerOne < rounding.high * denominator) :
    rounding.Admits numerator denominator := by
  unfold Rounding.Admits
  split
  · exact ⟨Nat.le_of_lt low, Nat.le_of_lt high⟩
  · exact ⟨low, high⟩

theorem Rounding.Admits.of_ratio_eq {rounding : Rounding}
    {numerator denominator otherNumerator otherDenominator : Nat}
    (admits : rounding.Admits numerator denominator) (positive : 0 < denominator)
    (otherPositive : 0 < otherDenominator)
    (same : numerator * otherDenominator = otherNumerator * denominator) :
    rounding.Admits otherNumerator otherDenominator := by
  have place : numerator * quartersPerOne * otherDenominator =
      otherNumerator * quartersPerOne * denominator := by
    rw [Nat.mul_right_comm, same, Nat.mul_right_comm]
  have low (bound : Nat) : bound * denominator ≤ numerator * quartersPerOne ↔
      bound * otherDenominator ≤ otherNumerator * quartersPerOne := by
    rw [← Nat.mul_le_mul_right_iff otherPositive, place, Nat.mul_right_comm,
      Nat.mul_le_mul_right_iff positive]
  have high (bound : Nat) : numerator * quartersPerOne ≤ bound * denominator ↔
      otherNumerator * quartersPerOne ≤ bound * otherDenominator := by
    rw [← Nat.mul_le_mul_right_iff otherPositive, place, Nat.mul_right_comm bound,
      Nat.mul_le_mul_right_iff positive]
  simpa only [Rounding.Admits, ← Nat.not_le, low, high] using admits

/-- The bounds of a magnitude over one common scale: half a step above, and below half a step or,
at the foot of a binary place, a quarter. -/
theorem Magnitude.near_of_admits {magnitude : Magnitude}
    {numerator denominator units step : Nat} (some : 0 < magnitude.significand)
    (scaled : numerator * unitsPerOne = units) (scale : denominator * 2 ^ magnitude.shift = step)
    (admits : magnitude.rounding.Admits numerator denominator) :
    ∃ margin, (margin = if magnitude.significand = 2 ^ 52 ∧ 0 < magnitude.shift then 1 else 2) ∧
      4 * (magnitude.significand * step) ≤ 4 * units + margin * step ∧
      4 * units ≤ 4 * (magnitude.significand * step) + 2 * step ∧
      (magnitude.significand % 2 = 0 ∨
        4 * (magnitude.significand * step) < 4 * units + margin * step ∧
          4 * units < 4 * (magnitude.significand * step) + 2 * step) := by
  refine ⟨_, rfl, ?_⟩
  have place : numerator * quartersPerOne = 4 * units :=
    scaled ▸ Nat.mul_left_comm numerator 4 unitsPerOne
  have bounds := admits.le
  simp only [Rounding.Admits, Magnitude.rounding, Nat.pow_eq, decide_eq_true_eq] at admits bounds
  rw [place] at admits bounds
  generalize margins : (if magnitude.significand = 2 ^ 52 ∧ 0 < magnitude.shift then 1 else 2) =
    margin at admits bounds ⊢
  have small : margin ≤ 4 * magnitude.significand := by
    split at margins <;> omega
  have high : (4 * magnitude.significand + 2) * 2 ^ magnitude.shift * denominator =
      4 * (magnitude.significand * step) + 2 * step := by
    rw [← scale]
    ring
  have low :
      (4 * magnitude.significand - margin) * 2 ^ magnitude.shift * denominator + margin * step =
        4 * (magnitude.significand * step) := by
    rw [← scale, Nat.mul_assoc, Nat.mul_comm (2 ^ _), ← Nat.add_mul, Nat.sub_add_cancel small,
      Nat.mul_assoc]
  rw [high] at admits bounds
  refine ⟨by omega, bounds.2, ?_⟩
  split at admits
  · rename_i even
    exact .inl even
  · exact .inr ⟨by omega, admits.2⟩

theorem ofRatio_of_admits {number : Binary64} (negative : Bool) {numerator denominator : Nat}
    (finite : number.isFinite = true) (nonzero : number.magnitudeBits ≠ 0)
    (positive : 0 < denominator)
    (admits : number.magnitude.rounding.Admits numerator denominator) :
    ofRatio negative numerator denominator = ofBits negative number.magnitudeBits := by
  have fits := magnitude_fits finite nonzero
  have whole := magnitudeBits_eq number
  have bits : number.magnitudeBits < infinityBits := of_decide_eq_true finite
  generalize number.magnitudeBits = total at whole bits ⊢
  generalize number.magnitude = magnitude at fits whole admits
  obtain ⟨significand, shift⟩ := magnitude
  obtain ⟨some, below, full, -⟩ := fits
  generalize scaled : numerator * unitsPerOne = units
  generalize scale : denominator * 2 ^ shift = step
  obtain ⟨margin, margins, low, high, ends⟩ := Magnitude.near_of_admits some scaled scale admits
  simp only at some below full whole margins low high ends
  have steps : 0 < step := scale ▸ Nat.mul_pos positive (Nat.two_pow_pos shift)
  have fewer : significand * step + step ≤ 2 ^ 53 * step := by
    rw [← Nat.add_one_mul]
    exact Nat.mul_le_mul_right step below
  have unitsBelow : units < 2 ^ 53 * step := by omega
  by_cases carried : 0 < shift ∧ units < 2 ^ 52 * step
  · -- Only the foot of a place has numbers below it that round to it.
    obtain ⟨shifted, under⟩ := carried
    have foot : significand = 2 ^ 52 := by
      by_contra other
      have above : 2 ^ 52 + 1 ≤ significand := by omega
      have more := Nat.mul_le_mul_right step above
      rw [if_neg (fun both => other both.1)] at margins
      subst margins
      omega
    rw [if_pos ⟨foot, shifted⟩] at margins
    subst foot margins
    rw [← whole]
    exact ofRatio_eq_of_carry negative positive scaled scale shifted under (by omega)
      (whole ▸ Nat.le_of_lt bits)
  · have unitsFull : shift = 0 ∨ 2 ^ 52 * step ≤ units := by omega
    have rounded : roundedQuotient units step = significand := by
      have narrow : margin * step ≤ 2 * step :=
        Nat.mul_le_mul_right step (by split at margins <;> omega)
      apply roundedQuotient_eq steps
      · omega
      · omega
      · omega
    rw [← whole]
    exact ofRatio_eq_ofBits negative positive scaled scale unitsBelow unitsFull rounded
      (whole ▸ Nat.le_of_lt bits)

end PackageSearch.Binary64
