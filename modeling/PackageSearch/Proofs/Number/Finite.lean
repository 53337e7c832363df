import Mathlib
import PackageSearch.Json.Node

/-!
# Finite numbers

Rounding a ratio that is no larger than the largest double gives a finite double, so does every
division by a power of ten, and a product is only kept when it is finite. So the value of a number's
text is an integer that fits its 64 bits, or a double that is finite.
-/

set_option autoImplicit false

namespace PackageSearch

namespace Binary64

def largestShift : Nat := 2045

/-- The largest finite magnitude, in units. -/
def largestUnits : Nat := 2 ^ largestShift * (2 ^ 53 - 1)

theorem largestShift_eq : largestShift = 2045 := rfl

theorem largestUnits_eq : largestUnits = 2 ^ largestShift * (2 ^ 53 - 1) := rfl

/-- The binary places of a unit behind the point. -/
def unitPlaces : Nat := 1074

theorem unitPlaces_eq : unitPlaces = 1074 := rfl

-- Unfolded, the power would be computed wherever two of these numbers are compared.
attribute [irreducible] largestShift largestUnits unitPlaces

theorem unitsPerOne_eq : unitsPerOne = 2 ^ unitPlaces := by
  unfold unitsPerOne
  rw [← unitPlaces_eq, Nat.pow_eq]

theorem unitsPerOne_pos : 0 < unitsPerOne :=
  unitsPerOne_eq ▸ Nat.two_pow_pos unitPlaces

theorem magnitudeBits_ofBits (negative : Bool) {bits : Nat} (low : bits < signBit) :
    (ofBits negative bits).magnitudeBits = bits := by
  unfold ofBits magnitudeBits
  rw [UInt64.toNat_ofNat']
  unfold signBit at *
  cases negative
  · rw [if_neg (by decide)]
    omega
  · rw [if_pos rfl]
    omega

theorem roundedQuotient_le {numerator denominator bound : Nat} (positive : 0 < denominator)
    (bounded : numerator ≤ denominator * bound) :
    roundedQuotient numerator denominator ≤ bound := by
  have quotient : numerator / denominator ≤ bound := Nat.div_le_of_le_mul bounded
  have parts := Nat.div_add_mod numerator denominator
  simp only [roundedQuotient]
  split
  · rename_i up
    rcases Nat.lt_or_eq_of_le quotient with below | same
    · exact below
    · have exact : numerator % denominator = 0 := by
        rw [same] at parts
        omega
      rw [exact] at up
      omega
  · exact quotient

theorem quotient_le_roundedQuotient (numerator denominator : Nat) :
    numerator / denominator ≤ roundedQuotient numerator denominator := by
  simp only [roundedQuotient]
  split
  · exact Nat.le_succ _
  · exact Nat.le_refl _

/-- The number of binary places that rounding cuts off. -/
def cutPlaces (whole : Nat) : Nat :=
  if whole = 0 then 0 else whole.log2 + 1 - 53

theorem lt_cutPlaces (whole : Nat) : whole < 2 ^ cutPlaces whole * 2 ^ 53 := by
  unfold cutPlaces
  split
  · rename_i none
    rw [none]
    decide
  · calc whole < 2 ^ (whole.log2 + 1) := Nat.lt_log2_self
      _ ≤ 2 ^ (whole.log2 + 1 - 53 + 53) := Nat.pow_le_pow_right (by decide) (by omega)
      _ = 2 ^ (whole.log2 + 1 - 53) * 2 ^ 53 := Nat.pow_add 2 _ 53

theorem cutPlaces_le {whole : Nat} (bounded : whole ≤ largestUnits) :
    cutPlaces whole ≤ largestShift := by
  unfold cutPlaces
  split
  · exact Nat.zero_le _
  · rename_i some
    have small : whole < 2 ^ (largestShift + 53) := by
      calc whole ≤ 2 ^ largestShift * (2 ^ 53 - 1) := largestUnits_eq ▸ bounded
        _ < 2 ^ largestShift * 2 ^ 53 :=
          Nat.mul_lt_mul_of_pos_left (by decide) (Nat.two_pow_pos largestShift)
        _ = 2 ^ (largestShift + 53) := (Nat.pow_add 2 largestShift 53).symm
    have places := (Nat.log2_lt some).mpr small
    omega

/-- A ratio that is no larger than the largest double is rounded to a finite one. -/
theorem isFinite_ofRatio (negative : Bool) {numerator denominator : Nat}
    (positive : 0 < denominator)
    (bounded : numerator * unitsPerOne ≤ denominator * largestUnits) :
    (ofRatio negative numerator denominator).isFinite = true := by
  generalize scaled : numerator * unitsPerOne = units at bounded
  generalize cut : cutPlaces (units / denominator) = shift
  have place : shift ≤ largestShift := cut ▸ cutPlaces_le (Nat.div_le_of_le_mul bounded)
  have fits : units ≤ denominator * 2 ^ shift * 2 ^ 53 := by
    have below := lt_cutPlaces (units / denominator)
    rw [cut, Nat.div_lt_iff_lt_mul positive] at below
    rw [Nat.mul_assoc, Nat.mul_comm denominator]
    exact Nat.le_of_lt below
  have grid : 0 < denominator * 2 ^ shift := Nat.mul_pos positive (Nat.two_pow_pos shift)
  -- Only the last place is special: there the significand must not be rounded up to a power of two.
  have bits : shift * 2 ^ 52 + roundedQuotient units (denominator * 2 ^ shift) < infinityBits := by
    rcases Nat.lt_or_eq_of_le place with low | last
    · have rounded := roundedQuotient_le grid fits
      calc shift * 2 ^ 52 + roundedQuotient units (denominator * 2 ^ shift)
          ≤ (largestShift - 1) * 2 ^ 52 + 2 ^ 53 :=
            Nat.add_le_add (Nat.mul_le_mul_right _ (Nat.le_sub_one_of_lt low)) rounded
        _ < infinityBits := by rw [largestShift_eq]; decide
    · have rounded : roundedQuotient units (denominator * 2 ^ shift) ≤ 2 ^ 53 - 1 := by
        apply roundedQuotient_le grid
        rw [largestUnits_eq, ← Nat.mul_assoc, ← last] at bounded
        exact bounded
      calc shift * 2 ^ 52 + roundedQuotient units (denominator * 2 ^ shift)
          ≤ largestShift * 2 ^ 52 + (2 ^ 53 - 1) :=
            Nat.add_le_add (Nat.mul_le_mul_right _ place) rounded
        _ < infinityBits := by rw [largestShift_eq]; decide
  have value : ofRatio negative numerator denominator = ofBits negative
      (shift * 2 ^ 52 + roundedQuotient units (denominator * 2 ^ shift)) := by
    rw [← Nat.min_eq_right (Nat.le_of_lt bits), ← cut, ← scaled]
    rfl
  rw [value, isFinite, magnitudeBits_ofBits negative (Nat.lt_trans bits (by decide))]
  exact decide_eq_true bits

theorem units_le_of_isFinite {number : Binary64} (finite : number.isFinite = true) :
    number.magnitude.units ≤ largestUnits := by
  have bits : number.magnitudeBits < 2047 * 2 ^ 52 := of_decide_eq_true finite
  have fraction : number.magnitudeBits % 2 ^ 52 < 2 ^ 52 := Nat.mod_lt _ (by decide)
  have within {significand shift : Nat} (significandBound : significand ≤ 2 ^ 53 - 1)
      (shiftBound : shift ≤ largestShift) : significand * 2 ^ shift ≤ largestUnits := by
    rw [Nat.mul_comm, largestUnits_eq]
    exact Nat.mul_le_mul (Nat.pow_le_pow_right (by decide) shiftBound) significandBound
  simp only [magnitude, Nat.pow_eq]
  split
  · exact within (Nat.le_of_lt_succ (Nat.lt_trans fraction (by decide))) (Nat.zero_le _)
  · refine within (Nat.le_of_lt_succ ?_) ?_
    · simp only
      omega
    · rw [largestShift_eq]
      simp only
      omega

theorem isFinite_dividedBy {left right : Binary64} (finite : left.isFinite = true)
    (large : unitsPerOne ≤ right.magnitude.units) : (left.dividedBy right).isFinite = true := by
  apply isFinite_ofRatio false
  · exact Nat.lt_of_lt_of_le unitsPerOne_pos large
  · rw [Nat.mul_comm]
    exact Nat.mul_le_mul large (units_le_of_isFinite finite)

theorem isFinite_negated {number : Binary64} (finite : number.isFinite = true) :
    number.negated.isFinite = true := by
  have same : number.negated.magnitudeBits = number.magnitudeBits := by
    have sign : (UInt64.ofNat signBit).toNat = 2 ^ 63 := by decide
    simp only [negated, magnitudeBits]
    rw [UInt64.toNat_xor, sign, show signBit = 2 ^ 63 from rfl, Nat.xor_mod_two_pow,
      Nat.mod_self, Nat.xor_zero]
  rw [isFinite, same]
  exact finite

theorem isFinite_ofBits_zero (negative : Bool) : (ofBits negative 0).isFinite = true := by
  cases negative <;> decide

theorem isFinite_ofRatio_one (negative : Bool) {value : Nat} (small : value ≤ 2 ^ 64) :
    (ofRatio negative value 1).isFinite = true := by
  apply isFinite_ofRatio _ Nat.one_pos
  calc value * unitsPerOne ≤ 2 ^ 64 * unitsPerOne := Nat.mul_le_mul_right _ small
    _ ≤ 1 * largestUnits := by decide +kernel

/-- A number from one on has at least the exponent of one. -/
theorem exponent_ofNat {value : Nat} (positive : 0 < value) :
    1023 ≤ (ofNat value).magnitudeBits / 2 ^ 52 := by
  have large : 2 ^ unitPlaces ≤ value * unitsPerOne :=
    unitsPerOne_eq ▸ Nat.le_mul_of_pos_left unitsPerOne positive
  have nonzero : value * unitsPerOne ≠ 0 :=
    Nat.ne_of_gt (Nat.mul_pos positive unitsPerOne_pos)
  have places : 1074 ≤ (value * unitsPerOne).log2 :=
    unitPlaces_eq ▸ (Nat.le_log2 nonzero).mpr large
  have rounded : ofNat value = ofBits false (min infinityBits
      (cutPlaces (value * unitsPerOne) * 2 ^ 52 +
        roundedQuotient (value * unitsPerOne) (1 * 2 ^ cutPlaces (value * unitsPerOne)))) := by
    rw [ofNat, ofRatio, Nat.div_one]
    rfl
  generalize value * unitsPerOne = units at nonzero places rounded
  have cut : cutPlaces units = units.log2 + 1 - 53 := if_neg nonzero
  have significand : 2 ^ 52 ≤ roundedQuotient units (1 * 2 ^ cutPlaces units) := by
    refine Nat.le_trans ?_ (quotient_le_roundedQuotient _ _)
    rw [Nat.one_mul, Nat.le_div_iff_mul_le (Nat.two_pow_pos _), ← Nat.pow_add]
    calc 2 ^ (52 + cutPlaces units)
        ≤ 2 ^ units.log2 := Nat.pow_le_pow_right (by decide) (by omega)
      _ ≤ units := Nat.log2_self_le nonzero
  rw [rounded, magnitudeBits_ofBits false (Nat.lt_of_le_of_lt (Nat.min_le_left _ _) (by decide)),
    Nat.le_div_iff_mul_le (by decide)]
  refine Nat.le_min.mpr ⟨by decide, ?_⟩
  omega

theorem unitsPerOne_le_ofNat {value : Nat} (positive : 0 < value) :
    unitsPerOne ≤ (ofNat value).magnitude.units := by
  have exponent := exponent_ofNat positive
  generalize ofNat value = number at exponent
  have normal : ¬ number.magnitudeBits / Nat.pow 2 52 = 0 := by
    rw [Nat.pow_eq]
    omega
  simp only [magnitude, normal, if_false, Magnitude.units, Nat.pow_eq]
  calc unitsPerOne = 2 ^ 52 * 2 ^ (unitPlaces - 52) := by
        rw [unitsPerOne_eq, ← Nat.pow_add, unitPlaces_eq]
    _ ≤ (2 ^ 52 + number.magnitudeBits % 2 ^ 52) *
        2 ^ (number.magnitudeBits / 2 ^ 52 - 1) := by
      apply Nat.mul_le_mul (Nat.le_add_right _ _)
      apply Nat.pow_le_pow_right (by decide)
      rw [unitPlaces_eq]
      omega

theorem unitsPerOne_le_powerOfTen (exponent : Nat) :
    unitsPerOne ≤ (powerOfTen exponent).magnitude.units :=
  unitsPerOne_le_ofNat (Nat.pow_pos (by decide))

end Binary64

namespace Json

open Binary64

/-- An integer of 64 bits, with or without sign, or a finite double. -/
def Number.InRange : Number → Prop
  | .integer value => -2 ^ 63 ≤ value ∧ value < 2 ^ 64
  | .real value => value.isFinite = true

theorem Number.InRange.toReal {number : Number} (inRange : number.InRange) :
    number.toReal.isFinite = true := by
  cases number with
  | integer value =>
      obtain ⟨low, high⟩ := inRange
      exact isFinite_ofRatio_one _ (by omega)
  | real value => exact inRange

theorem isFinite_scaleByTen {fuel : Nat} {value scaled : Binary64} {exponent : Int}
    (finite : value.isFinite = true) (result : scaleByTen fuel value exponent = .ok scaled) :
    scaled.isFinite = true := by
  induction fuel generalizing value exponent with
  | zero =>
      cases result
      exact finite
  | succ fuel ih =>
      rw [scaleByTen] at result
      split at result
      · rename_i near
        split at result
        · simp only at result
          split at result
          · rename_i kept
            rw [← Except.ok.inj result]
            exact kept
          · cases result
        · rw [← Except.ok.inj result]
          exact isFinite_dividedBy finite (unitsPerOne_le_powerOfTen _)
      · split at result
        · cases result
          exact finite
        · split at result
          · cases result
          · exact ih (isFinite_dividedBy finite (unitsPerOne_le_powerOfTen _)) result

theorem significandOf_le (digits : Bytes) {value : Nat} (bounded : value ≤ maxUnsigned) :
    (significandOf value digits).1 ≤ maxUnsigned := by
  induction digits generalizing value with
  | nil => exact bounded
  | cons digit rest ih =>
      simp only [significandOf]
      split
      · rename_i next
        exact ih next
      · exact bounded

theorem realOf_inRange {negative : Bool} {significand : Nat} {exponent : Int} {number : Number}
    (small : significand ≤ maxUnsigned)
    (result : realOf negative significand exponent = .ok number) : number.InRange := by
  have bound : maxUnsigned ≤ 2 ^ 64 := by decide
  unfold realOf at result
  cases scaling : scaleByTen (exponent.natAbs / 308 + 1) (Binary64.ofNat significand) exponent with
  | error fault =>
      rw [scaling] at result
      cases result
  | ok value =>
      rw [scaling] at result
      cases result
      have finite := isFinite_scaleByTen
        (isFinite_ofRatio_one false (Nat.le_trans small bound)) scaling
      cases negative
      · exact finite
      · exact isFinite_negated finite

/-- What the text of a number denotes fits its type. -/
theorem Numeral.value_inRange {numeral : Numeral} {number : Number}
    (result : numeral.value = .ok number) : number.InRange := by
  have whole := significandOf_le numeral.whole (Nat.zero_le maxUnsigned)
  simp only [Numeral.value] at result
  generalize significandOf 0 numeral.whole = counted at result whole
  obtain ⟨significand, beyond⟩ := counted
  have bound : maxUnsigned < 2 ^ 64 := by decide
  split at result
  · rename_i plain
    obtain ⟨-, -, -, signed⟩ := plain
    cases result
    have limit : Nat.pow 2 63 = 2 ^ 63 := rfl
    simp only [Number.InRange]
    rw [limit] at signed
    split
    · rename_i negative
      rw [negative] at signed
      rcases signed with positive | ⟨-, small⟩
      · cases positive
      · omega
    · omega
  · have fraction := significandOf_le numeral.fraction whole
    generalize significandOf significand numeral.fraction = counted at result fraction
    obtain ⟨significand, unused⟩ := counted
    cases exponent : numeral.exponent with
    | none =>
        rw [exponent] at result
        exact realOf_inRange fraction result
    | some power =>
        obtain ⟨negative, digits⟩ := power
        rw [exponent] at result
        simp only at result
        split at result
        · split at result
          · rw [← Except.ok.inj result]
            exact isFinite_ofBits_zero _
          · cases result
        · exact realOf_inRange fraction result

end Json

end PackageSearch
