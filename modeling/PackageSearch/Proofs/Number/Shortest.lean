import Mathlib
import PackageSearch.Number.Numeral
import PackageSearch.Proofs.Number.Rounding

/-!
# The shortest decimal of a double

Of a finite double other than zero the shortest digits denote a decimal that its bounds admit:
eighteen digits are always enough, since a grid that is finer than half the distance of two doubles
has a point between the bounds. A decimal within the bounds is read as the double.
-/

set_option autoImplicit false

namespace PackageSearch

/-! ## Digits -/

theorem numeralValue_append (digits others : List Char) :
    numeralValue (digits ++ others) =
      10 ^ others.length * numeralValue digits + numeralValue others := by
  calc numeralValue (digits ++ others)
      = Nat.ofDigitChars 10 others (numeralValue digits) := Nat.ofDigitChars_append 0
    _ = 10 ^ others.length * numeralValue digits + numeralValue others :=
      Nat.ofDigitChars_eq_ofDigitChars_zero

theorem numeralValue_replicate_zero (count : Nat) : numeralValue (List.replicate count '0') = 0 :=
  Nat.ofDigitChars_replicate_zero

theorem numeralValue_toDigits (value : Nat) : numeralValue (Nat.toDigits 10 value) = value :=
  Nat.ofDigitChars_ten_toDigits

theorem isDigit_toDigits (value : Nat) : ∀ digit ∈ Nat.toDigits 10 value, digit.isDigit = true := by
  intro digit member
  exact Nat.isDigit_of_mem_toDigits (by decide) (by decide) member

namespace Binary64

theorem digitCount_pos (value : Nat) : 0 < digitCount value :=
  Nat.length_toDigits_pos

theorem lt_pow_digitCount (value : Nat) : value < 10 ^ digitCount value :=
  (Nat.length_toDigits_le_iff (by decide) (digitCount_pos value)).mp (Nat.le_refl _)

theorem pow_digitCount_le {value : Nat} (positive : 0 < value) :
    10 ^ (digitCount value - 1) ≤ value := by
  rcases Nat.eq_zero_or_pos (digitCount value - 1) with one | more
  · rw [one]
    exact positive
  · by_contra smaller
    have fewer := (Nat.length_toDigits_le_iff (by decide) more).mpr (Nat.lt_of_not_le smaller)
    have some := digitCount_pos value
    unfold digitCount at *
    omega

/-! ## Powers of ten with sign -/

/-- What a power of ten puts on the numerator of a ratio; `tenBelow` is what it puts below. -/
def tenAbove (exponent : Int) : Nat := 10 ^ exponent.toNat

def tenBelow (exponent : Int) : Nat := 10 ^ (-exponent).toNat

theorem tenAbove_eq (exponent : Int) :
    (if exponent < 0 then 1 else Nat.pow 10 exponent.natAbs) = tenAbove exponent := by
  unfold tenAbove
  split
  · rw [show exponent.toNat = 0 by omega, Nat.pow_zero]
  · rw [show exponent.natAbs = exponent.toNat by omega, Nat.pow_eq]

theorem tenBelow_eq (exponent : Int) :
    (if exponent < 0 then Nat.pow 10 exponent.natAbs else 1) = tenBelow exponent := by
  unfold tenBelow
  split
  · rw [show exponent.natAbs = (-exponent).toNat by omega, Nat.pow_eq]
  · rw [show (-exponent).toNat = 0 by omega, Nat.pow_zero]

theorem tenAbove_pos (exponent : Int) : 0 < tenAbove exponent := Nat.pow_pos (by decide)

theorem tenBelow_pos (exponent : Int) : 0 < tenBelow exponent := Nat.pow_pos (by decide)

theorem pow_mul_tenAbove_le_iff {left right : Nat} {exponent : Int} :
    10 ^ left * tenAbove exponent ≤ 10 ^ right * tenBelow exponent ↔
      (left : Int) + exponent ≤ right := by
  unfold tenAbove tenBelow
  rw [← Nat.pow_add, ← Nat.pow_add, Nat.pow_le_pow_iff_right (by decide)]
  omega

theorem pow_mul_tenBelow_lt_iff {left right : Nat} {exponent : Int} :
    10 ^ left * tenBelow exponent < 10 ^ right * tenAbove exponent ↔
      (left : Int) < right + exponent := by
  rw [← Nat.not_le, pow_mul_tenAbove_le_iff]
  omega

theorem tenAbove_add (exponent : Int) (places : Nat) :
    tenAbove (exponent + places) * tenBelow exponent =
      10 ^ places * tenAbove exponent * tenBelow (exponent + places) := by
  unfold tenAbove tenBelow
  rw [← Nat.pow_add, ← Nat.pow_add, ← Nat.pow_add]
  congr 1
  omega

/-! ## Decimals within the bounds -/

/-- The decimal `digits * 10 ^ exponent` is admitted. -/
def Rounding.AdmitsDecimal (rounding : Rounding) (digits : Nat) (exponent : Int) : Prop :=
  rounding.Admits (digits * tenAbove exponent) (tenBelow exponent)

theorem Rounding.AdmitsDecimal.of_mul_pow {rounding : Rounding} {digits places : Nat}
    {exponent : Int}
    (admits : rounding.AdmitsDecimal (digits * 10 ^ places) exponent) :
    rounding.AdmitsDecimal digits (exponent + places) := by
  refine admits.of_ratio_eq (tenBelow_pos _) (tenBelow_pos _) ?_
  rw [Nat.mul_assoc digits (tenAbove _), tenAbove_add]
  ring

theorem Rounding.AdmitsDecimal.mul_pow {rounding : Rounding} {digits places : Nat} {exponent : Int}
    (admits : rounding.AdmitsDecimal digits (exponent + places)) :
    rounding.AdmitsDecimal (digits * 10 ^ places) exponent := by
  refine admits.of_ratio_eq (tenBelow_pos _) (tenBelow_pos _) ?_
  rw [Nat.mul_assoc digits, tenAbove_add]
  ring

theorem Rounding.holds_iff {rounding : Rounding} {point : Nat} {exponent : Int} :
    rounding.holds point exponent = true ↔ rounding.AdmitsDecimal point exponent := by
  simp only [Rounding.holds, tenAbove_eq, tenBelow_eq, Rounding.AdmitsDecimal, Rounding.Admits]
  split <;> simp only [decide_eq_true_eq]

theorem Rounding.admitsDecimal_of_onGrid? {rounding : Rounding} {point : Nat} {exponent : Int}
    (found : rounding.onGrid? exponent = some point) : rounding.AdmitsDecimal point exponent := by
  simp only [Rounding.onGrid?] at found
  generalize rounding.value * _ / _ = below at found
  rw [← Rounding.holds_iff]
  split at found
  · rename_i lower upper
    rw [← Option.some.inj found]
    split
    · exact lower
    · exact upper
  · rename_i lower upper
    exact Option.some.inj found ▸ lower
  · rename_i lower upper
    exact Option.some.inj found ▸ upper
  · cases found

/-! ## The search through the grids -/

theorem quartersPerOne_pos : 0 < quartersPerOne :=
  Nat.mul_pos (by decide) unitsPerOne_pos

/-- The grid has a point within the bounds if its distance is less than that to the upper bound. -/
theorem Rounding.exists_onGrid? {rounding : Rounding} {exponent : Int}
    (low : rounding.low ≤ rounding.value)
    (fine : rounding.value * tenBelow exponent + tenAbove exponent * quartersPerOne <
      rounding.high * tenBelow exponent) :
    ∃ point, rounding.onGrid? exponent = some point := by
  simp only [Rounding.onGrid?, tenAbove_eq, tenBelow_eq]
  generalize place : rounding.value * tenBelow exponent = value at fine ⊢
  generalize distance : tenAbove exponent * quartersPerOne = grid at fine ⊢
  have positive : 0 < grid := distance ▸ Nat.mul_pos (tenAbove_pos _) quartersPerOne_pos
  -- The point above the value may be taken, whether or not the one below is nearer.
  have above : rounding.holds (value / grid + 1) exponent = true := by
    have parts := Nat.div_add_mod value grid
    have rest := Nat.mod_lt value positive
    have next : (value / grid + 1) * tenAbove exponent * quartersPerOne =
        grid * (value / grid) + grid := by
      rw [Nat.mul_assoc, distance, Nat.add_one_mul, Nat.mul_comm]
    refine Rounding.holds_iff.mpr (Rounding.Admits.of_lt ?_ ?_)
    · rw [next]
      have lower := Nat.mul_le_mul_right (tenBelow exponent) low
      omega
    · rw [next]
      omega
  rw [above]
  cases rounding.holds (value / grid) exponent
  · exact ⟨_, rfl⟩
  · exact ⟨_, rfl⟩

theorem Rounding.admitsDecimal_search {rounding : Rounding} {fuel places : Nat} {exponent : Int}
    (enough : places < fuel) (found : ∃ point, rounding.onGrid? (exponent - places) = some point) :
    rounding.AdmitsDecimal (rounding.search fuel exponent).1 (rounding.search fuel exponent).2 := by
  induction fuel generalizing places exponent with
  | zero => cases enough
  | succ fuel ih =>
      unfold Rounding.search
      cases here : rounding.onGrid? exponent with
      | some point => exact Rounding.admitsDecimal_of_onGrid? here
      | none =>
          cases places with
          | zero =>
              obtain ⟨point, found⟩ := found
              rw [show exponent - ((0 : Nat) : Int) = exponent by omega, here] at found
              cases found
          | succ places =>
              apply ih (Nat.lt_of_succ_lt_succ enough)
              rw [show exponent - 1 - (places : Int) =
                exponent - ((places + 1 : Nat) : Int) by omega]
              exact found

theorem le_leadingZeros {numerator denominator fuel count : Nat}
    (reach : denominator ≤ numerator * 10 ^ (count + fuel)) :
    denominator ≤ numerator * 10 ^ leadingZeros numerator denominator fuel count := by
  induction fuel generalizing count with
  | zero => exact reach
  | succ fuel ih =>
      rw [leadingZeros]
      split
      · rename_i here
        exact here
      · exact ih (by rw [Nat.add_right_comm]; exact reach)

theorem firstExponent_le {numerator denominator : Nat} (positive : 0 < denominator)
    (reach : denominator ≤ numerator * 10 ^ (1 + 400)) :
    tenAbove (firstExponent numerator denominator) * denominator ≤
      numerator * tenBelow (firstExponent numerator denominator) := by
  unfold firstExponent
  split
  · rename_i large
    have quotient : 0 < numerator / denominator := Nat.div_pos large positive
    have some := digitCount_pos (numerator / denominator)
    unfold tenAbove tenBelow
    rw [show ((digitCount (numerator / denominator) : Int) - 1).toNat =
        digitCount (numerator / denominator) - 1 by omega,
      show (-((digitCount (numerator / denominator) : Int) - 1)).toNat = 0 by omega,
      Nat.pow_zero, Nat.mul_one]
    calc 10 ^ (digitCount (numerator / denominator) - 1) * denominator
        ≤ numerator / denominator * denominator :=
          Nat.mul_le_mul_right _ (pow_digitCount_le quotient)
      _ ≤ numerator := Nat.div_mul_le_self _ _
  · unfold tenAbove tenBelow
    rw [Int.toNat_neg_natCast, Int.neg_neg, Int.toNat_natCast, Nat.pow_zero, Nat.one_mul]
    exact le_leadingZeros reach

/-! ## The shortest digits -/

/-- Seventeen places behind the first digit of the value the grid is fine enough. -/
theorem Magnitude.fine_grid {magnitude : Magnitude} (fits : magnitude.Fits) {exponent : Int}
    (first : tenAbove (exponent + (17 : Nat)) * quartersPerOne ≤
      magnitude.rounding.value * tenBelow (exponent + (17 : Nat))) :
    magnitude.rounding.value * tenBelow exponent + tenAbove exponent * quartersPerOne <
      magnitude.rounding.high * tenBelow exponent := by
  have exchange := tenAbove_add exponent 17
  have below := tenBelow_pos (exponent + (17 : Nat))
  simp only [Magnitude.rounding, Nat.pow_eq] at first ⊢
  have scale : 0 < 2 ^ magnitude.shift * tenBelow exponent :=
    Nat.mul_pos (Nat.two_pow_pos _) (tenBelow_pos _)
  generalize tenBelow (exponent + (17 : Nat)) = under at first exchange below
  have dense : 10 ^ 17 * (tenAbove exponent * quartersPerOne) ≤
      4 * magnitude.significand * (2 ^ magnitude.shift * tenBelow exponent) := by
    refine Nat.le_of_mul_le_mul_right ?_ below
    calc 10 ^ 17 * (tenAbove exponent * quartersPerOne) * under
        = 10 ^ 17 * tenAbove exponent * under * quartersPerOne := by ring
      _ = tenAbove (exponent + (17 : Nat)) * quartersPerOne * tenBelow exponent := by
          rw [← exchange]
          ring
      _ ≤ 4 * magnitude.significand * 2 ^ magnitude.shift * under * tenBelow exponent :=
          Nat.mul_le_mul_right _ first
      _ = 4 * magnitude.significand * (2 ^ magnitude.shift * tenBelow exponent) * under := by ring
  -- A significand is below `2 ^ 53`, and twice that is below `10 ^ 17`.
  have narrow :
      tenAbove exponent * quartersPerOne < 2 * (2 ^ magnitude.shift * tenBelow exponent) := by
    have digits := Nat.mul_le_mul_right (2 ^ magnitude.shift * tenBelow exponent) fits.below
    rw [Nat.mul_assoc] at dense
    rw [Nat.succ_mul] at digits
    generalize 2 ^ magnitude.shift * tenBelow exponent = step at *
    omega
  calc 4 * magnitude.significand * 2 ^ magnitude.shift * tenBelow exponent +
        tenAbove exponent * quartersPerOne
      < 4 * magnitude.significand * 2 ^ magnitude.shift * tenBelow exponent +
        2 * (2 ^ magnitude.shift * tenBelow exponent) := Nat.add_lt_add_left narrow _
    _ = (4 * magnitude.significand + 2) * 2 ^ magnitude.shift * tenBelow exponent := by ring

theorem quartersPerOne_le : quartersPerOne ≤ 10 ^ (1 + 400) := by
  decide +kernel

theorem Magnitude.admitsDecimal_search {magnitude : Magnitude} (fits : magnitude.Fits) :
    magnitude.rounding.AdmitsDecimal
      (magnitude.rounding.search 18 (firstExponent magnitude.rounding.value quartersPerOne)).1
      (magnitude.rounding.search 18 (firstExponent magnitude.rounding.value quartersPerOne)).2 := by
  have positive : 0 < magnitude.rounding.value :=
    Nat.mul_pos (Nat.mul_pos (by decide) fits.positive) (Nat.two_pow_pos _)
  have first := firstExponent_le quartersPerOne_pos
    (Nat.le_trans quartersPerOne_le (Nat.le_mul_of_pos_left _ positive))
  generalize firstExponent magnitude.rounding.value quartersPerOne = exponent at first ⊢
  apply Rounding.admitsDecimal_search (show 17 < 18 by decide)
  apply Rounding.exists_onGrid?
  · exact Nat.mul_le_mul_right _ (Nat.sub_le _ _)
  · apply Magnitude.fine_grid fits
    rw [Int.sub_add_cancel]
    exact first

theorem exists_zeros (digits : List Char) :
    ∃ zeros, digits =
      (digits.reverse.dropWhile (· == '0')).reverse ++ List.replicate zeros '0' := by
  refine ⟨(digits.reverse.takeWhile (· == '0')).length, ?_⟩
  have zeros : digits.reverse.takeWhile (· == '0') =
      List.replicate (digits.reverse.takeWhile (· == '0')).length '0' :=
    List.eq_replicate_of_mem fun digit member => by simpa using List.mem_takeWhile_imp member
  rw [← List.reverse_replicate, ← zeros, ← List.reverse_append, List.takeWhile_append_dropWhile,
    List.reverse_reverse]

theorem admitsDecimal_shortest {number : Binary64} (finite : number.isFinite = true)
    (nonzero : number.magnitudeBits ≠ 0) :
    number.magnitude.rounding.AdmitsDecimal (numeralValue number.shortest.digits)
      (number.shortest.exponent + 1 - number.shortest.digits.length) := by
  have found := Magnitude.admitsDecimal_search (magnitude_fits finite nonzero)
  simp only [shortest]
  generalize number.magnitude.rounding.search 18 _ = decimal at found ⊢
  obtain ⟨point, exponent⟩ := decimal
  simp only at found ⊢
  have value := numeralValue_toDigits point
  generalize Nat.toDigits 10 point = digits at value ⊢
  obtain ⟨zeros, trimmed⟩ := exists_zeros digits
  generalize (digits.reverse.dropWhile (· == '0')).reverse = short at trimmed ⊢
  rw [← value, trimmed, numeralValue_append, numeralValue_replicate_zero, List.length_replicate,
    Nat.add_zero, Nat.mul_comm] at found
  have place : exponent + (digits.length : Int) - 1 + 1 - short.length = exponent + zeros := by
    rw [trimmed, List.length_append, List.length_replicate]
    omega
  rw [place]
  exact found.of_mul_pow

/-! ## Reading a decimal within the bounds -/

theorem Magnitude.low_pos {magnitude : Magnitude} (fits : magnitude.Fits) :
    0 < magnitude.rounding.low := by
  have some := fits.positive
  refine Nat.mul_pos ?_ (Nat.two_pow_pos _)
  split <;> omega

theorem Magnitude.high_le {magnitude : Magnitude} (fits : magnitude.Fits) :
    magnitude.rounding.high ≤ 10 ^ 309 * quartersPerOne := by
  have below := fits.below
  calc (4 * magnitude.significand + 2) * 2 ^ magnitude.shift
      ≤ 4 * 2 ^ 53 * 2 ^ largestShift :=
        Nat.mul_le_mul (by omega) (Nat.pow_le_pow_right (by decide) fits.reach)
    _ ≤ 10 ^ 309 * quartersPerOne := by
        rw [largestShift_eq]
        decide +kernel

theorem reach_of_admitsDecimal {magnitude : Magnitude} (fits : magnitude.Fits) {digits : Nat}
    {exponent : Int} (admits : magnitude.rounding.AdmitsDecimal digits exponent) :
    0 < digits ∧ -324 < (digitCount digits : Int) + exponent ∧
      (digitCount digits : Int) + exponent ≤ 310 := by
  obtain ⟨low, high⟩ := Rounding.Admits.le admits
  have lowest : tenBelow exponent ≤ digits * tenAbove exponent * quartersPerOne :=
    Nat.le_trans (Nat.le_mul_of_pos_left _ (Magnitude.low_pos fits)) low
  have some : 0 < digits := by
    rcases Nat.eq_zero_or_pos digits with rfl | some
    · rw [Nat.zero_mul, Nat.zero_mul] at lowest
      exact absurd (tenBelow_pos exponent) (Nat.not_lt.mpr lowest)
    · exact some
  refine ⟨some, ?_, ?_⟩
  · have units : quartersPerOne ≤ 10 ^ 324 := by decide +kernel
    have below : 10 ^ 0 * tenBelow exponent <
        10 ^ (digitCount digits + 324) * tenAbove exponent := by
      calc 10 ^ 0 * tenBelow exponent
          ≤ digits * tenAbove exponent * quartersPerOne := by
            rw [Nat.pow_zero, Nat.one_mul]
            exact lowest
        _ < 10 ^ digitCount digits * tenAbove exponent * quartersPerOne :=
            Nat.mul_lt_mul_of_pos_right
              (Nat.mul_lt_mul_of_pos_right (lt_pow_digitCount digits) (tenAbove_pos _))
              quartersPerOne_pos
        _ ≤ 10 ^ digitCount digits * tenAbove exponent * 10 ^ 324 := Nat.mul_le_mul_left _ units
        _ = 10 ^ (digitCount digits + 324) * tenAbove exponent := by
            rw [Nat.pow_add, Nat.mul_right_comm]
    have places := pow_mul_tenBelow_lt_iff.mp below
    omega
  · have above : 10 ^ (digitCount digits - 1) * tenAbove exponent ≤
        10 ^ 309 * tenBelow exponent := by
      refine Nat.le_of_mul_le_mul_right ?_ quartersPerOne_pos
      calc 10 ^ (digitCount digits - 1) * tenAbove exponent * quartersPerOne
          ≤ digits * tenAbove exponent * quartersPerOne :=
            Nat.mul_le_mul_right _ (Nat.mul_le_mul_right _ (pow_digitCount_le some))
        _ ≤ magnitude.rounding.high * tenBelow exponent := high
        _ ≤ 10 ^ 309 * quartersPerOne * tenBelow exponent :=
            Nat.mul_le_mul_right _ (Magnitude.high_le fits)
        _ = 10 ^ 309 * tenBelow exponent * quartersPerOne := Nat.mul_right_comm _ _ _
    have places := pow_mul_tenAbove_le_iff.mp above
    have counted := digitCount_pos digits
    omega

theorem ofDecimal_of_admits {number : Binary64} (negative : Bool) {digits : Nat} {exponent : Int}
    (finite : number.isFinite = true) (nonzero : number.magnitudeBits ≠ 0)
    (admits : number.magnitude.rounding.AdmitsDecimal digits exponent) :
    ofDecimal negative digits exponent = ofBits negative number.magnitudeBits := by
  obtain ⟨some, least, most⟩ := reach_of_admitsDecimal (magnitude_fits finite nonzero) admits
  -- So it is neither taken for zero nor for an infinity before its ratio is computed.
  have ratio : ofDecimal negative digits exponent =
      ofRatio negative (digits * tenAbove exponent) (tenBelow exponent) := by
    simp only [ofDecimal]
    rw [if_neg (by omega), if_neg (by omega), ← tenAbove_eq, ← tenBelow_eq]
    split
    · rw [Nat.mul_one]
    · rfl
  rw [ratio]
  exact ofRatio_of_admits negative finite nonzero (tenBelow_pos _) admits

end Binary64

end PackageSearch
