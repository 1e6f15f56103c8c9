import Invoicing.Proofs.Decimal.Exact
import Mathlib.Data.Sign.Defs

/-!
# The hundredth part, and rounding it

The hundredth part of a decimal needs up to two places more, and there may be more than fit.  Then
it is rounded to the last place that does, a half to the even neighbour
(`Decimal.exists_value_percent`).  Whoever rounds it again, rounds twice.  How many places are
written in the end is another matter, and none of the value (`Decimal.value_percent`).

Main statement: `Decimal.nearest_of_isNearestEven`.  A number that is rounded to 26 places first and
to a whole number after that ends at its nearest whole number, unless it is short of a half by at
most half a unit of the last of those places.  Then the first rounding takes it onto the half, and
the second one away from zero.

## Strategy

Above zero, both roundings are described by the numbers that they reach (`k ≤ …`), and not by
their errors.  The halves are even multiples of the last place, and an even number is reached by
rounding to the nearest one exactly from half a unit below it on
(`Decimal.IsNearestEven.even_le_iff`).  So rounding twice is rounding with a lower threshold.
-/

namespace Invoicing

/-! ## Rounding a half to the even neighbour -/

/-- A quotient half-way between two whole numbers is rounded to the even one. -/
theorem even_roundDiv_toEven {numerator denominator : ℕ} (hpos : 0 < denominator)
    (htie : 2 * numerator + denominator =
        2 * (denominator * roundDiv .toEven numerator denominator) ∨
      2 * numerator = 2 * (denominator * roundDiv .toEven numerator denominator) + denominator) :
    Even (roundDiv .toEven numerator denominator) := by
  have hdiv := Nat.div_add_mod numerator denominator
  have hmod := Nat.mod_lt numerator hpos
  have hstep : denominator * (numerator / denominator + 1) =
      denominator * (numerator / denominator) + denominator := Nat.mul_succ _ _
  unfold roundDiv at htie ⊢
  simp only at htie ⊢
  split at htie
  · omega
  · split at htie
    · rw [hstep] at htie
      omega
    · rw [if_neg (by assumption), if_neg (by assumption), Nat.even_iff]
      omega

namespace Decimal

/-- A whole number next to a number, and the even one of two that are as near. -/
structure IsNearestEven (whole : ℤ) (number : ℚ) : Prop where
  /-- It is half a unit away at most. -/
  abs_sub_le : |number - whole| ≤ 1 / 2
  /-- It is even if it is half a unit away. -/
  even : |number - whole| = 1 / 2 → Even whole

theorem isNearestEven_intCast (whole : ℤ) : IsNearestEven whole whole where
  abs_sub_le := by norm_num
  even := by norm_num

section IsNearestEven

variable {whole threshold : ℤ} {number : ℚ}

theorem IsNearestEven.neg (h : IsNearestEven whole number) : IsNearestEven (-whole) (-number) := by
  have hdistance : |(-number) - (-whole : ℤ)| = |number - whole| := by
    push_cast
    rw [neg_sub_neg, abs_sub_comm]
  exact ⟨hdistance ▸ h.abs_sub_le, fun htie => (h.even (hdistance ▸ htie)).neg⟩

/-- An even number is reached from half a unit below it on. -/
theorem IsNearestEven.even_le_iff (h : IsNearestEven whole number) (heven : Even threshold) :
    threshold ≤ whole ↔ (threshold : ℚ) ≤ number + 1 / 2 := by
  obtain ⟨hlow, hhigh⟩ := abs_le.mp h.abs_sub_le
  constructor
  · intro hle
    have hcast : (threshold : ℚ) ≤ whole := by exact_mod_cast hle
    linarith
  · intro hreached
    by_contra hbelow
    have hcast : (whole : ℚ) + 1 ≤ threshold := by exact_mod_cast not_le.mp hbelow
    -- then the number is half-way between two neighbours, of which the threshold is the even one
    have htie : number - whole = 1 / 2 := by linarith
    have hnext : threshold = whole + 1 := by
      have : (threshold : ℚ) = whole + 1 := by linarith
      exact_mod_cast this
    have hwhole : Even whole := h.even (by rw [htie]; norm_num)
    rw [hnext, Int.even_add_one] at heven
    exact heven hwhole

end IsNearestEven

theorem isNearestEven_roundDiv (numerator : ℕ) {denominator : ℕ} (hpos : 0 < denominator) :
    IsNearestEven (roundDiv .toEven numerator denominator : ℕ) (numerator / denominator : ℚ) := by
  have hlow : (2 * (denominator * roundDiv .toEven numerator denominator) : ℚ) ≤
      2 * numerator + denominator := by
    exact_mod_cast two_mul_roundDiv_le .toEven numerator hpos
  have hhigh : (2 * numerator : ℚ) ≤
      2 * (denominator * roundDiv .toEven numerator denominator) + denominator := by
    exact_mod_cast le_two_mul_roundDiv .toEven numerator hpos
  have hdenominator : (0 : ℚ) < denominator := by exact_mod_cast hpos
  have hdifference : (numerator / denominator : ℚ) -
      ((roundDiv .toEven numerator denominator : ℕ) : ℤ) =
      (numerator - denominator * roundDiv .toEven numerator denominator) / denominator := by
    rw [Int.cast_natCast, sub_div, mul_div_cancel_left₀ _ hdenominator.ne']
  constructor
  · rw [hdifference, abs_div, abs_of_pos hdenominator, div_le_iff₀ hdenominator, abs_le]
    constructor <;> linarith
  · intro htie
    rw [hdifference, abs_div, abs_of_pos hdenominator, div_eq_iff hdenominator.ne'] at htie
    rw [Int.even_coe_nat]
    refine even_roundDiv_toEven hpos ?_
    rcases abs_eq (by positivity) |>.mp htie with hsign | hsign
    · right
      have : (2 * numerator : ℚ) =
          2 * (denominator * roundDiv .toEven numerator denominator) + denominator := by linarith
      exact_mod_cast this
    · left
      have : (2 * numerator + denominator : ℚ) =
          2 * (denominator * roundDiv .toEven numerator denominator) := by linarith
      exact_mod_cast this

theorem isNearestEven_dropDigits (coefficient : ℤ) (count : ℕ) :
    IsNearestEven (dropDigits .toEven coefficient count) (coefficient / 10 ^ count) := by
  have hround := isNearestEven_roundDiv coefficient.natAbs (Nat.pow_pos (by decide) : 0 < 10 ^ count)
  rw [Nat.cast_natAbs, Int.cast_abs, Nat.cast_pow, Nat.cast_ofNat] at hround
  rw [dropDigits]
  rcases lt_trichotomy coefficient 0 with hneg | rfl | hpos
  · have hcast : (coefficient : ℚ) < 0 := by exact_mod_cast hneg
    rw [abs_of_neg hcast, neg_div] at hround
    rw [Int.sign_eq_neg_one_of_neg hneg, neg_one_mul]
    simpa using hround.neg
  · simpa using isNearestEven_intCast 0
  · have hcast : (0 : ℚ) < coefficient := by exact_mod_cast hpos
    rw [abs_of_pos hcast] at hround
    rwa [Int.sign_eq_one_of_pos hpos, one_mul]

/-! ## The hundredth part -/

/-- Two zeros at the end of the digits go when a decimal is divided by a hundred. -/
theorem value_eq_div_hundred {decimal quotient : Decimal}
    (hsign : quotient.negative = decimal.negative)
    (hmagnitude : quotient.magnitude * 100 = decimal.magnitude)
    (hscale : quotient.scale = decimal.scale) : quotient.value = decimal.value / 100 := by
  have hcoefficient : quotient.coefficient * 100 = decimal.coefficient := by
    rw [coefficient, coefficient, hsign, ← hmagnitude]
    push_cast
    split
    · rw [neg_mul]
    · rfl
  rw [value, value, hscale, ← hcoefficient]
  push_cast
  rw [mul_div_right_comm, mul_div_cancel_right₀ _ (by norm_num)]

/-- The value of a hundredth part does not depend on the places that it is written with. -/
theorem value_percent (decimal : Decimal) :
    decimal.percent.value = (saturate decimal.coefficient (decimal.scale + 2)).value := by
  have hhundredth : (decimal.coefficient / 10 ^ (decimal.scale + 2) : ℚ) = decimal.value / 100 := by
    rw [value, pow_add, div_mul_eq_div_div]
    norm_num
  unfold percent
  split
  · next hzero =>
      have hnone : zero.value = decimal.coefficient / 10 ^ (decimal.scale + 2) := by
        rw [hhundredth, value_eq_zero_iff.mpr hzero, zero_div, value_eq_zero_iff]
        rfl
      exact (value_saturate_of_eq hnone).symm
  · split
    · next hdvd =>
        have hdigits : decimal.magnitude / 100 * 100 = decimal.magnitude :=
          Nat.div_mul_cancel (Nat.dvd_of_mod_eq_zero hdvd)
        refine (value_saturate_of_eq ?_).symm
        rw [hhundredth]
        exact value_eq_div_hundred rfl hdigits rfl
    · exact value_eq_iff.mpr (sameValue_normalized _)

/-- The hundredth part of 100.0 is 1.0. -/
example : percent ⟨false, 1000, 1, by decide, by decide⟩ = ⟨false, 10, 1, by decide, by decide⟩ := by
  decide

/-- **The hundredth part is rounded to 28 places**, and is exact where it has no more. -/
theorem exists_value_percent (decimal : Decimal) :
    ∃ whole : ℤ, IsNearestEven whole (decimal.value * 10 ^ 26) ∧
      decimal.percent.value = whole / 10 ^ 28 := by
  have hten : ∀ places : ℕ, (10 : ℚ) ^ places ≠ 0 := fun places => (ten_pow_pos places).ne'
  have hmagnitude : decimal.coefficient.natAbs < magnitudeLimit := by
    rw [natAbs_coefficient]
    exact decimal.magnitude_lt
  rcases Nat.le_total decimal.scale 26 with hle | hle
  · obtain ⟨more, hmore⟩ := Nat.exists_eq_add_of_le hle
    have hwhole : decimal.value * 10 ^ 26 = (decimal.coefficient * 10 ^ more : ℤ) := by
      rw [value, hmore, pow_add, div_mul_eq_mul_div, mul_left_comm, mul_div_cancel_left₀ _ (hten _)]
      push_cast
      rfl
    refine ⟨decimal.coefficient * 10 ^ more, hwhole ▸ isNearestEven_intCast _, ?_⟩
    have hscale : decimal.scale + 2 ≤ maxScale := Nat.add_le_add_right hle 2
    rw [value_percent, value_saturate hmagnitude hscale, ← hwhole, value, pow_add]
    field_simp
  · obtain ⟨count, hcount⟩ := Nat.exists_eq_add_of_le hle
    have hshift : decimal.value * 10 ^ 26 = decimal.coefficient / 10 ^ count := by
      rw [value, hcount, pow_add]
      field_simp
    refine ⟨dropDigits .toEven decimal.coefficient count,
      hshift ▸ isNearestEven_dropDigits _ _, ?_⟩
    have hscale : decimal.scale + 2 = maxScale + count := by
      rw [hcount, maxScale]
      omega
    rw [value_percent, hscale, value_saturate_add hmagnitude]
    rfl

/-! ## Rounding twice -/

/-- A number is short of a half by at most half a unit of its twenty-sixth place. -/
def IsShortOfHalf (number : ℚ) : Prop :=
  1 / 2 - 1 / 2 / 10 ^ 26 ≤ Int.fract |number| ∧ Int.fract |number| < 1 / 2

@[simp] theorem isShortOfHalf_neg {number : ℚ} : IsShortOfHalf (-number) ↔ IsShortOfHalf number := by
  rw [IsShortOfHalf, abs_neg]
  rfl

theorem IsShortOfHalf.ne_zero {number : ℚ} (h : IsShortOfHalf number) : number ≠ 0 := by
  rintro rfl
  have hlow := h.1
  norm_num at hlow

theorem IsShortOfHalf.sign_ne_zero {number : ℚ} (h : IsShortOfHalf number) :
    (SignType.sign number : ℤ) ≠ 0 := by
  rcases lt_or_gt_of_ne h.ne_zero with hneg | hpos
  · rw [sign_neg hneg]
    decide
  · rw [sign_pos hpos]
    decide

section RoundingTwice

variable {whole : ℤ} {number : ℚ}

/-- Rounding twice is rounding with a threshold that is lower by half a unit of the last place. -/
theorem nearest_eq_floor_of_isNearestEven (hnumber : 0 ≤ number)
    (h : IsNearestEven whole (number * 10 ^ 26)) :
    nearest (whole / 10 ^ 26) = ⌊number + (1 / 2 + 1 / 2 / 10 ^ 26)⌋ := by
  have hten : (0 : ℚ) < 10 ^ 26 := ten_pow_pos 26
  have hwhole : 0 ≤ whole := by
    rw [h.even_le_iff Even.zero, Int.cast_zero]
    positivity
  have hquotient : (0 : ℚ) ≤ whole / 10 ^ 26 := div_nonneg (by exact_mod_cast hwhole) hten.le
  rw [nearest_of_nonneg hquotient, round_eq]
  refine eq_of_forall_le_iff fun bound => ?_
  -- the half below a whole number is an even multiple of the last place
  have heven : Even ((2 * bound - 1) * (5 * 10 ^ 25)) := by
    rw [Int.even_mul]
    exact Or.inr (by decide)
  have hhalf : (((2 * bound - 1) * (5 * 10 ^ 25) : ℤ) : ℚ) = (bound - 1 / 2) * 10 ^ 26 := by
    push_cast
    ring
  calc bound ≤ ⌊(whole / 10 ^ 26 : ℚ) + 1 / 2⌋
      ↔ (bound : ℚ) - 1 / 2 ≤ whole / 10 ^ 26 := by rw [Int.le_floor, sub_le_iff_le_add]
    _ ↔ ((bound : ℚ) - 1 / 2) * 10 ^ 26 ≤ whole := le_div_iff₀ hten
    _ ↔ (2 * bound - 1) * (5 * 10 ^ 25) ≤ whole := by
        rw [← hhalf]
        exact Int.cast_le
    _ ↔ ((bound : ℚ) - 1 / 2) * 10 ^ 26 ≤ number * 10 ^ 26 + 1 / 2 := by
        rw [h.even_le_iff heven, hhalf]
    _ ↔ bound ≤ ⌊number + (1 / 2 + 1 / 2 / 10 ^ 26)⌋ := by
        rw [Int.le_floor]
        constructor <;> intro hle <;> linarith

theorem floor_add_eq_floor {shift : ℚ} (hshift : 0 ≤ shift) (h : Int.fract number + shift < 1) :
    ⌊number + shift⌋ = ⌊number⌋ := by
  have hsplit := Int.floor_add_fract number
  have hnonneg := Int.fract_nonneg number
  rw [Int.floor_eq_iff]
  constructor <;> linarith

theorem floor_add_eq_floor_add_one {shift : ℚ} (hshift : shift ≤ 1)
    (h : 1 ≤ Int.fract number + shift) : ⌊number + shift⌋ = ⌊number⌋ + 1 := by
  have hsplit := Int.floor_add_fract number
  have hlt := Int.fract_lt_one number
  rw [Int.floor_eq_iff]
  push_cast
  constructor <;> linarith

/-- Only numbers that are short of a half pass the lower threshold and not the other one. -/
theorem floor_eq_nearest (hnumber : 0 ≤ number) :
    (¬ IsShortOfHalf number → ⌊number + (1 / 2 + 1 / 2 / 10 ^ 26)⌋ = nearest number) ∧
      (IsShortOfHalf number → ⌊number + (1 / 2 + 1 / 2 / 10 ^ 26)⌋ = nearest number + 1) := by
  rw [IsShortOfHalf, abs_of_nonneg hnumber, nearest_of_nonneg hnumber, round_eq]
  constructor
  · intro hfar
    rcases lt_or_ge (Int.fract number) (1 / 2) with hbelow | habove
    · have hshort : Int.fract number < 1 / 2 - 1 / 2 / 10 ^ 26 :=
        not_le.mp fun hle => hfar ⟨hle, hbelow⟩
      rw [floor_add_eq_floor (by norm_num) (by linarith),
        floor_add_eq_floor (by norm_num) (by linarith)]
    · rw [floor_add_eq_floor_add_one (by norm_num) (by linarith),
        floor_add_eq_floor_add_one (by norm_num) (by linarith)]
  · rintro ⟨hlow, hbelow⟩
    rw [floor_add_eq_floor_add_one (by norm_num) (by linarith),
      floor_add_eq_floor (by norm_num) (by linarith)]

/-- **Rounding twice** is rounding once, unless the number is short of a half; then the result is
the next whole number away from zero. -/
theorem nearest_of_isNearestEven (h : IsNearestEven whole (number * 10 ^ 26)) :
    (¬ IsShortOfHalf number → nearest (whole / 10 ^ 26) = nearest number) ∧
      (IsShortOfHalf number →
        nearest (whole / 10 ^ 26) = nearest number + SignType.sign number) := by
  rcases le_or_gt 0 number with hnonneg | hneg
  · rw [nearest_eq_floor_of_isNearestEven hnonneg h]
    refine (floor_eq_nearest hnonneg).imp_right fun hstep hshort => ?_
    rw [hstep hshort, sign_pos (hnonneg.lt_of_ne hshort.ne_zero.symm)]
    rfl
  · have hopposite := h.neg
    rw [← neg_mul] at hopposite
    have hnonneg : 0 ≤ -number := neg_nonneg.mpr hneg.le
    have hfloor := nearest_eq_floor_of_isNearestEven hnonneg hopposite
    rw [Int.cast_neg, neg_div, nearest_neg, neg_eq_iff_eq_neg] at hfloor
    obtain ⟨hfar, hshort⟩ := floor_eq_nearest hnonneg
    rw [isShortOfHalf_neg, nearest_neg] at hfar hshort
    rw [hfloor, sign_neg hneg]
    constructor
    · intro h
      rw [hfar h, neg_neg]
    · intro h
      rw [hshort h, neg_add, neg_neg]
      rfl

end RoundingTwice

end Decimal

end Invoicing
