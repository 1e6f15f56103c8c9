import Invoicing.Decimal.Arithmetic
import Mathlib.Algebra.Order.Round
import Mathlib.Data.Rat.Floor
import Mathlib.Tactic.FieldSimp
import Mathlib.Tactic.Linarith
import Mathlib.Tactic.NormNum

/-!
# The value of a decimal

Decimals of one value can differ in their scales, and sums lose digits when they have too many,
so arithmetic on decimals keeps no algebraic law as it stands.  The laws hold of the values, as
rational numbers, and this file translates: what rounding and adding do to the value.

* Rounding to some places takes the value to the nearest multiple of the last place, a half away
  from zero (`Decimal.value_roundTo_up`).
* A sum has the sum of the values as long as its digits fit (`Decimal.value_add`).
-/

namespace Invoicing

/-! ## The nearest whole number -/

/-- The whole number nearest to a number.  A half goes away from zero. -/
def nearest (number : ℚ) : ℤ :=
  if 0 ≤ number then round number else -round (-number)

theorem nearest_of_nonneg {number : ℚ} (h : 0 ≤ number) : nearest number = round number :=
  if_pos h

@[simp] theorem nearest_intCast (whole : ℤ) : nearest whole = whole := by
  unfold nearest
  split
  · exact round_intCast whole
  · rw [← Int.cast_neg, round_intCast, neg_neg]

theorem nearest_nonneg {number : ℚ} (h : 0 ≤ number) : 0 ≤ nearest number := by
  rw [nearest_of_nonneg h, round_eq, Int.floor_nonneg]
  linarith

theorem nearest_neg (number : ℚ) : nearest (-number) = -nearest number := by
  rcases lt_trichotomy number 0 with hneg | rfl | hpos
  · rw [nearest_of_nonneg (neg_nonneg.mpr hneg.le), nearest, if_neg (not_le.mpr hneg), neg_neg]
  · rw [neg_zero, ← Int.cast_zero, nearest_intCast, neg_zero]
  · rw [nearest, if_neg (not_le.mpr (neg_neg_of_pos hpos)), neg_neg, nearest_of_nonneg hpos.le]

theorem one_le_nearest_iff {number : ℚ} : 1 ≤ nearest number ↔ 1 / 2 ≤ number := by
  rcases le_or_gt 0 number with hnonneg | hneg
  · rw [nearest_of_nonneg hnonneg, round_eq, Int.le_floor, Int.cast_one]
    constructor <;> intro h <;> linarith
  · have hopposite : 0 ≤ nearest (-number) := nearest_nonneg (neg_nonneg.mpr hneg.le)
    rw [nearest_of_nonneg (neg_nonneg.mpr hneg.le)] at hopposite
    rw [nearest, if_neg (not_le.mpr hneg)]
    constructor
    · intro h
      omega
    · intro h
      linarith

/-- A number is at most half a unit away from its nearest whole number. -/
theorem abs_sub_nearest (number : ℚ) : |number - nearest number| ≤ 1 / 2 := by
  unfold nearest
  split
  · exact abs_sub_round number
  · have hround := abs_sub_round (-number)
    rw [← abs_neg] at hround
    push_cast
    rwa [sub_neg_eq_add, add_comm, ← sub_neg_eq_add, ← neg_sub]

/-- On one side of zero, rounding commutes with whole shifts. -/
theorem nearest_add_intCast {number : ℚ} {shift : ℤ} (hnumber : 0 ≤ number)
    (hsum : 0 ≤ number + shift) : nearest (number + shift) = nearest number + shift := by
  rw [nearest_of_nonneg hsum, nearest_of_nonneg hnumber, round_add_intCast]

/-- A quotient that is rounded up on a tie is short of the next half. -/
theorem two_mul_lt_roundDiv_up (numerator : ℕ) {denominator : ℕ} (hpos : 0 < denominator) :
    2 * numerator < 2 * (denominator * roundDiv .up numerator denominator) + denominator := by
  have hdiv := Nat.div_add_mod numerator denominator
  have hmod := Nat.mod_lt numerator hpos
  have hstep : denominator * (numerator / denominator + 1) =
      denominator * (numerator / denominator) + denominator := Nat.mul_succ _ _
  unfold roundDiv
  simp only
  split
  · omega
  · split
    · rw [hstep]
      omega
    · rw [hstep]
      omega

theorem roundDiv_up_eq_round (numerator : ℕ) {denominator : ℕ} (hpos : 0 < denominator) :
    (roundDiv .up numerator denominator : ℤ) = round (numerator / denominator : ℚ) := by
  have hlow : (2 * (denominator * roundDiv .up numerator denominator) : ℚ) ≤
      2 * numerator + denominator := by
    exact_mod_cast two_mul_roundDiv_le .up numerator hpos
  have hhigh : (2 * numerator : ℚ) <
      2 * (denominator * roundDiv .up numerator denominator) + denominator := by
    exact_mod_cast two_mul_lt_roundDiv_up numerator hpos
  have hdenominator : (0 : ℚ) < denominator := by exact_mod_cast hpos
  rw [eq_comm, round_eq, Int.floor_eq_iff]
  push_cast
  constructor
  · rw [div_add' _ _ _ hdenominator.ne', le_div_iff₀ hdenominator]
    linarith
  · rw [div_add' _ _ _ hdenominator.ne', div_lt_iff₀ hdenominator]
    linarith

namespace Decimal

/-! ## The value -/

/-- The number that a decimal stands for. -/
def value (decimal : Decimal) : ℚ := decimal.coefficient / 10 ^ decimal.scale

section Value

variable {decimal first second : Decimal}

theorem ten_pow_pos (scale : ℕ) : (0 : ℚ) < 10 ^ scale := pow_pos (by norm_num) scale

@[simp] theorem value_neg (decimal : Decimal) : decimal.neg.value = -decimal.value := by
  have hscale : decimal.neg.scale = decimal.scale := rfl
  rw [value, value, hscale, coefficient_neg, Int.cast_neg, neg_div]

theorem isPositive_iff : decimal.isPositive ↔ 0 < decimal.value := by
  rw [isPositive, decide_eq_true_iff, value, div_pos_iff_of_pos_right (ten_pow_pos _),
    Int.cast_pos]

theorem isNegative_iff : decimal.isNegative ↔ decimal.value < 0 := by
  rw [isNegative, decide_eq_true_iff, value, div_lt_iff₀ (ten_pow_pos _), zero_mul, Int.cast_lt_zero]

theorem value_eq_zero_iff : decimal.value = 0 ↔ decimal.isZero := by
  have hten := (ten_pow_pos decimal.scale).ne'
  rw [value, div_eq_zero_iff, or_iff_left hten, Int.cast_eq_zero, ← Int.natAbs_eq_zero,
    natAbs_coefficient, isZero, beq_iff_eq]

theorem value_eq_iff : first.value = second.value ↔ first.sameValue second := by
  rw [value, value, div_eq_div_iff (ten_pow_pos _).ne' (ten_pow_pos _).ne', sameValue, beq_iff_eq]
  exact_mod_cast Iff.rfl

end Value

/-! ## Rounding -/

theorem dropDigits_up_eq_nearest (coefficient : ℤ) (count : ℕ) :
    dropDigits .up coefficient count = nearest (coefficient / 10 ^ count) := by
  have hten : (0 : ℚ) < 10 ^ count := ten_pow_pos count
  have hround : (roundDiv .up coefficient.natAbs (10 ^ count) : ℤ) =
      round (|(coefficient : ℚ)| / 10 ^ count) := by
    rw [roundDiv_up_eq_round _ (Nat.pow_pos (by decide)), Nat.cast_natAbs, Int.cast_abs,
      Nat.cast_pow, Nat.cast_ofNat]
  rw [dropDigits, hround]
  rcases lt_or_ge coefficient 0 with hneg | hnonneg
  · have hcast : (coefficient : ℚ) < 0 := by exact_mod_cast hneg
    have hquotient : ¬ (0 : ℚ) ≤ coefficient / 10 ^ count := not_le.mpr (div_neg_of_neg_of_pos hcast hten)
    rw [nearest, if_neg hquotient, Int.sign_eq_neg_one_of_neg hneg, abs_of_neg hcast, neg_div,
      neg_one_mul]
  · have hcast : (0 : ℚ) ≤ coefficient := by exact_mod_cast hnonneg
    rw [nearest_of_nonneg (div_nonneg hcast hten.le), abs_of_nonneg hcast]
    rcases hnonneg.eq_or_lt with rfl | hpos
    · simp
    · rw [Int.sign_eq_one_of_pos hpos, one_mul]

/-- Rounding takes the value to the nearest multiple of the last place that is kept. -/
theorem value_roundTo_up (places : ℕ) (decimal : Decimal) :
    (decimal.roundTo places .up).value = nearest (decimal.value * 10 ^ places) / 10 ^ places := by
  have hten : ∀ scale : ℕ, (10 : ℚ) ^ scale ≠ 0 := fun scale => (ten_pow_pos scale).ne'
  by_cases hscale : decimal.scale ≤ places
  · -- the value is a multiple of the last place already
    have hwhole : decimal.value * 10 ^ places =
        (decimal.coefficient * 10 ^ (places - decimal.scale) : ℤ) := by
      rw [value, div_mul_eq_mul_div, div_eq_iff (hten _)]
      push_cast
      rw [mul_assoc, ← pow_add, Nat.sub_add_cancel hscale]
    have hsame : decimal.roundTo places .up = decimal := by rw [roundTo, dif_pos hscale]
    rw [hsame, hwhole, nearest_intCast, ← hwhole, mul_div_cancel_right₀ _ (hten _)]
  · have hplaces : (decimal.roundTo places .up).scale = places := by rw [roundTo, dif_neg hscale]
    have hshift : decimal.value * 10 ^ places =
        decimal.coefficient / 10 ^ (decimal.scale - places) := by
      rw [value, div_mul_eq_mul_div, div_eq_div_iff (hten _) (hten _), mul_assoc, ← pow_add,
        Nat.add_sub_of_le (Nat.le_of_not_le hscale)]
    rw [value, hplaces, coefficient_roundTo, dropDigits_up_eq_nearest, hshift]

theorem scale_roundTo_le (places : ℕ) (tie : Tie) (decimal : Decimal) :
    (decimal.roundTo places tie).scale ≤ places := by
  rw [roundTo]
  split
  · assumption
  · exact le_rfl

/-- Rounding moves the value by half a unit of the last place at most. -/
theorem abs_value_sub_roundTo_up (places : ℕ) (decimal : Decimal) :
    |decimal.value - (decimal.roundTo places .up).value| ≤ 1 / 2 / 10 ^ places := by
  have hten := ten_pow_pos places
  have hnearest := abs_sub_nearest (decimal.value * 10 ^ places)
  rw [value_roundTo_up, le_div_iff₀ hten, ← abs_of_pos hten, ← abs_mul, sub_mul, abs_of_pos hten,
    div_mul_cancel₀ _ hten.ne']
  exact hnearest

/-! ## Sums -/

section Sum

variable {first second : Decimal}

/-- The coefficients of two decimals, brought to one scale and added. -/
def alignedSum (first second : Decimal) : ℤ :=
  first.coefficient * 10 ^ (max first.scale second.scale - first.scale) +
    second.coefficient * 10 ^ (max first.scale second.scale - second.scale)

theorem alignedSum_div (first second : Decimal) :
    (alignedSum first second / 10 ^ max first.scale second.scale : ℚ) =
      first.value + second.value := by
  have hten : ∀ scale : ℕ, (10 : ℚ) ^ scale ≠ 0 := fun scale => (ten_pow_pos scale).ne'
  have halign : ∀ decimal : Decimal, decimal.scale ≤ max first.scale second.scale →
      (decimal.coefficient * 10 ^ (max first.scale second.scale - decimal.scale) : ℚ) /
        10 ^ max first.scale second.scale = decimal.value := by
    intro decimal hscale
    rw [value, div_eq_div_iff (hten _) (hten _), mul_assoc, ← pow_add, Nat.sub_add_cancel hscale]
  rw [alignedSum]
  push_cast
  rw [add_div, halign first (le_max_left _ _), halign second (le_max_right _ _)]

theorem value_saturate {coefficient : ℤ} {scale : ℕ} (hlt : coefficient.natAbs < magnitudeLimit)
    (hscale : scale ≤ maxScale) : (saturate coefficient scale).value = coefficient / 10 ^ scale := by
  obtain ⟨decimal, hdecimal⟩ : ∃ decimal, of? coefficient scale = some decimal :=
    ⟨_, dif_pos ⟨hlt, hscale⟩⟩
  obtain ⟨hcoefficient, rfl, hsign⟩ := of?_eq_some_iff.mp hdecimal
  rw [← hcoefficient, saturate, fit?_of_fits hsign, Option.getD_some, value]

/-- The digits of a sum fit.  A zero is not aligned: the sum with it is the other operand. -/
def SumFits (first second : Decimal) : Prop :=
  first.isZero ∨ second.isZero ∨ (alignedSum first second).natAbs < magnitudeLimit

instance : Decidable (SumFits first second) := inferInstanceAs (Decidable (_ ∨ _ ∨ _))

/-- A sum whose digits fit has the sum of the values. -/
theorem value_add (hfits : SumFits first second) :
    (first.add second).value = first.value + second.value := by
  unfold add
  split
  · next hzero => rw [value_eq_zero_iff.mpr hzero, zero_add]
  · next hfirst =>
      split
      · next hzero => rw [value_eq_zero_iff.mpr hzero, add_zero]
      · next hsecond =>
          have hlt : (alignedSum first second).natAbs < magnitudeLimit :=
            (hfits.resolve_left hfirst).resolve_left hsecond
          have hscale : max first.scale second.scale ≤ maxScale :=
            max_le first.scale_le second.scale_le
          rw [← alignedSum_div]
          exact value_saturate hlt hscale

/-- The digits of a number fit when there is room for it with all its places. -/
theorem natAbs_lt_of_room {coefficient : ℤ} {scale : ℕ}
    (hroom : |(coefficient / 10 ^ scale : ℚ)| * 10 ^ scale < magnitudeLimit) :
    coefficient.natAbs < magnitudeLimit := by
  have hten := ten_pow_pos scale
  rw [abs_div, abs_of_pos hten, div_mul_cancel₀ _ hten.ne', ← Int.cast_abs,
    Int.abs_eq_natAbs] at hroom
  exact_mod_cast hroom

/-- The digits of a sum fit when there is room for it with as many places as its operands have. -/
theorem sumFits_of_room {places : ℕ} (hfirst : first.scale ≤ places)
    (hsecond : second.scale ≤ places)
    (hroom : |first.value + second.value| * 10 ^ places < magnitudeLimit) : SumFits first second := by
  have haligned : |first.value + second.value| * 10 ^ max first.scale second.scale <
      magnitudeLimit := by
    refine lt_of_le_of_lt ?_ hroom
    gcongr
    · norm_num
    · exact max_le hfirst hsecond
  rw [← alignedSum_div] at haligned
  exact Or.inr (Or.inr (natAbs_lt_of_room haligned))

/-- The digits of a small sum fit, however many places it has. -/
theorem sumFits_of_abs_le_one (hsmall : |first.value + second.value| ≤ 1) :
    SumFits first second := by
  have hlimit : (10 ^ maxScale : ℚ) < magnitudeLimit := by
    exact_mod_cast (by decide : 10 ^ maxScale < magnitudeLimit)
  exact sumFits_of_room first.scale_le second.scale_le
    ((mul_le_of_le_one_left (ten_pow_pos _).le hsmall).trans_lt hlimit)

end Sum

/-! ## The same value, written otherwise -/

@[simp] theorem value_abs (decimal : Decimal) : decimal.abs.value = |decimal.value| := by
  have hcoefficient : (decimal.abs.coefficient : ℚ) = |(decimal.coefficient : ℚ)| := by
    rw [← Int.cast_abs, Int.abs_eq_natAbs, natAbs_coefficient]
    rfl
  have hscale : decimal.abs.scale = decimal.scale := rfl
  rw [value, value, hscale, hcoefficient, abs_div, abs_of_pos (ten_pow_pos _)]

/-- Places are added as zeros, until there are enough of them or there is no room. -/
theorem extendTo_spec (places : ℕ) (decimal : Decimal) :
    ∃ added ≤ places - decimal.scale,
      (decimal.extendTo places).negative = decimal.negative ∧
      (decimal.extendTo places).magnitude = decimal.magnitude * 10 ^ added ∧
      (decimal.extendTo places).scale = decimal.scale + added ∧
      (added = places - decimal.scale ∨ magnitudeLimit ≤ decimal.magnitude * 10 ^ added * 10 ∨
        maxScale ≤ decimal.scale + added) := by
  rw [extendTo]
  generalize places - decimal.scale = count
  induction count generalizing decimal with
  | zero => exact ⟨0, le_rfl, rfl, by simp [extendTo.extend], rfl, Or.inl rfl⟩
  | succ count ih =>
      rw [extendTo.extend]
      split
      · next hroom =>
          obtain ⟨added, hle, hnegative, hmagnitude, hscale, hstop⟩ :=
            ih ⟨decimal.negative, decimal.magnitude * 10, decimal.scale + 1, hroom.1, hroom.2⟩
          have hpow : decimal.magnitude * 10 * 10 ^ added = decimal.magnitude * 10 ^ (added + 1) := by
            rw [Nat.pow_succ', ← Nat.mul_assoc]
          simp only [hpow] at hmagnitude hscale hstop
          refine ⟨added + 1, by omega, hnegative, hmagnitude, by omega, ?_⟩
          omega
      · next hroom =>
          refine ⟨0, Nat.zero_le _, rfl, by simp, rfl, Or.inr ?_⟩
          rw [Nat.pow_zero, Nat.mul_one]
          omega

/-- Zeros after the last place change the digits, not the value. -/
@[simp] theorem value_extendTo (places : ℕ) (decimal : Decimal) :
    (decimal.extendTo places).value = decimal.value := by
  obtain ⟨added, -, hnegative, hmagnitude, hscale, -⟩ := extendTo_spec places decimal
  have hcoefficient : (decimal.extendTo places).coefficient = decimal.coefficient * 10 ^ added := by
    rw [coefficient, coefficient, hnegative, hmagnitude]
    push_cast
    split
    · rw [neg_mul]
    · rfl
  rw [value, value, hcoefficient, hscale, pow_add]
  push_cast
  exact mul_div_mul_right _ _ (ten_pow_pos added).ne'

end Decimal

end Invoicing
