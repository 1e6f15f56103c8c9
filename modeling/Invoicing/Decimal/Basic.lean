import Invoicing.Rounding

/-!
# Decimals

A decimal is a sign, a magnitude below `2 ^ 96` and a scale of at most 28 places, and
stands for `coefficient / 10 ^ scale`, where the coefficient is the magnitude with its
sign.  Two decimals can have one value and different scales (`1.5` and `1.50`); the
scale is kept because it is printed.  So is the sign of a zero, which only the reading
of a numeral can leave behind: a number too small for its places is rounded to a zero
of its sign, while arithmetic gives zeros without a sign.
-/

namespace Invoicing

/-- One more than the largest magnitude. -/
def Decimal.magnitudeLimit : Nat := 2 ^ 96

/-- The most places after the point. -/
def Decimal.maxScale : Nat := 28

/-- A decimal number with its scale. -/
structure Decimal where
  /-- Whether the sign is a minus; a zero can have one. -/
  negative : Bool
  /-- All digits as one natural number. -/
  magnitude : Nat
  /-- How many of the digits stand after the point. -/
  scale : Nat
  /-- The magnitude is within its limit. -/
  magnitude_lt : magnitude < Decimal.magnitudeLimit
  /-- The scale is within its limit. -/
  scale_le : scale ≤ Decimal.maxScale
  deriving DecidableEq, Repr

namespace Decimal

/-- All digits as one whole number with the sign of the decimal. -/
def coefficient (decimal : Decimal) : Int :=
  if decimal.negative then -(decimal.magnitude : Int) else decimal.magnitude

@[simp] theorem natAbs_coefficient (decimal : Decimal) :
    decimal.coefficient.natAbs = decimal.magnitude := by
  unfold coefficient
  split <;> simp

/-- The decimal with a coefficient and a scale, if both are within their limits.  A zero
gets no sign. -/
def of? (coefficient : Int) (scale : Nat) : Option Decimal :=
  if h : coefficient.natAbs < magnitudeLimit ∧ scale ≤ maxScale then
    some ⟨coefficient < 0, coefficient.natAbs, scale, h.1, h.2⟩
  else none

theorem of?_eq_some_iff {coefficient : Int} {scale : Nat} {decimal : Decimal} :
    of? coefficient scale = some decimal ↔ decimal.coefficient = coefficient ∧
      decimal.scale = scale ∧ (decimal.negative → decimal.magnitude ≠ 0) := by
  unfold of?
  constructor
  · intro h
    split at h
    · obtain rfl : _ = decimal := by simpa using h
      refine ⟨?_, rfl, ?_⟩
      · simp only [Decimal.coefficient, decide_eq_true_eq]
        split <;> omega
      · simp only [decide_eq_true_eq]
        omega
    · simp at h
  · rintro ⟨rfl, rfl, hsign⟩
    obtain ⟨negative, magnitude, scale, hmagnitude, hscale⟩ := decimal
    rw [dif_pos ⟨by simpa using hmagnitude, hscale⟩]
    simp only [Option.some.injEq, Decimal.mk.injEq, natAbs_coefficient, and_true]
    cases negative with
    | false => simp [Decimal.coefficient]
    | true =>
        have : magnitude ≠ 0 := hsign rfl
        simp only [Decimal.coefficient, if_true, decide_eq_true_eq]
        omega

/-- A coefficient and a scale give the decimal back, unless it is a zero with a sign. -/
theorem of?_coefficient_scale {decimal : Decimal}
    (hsign : decimal.negative → decimal.magnitude ≠ 0) :
    of? decimal.coefficient decimal.scale = some decimal :=
  of?_eq_some_iff.2 ⟨rfl, rfl, hsign⟩

/-- A whole number below `2 ^ 64` as a decimal without places. -/
def ofNat (number : Nat) (h : number < 2 ^ 64 := by decide) : Decimal where
  negative := false
  magnitude := number
  scale := 0
  magnitude_lt := by
    have : (2 : Nat) ^ 64 < magnitudeLimit := by decide
    omega
  scale_le := Nat.zero_le _

/-- The decimal zero without places. -/
def zero : Decimal := ofNat 0

instance : Inhabited Decimal := ⟨zero⟩

/-- The decimal of largest value. -/
def largest : Decimal where
  negative := false
  magnitude := magnitudeLimit - 1
  scale := 0
  magnitude_lt := by decide
  scale_le := Nat.zero_le _

/-- Whether the value is zero, at whatever scale and of whatever sign. -/
def isZero (decimal : Decimal) : Bool := decimal.magnitude == 0

/-- Whether the value is below zero. -/
def isNegative (decimal : Decimal) : Bool := decimal.coefficient < 0

/-- Whether the value is above zero. -/
def isPositive (decimal : Decimal) : Bool := 0 < decimal.coefficient

/-- The decimal with the opposite value and the same scale.  A zero gets no sign. -/
def neg (decimal : Decimal) : Decimal :=
  { decimal with negative := !decimal.negative && !decimal.isZero }

@[simp] theorem coefficient_neg (decimal : Decimal) :
    decimal.neg.coefficient = -decimal.coefficient := by
  obtain ⟨negative, magnitude, scale, hmagnitude, hscale⟩ := decimal
  by_cases hzero : magnitude = 0
  · cases negative <;> simp [coefficient, neg, isZero, hzero]
  · cases negative <;> simp [coefficient, neg, isZero, hzero]

/-- The decimal without its sign. -/
def abs (decimal : Decimal) : Decimal := { decimal with negative := false }

/-- Whether two decimals have one value; their scales may differ. -/
def sameValue (first second : Decimal) : Bool :=
  first.coefficient * 10 ^ second.scale == second.coefficient * 10 ^ first.scale

/-- The decimal with the same digits and another scale, if that is within its limit. -/
def withScale? (decimal : Decimal) (scale : Nat) : Option Decimal :=
  if h : scale ≤ maxScale then some { decimal with scale, scale_le := h } else none

/-! ### Rounding -/

/-- A coefficient without a number of its last digits, rounded. -/
def dropDigits (tie : Tie) (coefficient : Int) (count : Nat) : Int :=
  coefficient.sign * roundDiv tie coefficient.natAbs (10 ^ count)

@[simp] theorem dropDigits_zero (tie : Tie) (coefficient : Int) :
    dropDigits tie coefficient 0 = coefficient := by
  rw [dropDigits, Nat.pow_zero, roundDiv_one, Int.sign_mul_natAbs]

/-- A magnitude that loses a digit stays within its limit, even when it is rounded up. -/
theorem roundDiv_pow_lt {magnitude : Nat} (h : magnitude < magnitudeLimit) (tie : Tie)
    {count : Nat} (hcount : 0 < count) :
    roundDiv tie magnitude (10 ^ count) < magnitudeLimit := by
  have hle := roundDiv_le tie magnitude (10 ^ count)
  have hten : 10 ≤ 10 ^ count := Nat.le_self_pow (by omega) 10
  have hdiv : magnitude / 10 ^ count ≤ magnitude / 10 := Nat.div_le_div_left hten (by decide)
  have hlimit : magnitudeLimit = 2 ^ 96 := rfl
  omega

/-- The decimal rounded to a number of places, with its sign.  One that has no more
places stays as it is. -/
def roundTo (places : Nat) (tie : Tie) (decimal : Decimal) : Decimal :=
  if h : decimal.scale ≤ places then decimal
  else {
    negative := decimal.negative
    magnitude := roundDiv tie decimal.magnitude (10 ^ (decimal.scale - places))
    scale := places
    magnitude_lt := roundDiv_pow_lt decimal.magnitude_lt tie (by omega)
    scale_le := by have := decimal.scale_le; omega }

/-- Rounding drops the last digits of the coefficient. -/
theorem coefficient_roundTo (places : Nat) (tie : Tie) (decimal : Decimal) :
    (decimal.roundTo places tie).coefficient =
      dropDigits tie decimal.coefficient (decimal.scale - places) := by
  unfold roundTo
  split
  · next h => rw [Nat.sub_eq_zero_of_le h, dropDigits_zero]
  · obtain ⟨negative, magnitude, scale, hmagnitude, hscale⟩ := decimal
    rw [dropDigits, natAbs_coefficient]
    by_cases hzero : magnitude = 0
    · subst hzero
      have hround : roundDiv tie 0 (10 ^ (scale - places)) = 0 := by
        simpa using roundDiv_mul_self tie 0 (Nat.pow_pos (by decide : 0 < 10))
      cases negative <;> simp [coefficient, hround]
    · have hpos : (0 : Int) < magnitude := by omega
      cases negative with
      | false => simp [coefficient, Int.sign_eq_one_of_pos hpos]
      | true =>
          have hneg : -(magnitude : Int) < 0 := by omega
          simp [coefficient, Int.sign_eq_neg_one_of_neg hneg]

/-- The decimal with as many zeros after its last place as bring it to a number of
places, or as many of them as the magnitude has room for. -/
def extendTo (places : Nat) (decimal : Decimal) : Decimal :=
  extend (places - decimal.scale) decimal
where
  /-- At most so many zeros more. -/
  extend : Nat → Decimal → Decimal
    | 0, decimal => decimal
    | count + 1, decimal =>
        if h : decimal.magnitude * 10 < magnitudeLimit ∧ decimal.scale + 1 ≤ maxScale then
          extend count
            ⟨decimal.negative, decimal.magnitude * 10, decimal.scale + 1, h.1, h.2⟩
        else decimal

/-! ### The fewest places -/

/-- A magnitude and a scale without the zeros at the end of the places. -/
def stripZeros : Nat → Nat → Nat × Nat
  | 0, magnitude => (magnitude, 0)
  | scale + 1, magnitude =>
      if magnitude % 10 = 0 then stripZeros scale (magnitude / 10)
      else (magnitude, scale + 1)

theorem stripZeros_le (scale magnitude : Nat) :
    (stripZeros scale magnitude).1 ≤ magnitude ∧ (stripZeros scale magnitude).2 ≤ scale := by
  induction scale generalizing magnitude with
  | zero => simp [stripZeros]
  | succ scale ih =>
      simp only [stripZeros]
      split
      · have := ih (magnitude / 10)
        omega
      · simp

/-- The decimal of the same value with the fewest places.  A zero gets no sign. -/
def normalized (decimal : Decimal) : Decimal where
  negative := decimal.negative && !decimal.isZero
  magnitude := (stripZeros decimal.scale decimal.magnitude).1
  scale := (stripZeros decimal.scale decimal.magnitude).2
  magnitude_lt :=
    Nat.lt_of_le_of_lt (stripZeros_le decimal.scale decimal.magnitude).1 decimal.magnitude_lt
  scale_le := Nat.le_trans (stripZeros_le decimal.scale decimal.magnitude).2 decimal.scale_le

/-- Stripping zeros keeps the value. -/
theorem stripZeros_value (scale magnitude : Nat) :
    (stripZeros scale magnitude).1 * 10 ^ scale =
      magnitude * 10 ^ (stripZeros scale magnitude).2 := by
  induction scale generalizing magnitude with
  | zero => simp [stripZeros]
  | succ scale ih =>
      simp only [stripZeros]
      split
      · next hdvd =>
          have hmagnitude : magnitude / 10 * 10 = magnitude := by omega
          rw [Nat.pow_succ, ← Nat.mul_assoc, ih (magnitude / 10), Nat.mul_right_comm, hmagnitude]
      · rfl

theorem sameValue_normalized (decimal : Decimal) : decimal.normalized.sameValue decimal := by
  have hvalue : ((stripZeros decimal.scale decimal.magnitude).1 : Int) * 10 ^ decimal.scale =
      decimal.magnitude * 10 ^ (stripZeros decimal.scale decimal.magnitude).2 := by
    exact_mod_cast stripZeros_value decimal.scale decimal.magnitude
  simp only [sameValue, beq_iff_eq]
  unfold coefficient normalized isZero
  by_cases hzero : decimal.magnitude = 0
  · simp only [hzero] at hvalue ⊢
    cases decimal.negative <;> simp_all
  · cases decimal.negative with
    | false => simpa using hvalue
    | true => simpa [hzero, Int.neg_mul] using hvalue

end Decimal

end Invoicing
