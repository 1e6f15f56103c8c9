/-!
# Rounding a quotient

Decimals, money figures and binary numbers all round the same way: a quotient of
natural numbers goes to the nearest whole number, and only the rule for an exact
tie differs.  `roundDiv` takes that rule as a parameter.

Main statements: the result is within half a unit of the quotient
(`two_mul_roundDiv_le`, `le_two_mul_roundDiv`), and an exact division is not
changed (`roundDiv_mul_self`).
-/

namespace Invoicing

-- powers are read as these, whatever algebra a module has at hand
@[default_instance 20000]
instance (priority := 20000) powNat : Pow Nat Nat := instPowNat

@[default_instance 15000]
instance (priority := 20000) powInt : Pow Int Nat := instPowNat

/-- Where a quotient goes that lies exactly between two whole numbers. -/
inductive Tie where
  /-- To the even neighbour. -/
  | toEven
  /-- To the larger neighbour, which is away from zero for a magnitude. -/
  | up
  deriving DecidableEq, Repr

/-- The whole number nearest to `numerator / denominator`. -/
def roundDiv (tie : Tie) (numerator denominator : Nat) : Nat :=
  let quotient := numerator / denominator
  let twice := 2 * (numerator % denominator)
  if twice < denominator then quotient
  else if denominator < twice then quotient + 1
  else match tie with
    | .toEven => quotient + quotient % 2
    | .up => quotient + 1

theorem roundDiv_le (tie : Tie) (numerator denominator : Nat) :
    roundDiv tie numerator denominator ≤ numerator / denominator + 1 := by
  unfold roundDiv
  cases tie <;> grind

theorem div_le_roundDiv (tie : Tie) (numerator denominator : Nat) :
    numerator / denominator ≤ roundDiv tie numerator denominator := by
  unfold roundDiv
  cases tie <;> grind

/-- The rounded quotient is at most half a unit too large. -/
theorem two_mul_roundDiv_le (tie : Tie) (numerator : Nat) {denominator : Nat}
    (hpos : 0 < denominator) :
    2 * (denominator * roundDiv tie numerator denominator) ≤ 2 * numerator + denominator := by
  have hdiv := Nat.div_add_mod numerator denominator
  have hmod := Nat.mod_lt numerator hpos
  have hstep : denominator * (numerator / denominator + 1) =
      denominator * (numerator / denominator) + denominator := Nat.mul_succ _ _
  unfold roundDiv
  simp only
  split
  · omega
  · split
    · rw [hstep]; omega
    · have heven : numerator / denominator % 2 = 0 ∨ numerator / denominator % 2 = 1 := by omega
      cases tie with
      | up => simp only; rw [hstep]; omega
      | toEven =>
          rcases heven with h | h
          · simp only [h, Nat.add_zero]; omega
          · simp only [h]; rw [hstep]; omega

/-- The rounded quotient is at most half a unit too small. -/
theorem le_two_mul_roundDiv (tie : Tie) (numerator : Nat) {denominator : Nat}
    (hpos : 0 < denominator) :
    2 * numerator ≤ 2 * (denominator * roundDiv tie numerator denominator) + denominator := by
  have hdiv := Nat.div_add_mod numerator denominator
  have hmod := Nat.mod_lt numerator hpos
  have hstep : denominator * (numerator / denominator + 1) =
      denominator * (numerator / denominator) + denominator := Nat.mul_succ _ _
  unfold roundDiv
  simp only
  split
  · omega
  · split
    · rw [hstep]; omega
    · have heven : numerator / denominator % 2 = 0 ∨ numerator / denominator % 2 = 1 := by omega
      cases tie with
      | up => simp only; rw [hstep]; omega
      | toEven =>
          rcases heven with h | h
          · simp only [h, Nat.add_zero]; omega
          · simp only [h]; rw [hstep]; omega

@[simp] theorem roundDiv_one (tie : Tie) (numerator : Nat) : roundDiv tie numerator 1 = numerator := by
  simp [roundDiv, Nat.mod_one]

/-- An exact division is not changed by rounding. -/
theorem roundDiv_mul_self (tie : Tie) (quotient : Nat) {denominator : Nat}
    (hpos : 0 < denominator) : roundDiv tie (quotient * denominator) denominator = quotient := by
  simp [roundDiv, Nat.mul_mod_left, Nat.mul_div_cancel _ hpos, hpos]

end Invoicing
