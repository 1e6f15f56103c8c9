import Invoicing.Decimal.Basic

/-!
# Arithmetic that saturates

Sums, differences and products are first taken exactly.  A result with too many
digits or places loses the fewest last digits that make it fit, in one rounding
where a tie goes to the even neighbour.  A result too large even without places
becomes the largest decimal of its sign, so no operation fails.  A result of zero has no
sign, unless it is an operand that is passed on.

A sum and a product that fit have the places that their operands give them, zeros at the
end included.  A hundredth part keeps the places of its operand if it needs no more of
them, and has as few as it needs otherwise.
-/

namespace Invoicing.Decimal

/-- The decimal nearest to `coefficient / 10 ^ scale` that keeps as many places as
fit, or none when even the whole number is too large. -/
def fit? (coefficient : Int) (scale : Nat) : Option Decimal :=
  (List.range (scale + 1)).findSome? fun count =>
    of? (dropDigits .toEven coefficient count) (scale - count)

/-- The coefficient and the scale of a decimal fit, so its value is kept with its scale. -/
theorem fit?_of_fits {decimal : Decimal} (hsign : decimal.negative → decimal.magnitude ≠ 0) :
    fit? decimal.coefficient decimal.scale = some decimal := by
  simp [fit?, List.range_succ_eq_map, of?_coefficient_scale hsign]

/-- The decimal nearest to `coefficient / 10 ^ scale`, or the largest one of its sign. -/
def saturate (coefficient : Int) (scale : Nat) : Decimal :=
  (fit? coefficient scale).getD (if coefficient < 0 then largest.neg else largest)

/-- The sum.  A zero adds nothing, not even its places. -/
def add (first second : Decimal) : Decimal :=
  if first.isZero then second
  else if second.isZero then first
  else
    let scale := max first.scale second.scale
    saturate
      (first.coefficient * 10 ^ (scale - first.scale) +
        second.coefficient * 10 ^ (scale - second.scale)) scale

/-- The difference. -/
def sub (first second : Decimal) : Decimal := first.add second.neg

/-- The product. -/
def mul (first second : Decimal) : Decimal :=
  if first.isZero || second.isZero then zero
  else saturate (first.coefficient * second.coefficient) (first.scale + second.scale)

/-- The hundredth part, with as many places as before if the last two digits are zeros. -/
def percent (decimal : Decimal) : Decimal :=
  if decimal.isZero then zero
  else if decimal.magnitude % 100 = 0 then
    { decimal with
      magnitude := decimal.magnitude / 100
      magnitude_lt := Nat.lt_of_le_of_lt (Nat.div_le_self ..) decimal.magnitude_lt }
  else (saturate decimal.coefficient (decimal.scale + 2)).normalized

end Invoicing.Decimal
