import Invoicing.Rounding

/-!
# Double-precision numbers

A finite number of the binary64 format is a sign and `significand * 2 ^ exponent`,
in the one form that the format stores.  All arithmetic is on natural numbers:
`nearest?` rounds a quotient to the format, a tie to the even significand, and
`ofScientific?` reads a significand with a power of ten.
-/

namespace Invoicing

/-- The least exponent of the format. -/
def Binary64.minExponent : Int := -1074

/-- The greatest exponent of the format. -/
def Binary64.maxExponent : Int := 971

/-- A finite number of the binary64 format. -/
structure Binary64 where
  /-- Whether the sign is a minus; zero has both signs. -/
  negative : Bool
  /-- The whole number that the power of two scales. -/
  significand : Nat
  /-- The exponent of two. -/
  exponent : Int
  /-- The significand has at most 53 bits. -/
  significand_lt : significand < 2 ^ 53
  /-- The exponent is in the range of the format. -/
  exponent_mem : Binary64.minExponent ≤ exponent ∧ exponent ≤ Binary64.maxExponent
  /-- All 53 bits are used, down to the least exponent. -/
  canonical : 2 ^ 52 ≤ significand ∨ exponent = Binary64.minExponent
  deriving DecidableEq, Repr

namespace Binary64

/-- The number with these parts, if they are the stored form of one. -/
def of? (negative : Bool) (significand : Nat) (exponent : Int) : Option Binary64 :=
  if h : significand < 2 ^ 53 ∧ (minExponent ≤ exponent ∧ exponent ≤ maxExponent) ∧
      (2 ^ 52 ≤ significand ∨ exponent = minExponent) then
    some ⟨negative, significand, exponent, h.1, h.2.1, h.2.2⟩
  else none

/-- Zero with a sign. -/
def zero (negative : Bool) : Binary64 :=
  ⟨negative, 0, minExponent, by decide, by decide, by decide⟩

/-- Whether the value is zero. -/
def isZero (number : Binary64) : Bool := number.significand == 0

/-- The magnitude as a quotient; the denominator is a power of two. -/
def numerator (number : Binary64) : Nat := number.significand * 2 ^ number.exponent.toNat

/-- The denominator to `numerator`. -/
def denominator (number : Binary64) : Nat := 2 ^ (-number.exponent).toNat

/-- `numerator / (denominator * 2 ^ exponent)`, rounded to a whole number. -/
def significandAt (numerator denominator : Nat) (exponent : Int) : Nat :=
  roundDiv .toEven (numerator * 2 ^ (-exponent).toNat) (denominator * 2 ^ exponent.toNat)

/-- The number of the format nearest to a quotient, or none when the quotient is too
large.  The binary logarithms of its parts give an exponent that is at most two too
small. -/
def nearest? (negative : Bool) (numerator denominator : Nat) : Option Binary64 :=
  if numerator = 0 then some (zero negative)
  else
    let logarithm : Int := (numerator.log2 : Int) - (denominator.log2 : Int)
    let least := max minExponent (logarithm - 53)
    [least, least + 1, least + 2].findSome? fun exponent =>
      of? negative (significandAt numerator denominator exponent) exponent

/-- The power of ten nearest in the format. -/
def powerOfTen? (exponent : Nat) : Option Binary64 := nearest? false (10 ^ exponent) 1

/-- The greatest power of ten in the format. -/
def maxPowerOfTen : Nat := 308

/-- The product, rounded. -/
def mul? (first second : Binary64) : Option Binary64 :=
  nearest? (first.negative ^^ second.negative) (first.numerator * second.numerator)
    (first.denominator * second.denominator)

/-- The quotient by a number that is not zero, rounded. -/
def div? (first second : Binary64) : Option Binary64 :=
  nearest? (first.negative ^^ second.negative) (first.numerator * second.denominator)
    (first.denominator * second.numerator)

/-- The number divided by a power of ten.  A power beyond the format is divided by in
steps of the greatest one. -/
def divPowerOfTen? (number : Binary64) (exponent : Nat) : Option Binary64 :=
  if number.isZero then some number
  else if exponent ≤ maxPowerOfTen then powerOfTen? exponent >>= number.div?
  else powerOfTen? maxPowerOfTen >>= number.div? >>= fun smaller =>
    divPowerOfTen? smaller (exponent - maxPowerOfTen)
termination_by exponent
decreasing_by simp only [maxPowerOfTen] at *; omega

/-- The number that `significand * 10 ^ exponent` is read as: the significand is
rounded to the format, then the power of ten, then their product or quotient.  None
when the result is too large for the format. -/
def ofScientific? (negative : Bool) (significand : Nat) (exponent : Int) : Option Binary64 := do
  let whole ← nearest? negative significand 1
  if exponent < 0 then
    whole.divPowerOfTen? exponent.natAbs
  else if exponent.toNat ≤ maxPowerOfTen then
    powerOfTen? exponent.toNat >>= whole.mul?
  else if whole.isZero then some whole
  else none

end Binary64

end Invoicing
