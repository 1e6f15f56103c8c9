import Invoicing.Binary64.Basic
import Invoicing.Text.Numeral

/-!
# The shortest decimal form of a double-precision number

Every number of the format is the nearest one to a whole interval of reals.  Its
shortest digits are the fewest with which a decimal lies in that interval; of two
such decimals the nearer one is taken, and an exact tie is left to the format that
writes the digits.

A `NumeralStyle` says how the digits are then laid out.
-/

namespace Invoicing

namespace Binary64

/-- Four times the magnitude and the two ends of the interval that rounds to it, as
numerators over one denominator.  The lower end is nearer where the spacing of the
format changes. -/
structure Interval where
  /-- The lower end. -/
  low : Nat
  /-- The number. -/
  middle : Nat
  /-- The upper end. -/
  high : Nat
  /-- The denominator of all three. -/
  denominator : Nat
  /-- Whether the ends belong to the interval. -/
  closed : Bool

/-- The interval of a number that is not zero. -/
def interval (number : Binary64) : Interval :=
  let unit := 2 ^ number.exponent.toNat
  let below := if number.significand = 2 ^ 52 ∧ number.exponent ≠ minExponent then 1 else 2
  { low := (4 * number.significand - below) * unit
    middle := 4 * number.significand * unit
    high := (4 * number.significand + 2) * unit
    denominator := 4 * number.denominator
    closed := number.significand % 2 == 0 }

/-- The point of the decimal grid with step `10 ^ exponent` that stands for a number
in an interval: the nearer of the two around the middle, if it lies inside. -/
def Interval.gridPoint? (interval : Interval) (tie : Tie) (exponent : Int) : Option Nat :=
  let scale := 10 ^ (-exponent).toNat
  let step := interval.denominator * 10 ^ exponent.toNat
  let inside (point : Nat) : Bool :=
    if interval.closed then
      interval.low * scale ≤ point * step && point * step ≤ interval.high * scale
    else
      interval.low * scale < point * step && point * step < interval.high * scale
  let nearest := roundDiv tie (interval.middle * scale) step
  let below := interval.middle * scale / step
  [nearest, below, below + 1].find? fun point => 0 < point && inside point

/-- The exponent of a grid too coarse for more than one digit. -/
def Interval.topExponent (interval : Interval) : Int :=
  if interval.denominator ≤ interval.middle then
    ((Text.ofNat (interval.middle / interval.denominator)).length : Int) - 1
  else
    1 - ((Text.ofNat (interval.denominator / interval.middle)).length : Int)

/-- A number that is not zero as a whole number times a power of ten, in the fewest
digits.  Seventeen digits always suffice, so the grids run out for no number. -/
def shortest (number : Binary64) (tie : Tie) : Nat × Int :=
  let interval := number.interval
  let top := interval.topExponent
  let found := (List.range 18).findSome? fun (finer : Nat) =>
    (interval.gridPoint? tie (top - finer)).map fun point => (point, top - (finer : Int))
  found.getD (0, 0)

end Binary64

/-- How the digits of a number are laid out. -/
structure NumeralStyle where
  /-- Which way the last digit goes when two choices are equally near. -/
  tie : Tie
  /-- Where the point may stand in a numeral without an exponent, counted from the
  first digit; anywhere when there is no limit. -/
  positional : Option (Int × Int)
  /-- Whether a whole number ends in a point and a zero. -/
  pointAlways : Bool

namespace NumeralStyle

/-- Numbers without an exponent, and whole numbers without a point. -/
def plain : NumeralStyle := ⟨.up, none, false⟩

/-- Numbers from a hundred-thousandth to below `10 ^ 16` without an exponent and with a
point, all others with an exponent. -/
def compact : NumeralStyle := ⟨.toEven, some (-4, 16), true⟩

end NumeralStyle

namespace Binary64

/-- Digits with a point after the first `point` of them, filled up with zeros. -/
def layPositional (style : NumeralStyle) (digits : Text) (point : Int) : Text :=
  if point ≤ 0 then
    ['0', '.'] ++ (List.replicate point.natAbs '0' ++ digits)
  else if digits.length ≤ point.toNat then
    digits ++ (List.replicate (point.toNat - digits.length) '0' ++
      if style.pointAlways then ['.', '0'] else [])
  else digits.take point.toNat ++ ('.' :: digits.drop point.toNat)

/-- Digits with a point after the first of them and an exponent. -/
def layScientific (digits : Text) (point : Int) : Text :=
  let mantissa := match digits with
    | first :: second :: rest => first :: '.' :: second :: rest
    | _ => digits
  mantissa ++ ('e' :: Text.ofInt (point - 1))

/-- The shortest numeral of a number in a style. -/
def text (number : Binary64) (style : NumeralStyle) : Text :=
  let sign := if number.negative then ['-'] else []
  if number.isZero then
    sign ++ ('0' :: if style.pointAlways then ['.', '0'] else [])
  else
    let (point, exponent) := number.shortest style.tie
    let allDigits := Text.ofNat point
    let digits := (allDigits.reverse.dropWhile (· == '0')).reverse
    let place := (allDigits.length : Int) + exponent
    let isPositional := match style.positional with
      | none => true
      | some (least, greatest) => least ≤ place && place ≤ greatest
    sign ++ if isPositional then layPositional style digits place else layScientific digits place

end Binary64

end Invoicing
