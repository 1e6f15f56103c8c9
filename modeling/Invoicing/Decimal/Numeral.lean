import Invoicing.Decimal.Basic
import Invoicing.Text.Numeral

/-!
# Decimal numerals

A decimal is written with exactly as many places as its scale says.  A numeral to
read is a sign, digits, a point and digits, where underscores may follow the first
digit and one side of the point may be empty; places that do not fit are rounded
on the first of them.  A numeral may carry an exponent of ten; one that pushes all
digits of a negative number out leaves a zero with a minus sign.
-/

namespace Invoicing.Decimal

/-- The decimal as a numeral, with a digit before the point and `scale` after it. -/
def text (decimal : Decimal) : Text :=
  let digits := Text.zeroPadded (decimal.scale + 1) (Text.ofNat decimal.magnitude)
  let whole := digits.take (digits.length - decimal.scale)
  let places := digits.drop (digits.length - decimal.scale)
  let sign := if decimal.negative then ['-'] else []
  sign ++ (whole ++ (if decimal.scale = 0 then [] else '.' :: places))

/-- A magnitude below this one has room in 64 bits for a digit more. -/
def shortLimit : Nat := (2 ^ 64 - 1) / 10 - 255

theorem mul_ten_add_lt_of_lt_shortLimit {magnitude digit : Nat} (h : magnitude < shortLimit)
    (hdigit : digit < 10) : magnitude * 10 + digit < 2 ^ 64 := by
  have hlimit : shortLimit = 1844674407370954906 := by decide
  omega

/-- The digits after the point, read onto the digits before it.  The first place that
has no room ends the reading: it rounds the number up from five on.  Underscores are
passed over, but one that follows the last place of a short number stands for a zero
there; a number is short when its digits before that place stay below `shortLimit`. -/
def readPlaces? (magnitude scale : Nat) : Text → Option (Nat × Nat)
  | [] => some (magnitude, scale)
  | char :: rest =>
      if char = '_' then
        if scale = maxScale && magnitude / 10 < shortLimit then some (magnitude, scale)
        else readPlaces? magnitude scale rest
      else
        let longer := Nat.ofDigitChars 10 [char] magnitude
        if scale < maxScale && longer < magnitudeLimit then readPlaces? longer (scale + 1) rest
        else if char < '5' then some (magnitude, scale)
        else if magnitude + 1 < magnitudeLimit then some (magnitude + 1, scale)
        else if scale = 0 then none
        else some ((magnitude + 5) / 10, scale - 1)

/-- The sign at the start of a numeral, as whether it is a minus, and the rest. -/
def readSign : Text → Bool × Text
  | '-' :: rest => (true, rest)
  | '+' :: rest => (false, rest)
  | text => (false, text)

/-- A numeral without an exponent. -/
def readPositional? (text : Text) : Option Decimal := do
  let (negative, body) := readSign text
  let whole := body.takeWhile (· ≠ '.')
  let places := (body.dropWhile (· ≠ '.')).drop 1
  guard ((whole ++ places).all fun char => char.isDigit || char == '_')
  guard ((whole ++ places).head?.any Char.isDigit)
  let wholeMagnitude := Text.digitsValue (whole.filter Char.isDigit)
  guard (wholeMagnitude < magnitudeLimit)
  let (magnitude, scale) ← readPlaces? wholeMagnitude 0 places
  of? (if negative then -magnitude else magnitude) scale

/-- An exponent: a minus sign or none, a plus sign or none, then digits. -/
def readExponent? (text : Text) : Option (Bool × Nat) := do
  let (negative, unsigned) := match text with
    | '-' :: rest => (true, rest)
    | rest => (false, rest)
  let digits := match unsigned with
    | '+' :: rest => rest
    | rest => rest
  let magnitude ← Text.readDigits? digits
  return (negative, magnitude)

/-- The decimal times a power of ten.  Places that a negative exponent pushes out are
rounded first, a half away from zero, and the sign stays even when no digit does. -/
def shift? (decimal : Decimal) (negative : Bool) (exponent : Nat) : Option Decimal :=
  if negative then
    if maxScale < exponent then none
    else if maxScale < decimal.scale + exponent then
      (decimal.roundTo (maxScale - exponent) .up).withScale? maxScale
    else decimal.withScale? (decimal.scale + exponent)
  else if exponent ≤ decimal.scale then decimal.withScale? (decimal.scale - exponent)
  else if maxScale < exponent then none
  else of? (decimal.coefficient * 10 ^ (exponent - decimal.scale)) 0

/-- A numeral with an exponent. -/
def readScientific? (text : Text) : Option Decimal := do
  let isMark (char : Char) : Bool := char == 'e' || char == 'E'
  let base ← readPositional? (text.takeWhile fun char => !isMark char)
  match text.dropWhile fun char => !isMark char with
  | _ :: exponentText =>
      let (negative, exponent) ← readExponent? exponentText
      base.shift? negative exponent
  | [] => none

/-- The decimal that a numeral denotes. -/
def read? (text : Text) : Option Decimal := readPositional? text <|> readScientific? text

end Invoicing.Decimal
