import Invoicing.Text.Basic

/-!
# Numerals

Natural and whole numbers are written in decimal digits, the most significant
digit first and without superfluous zeros.  `digitsValue` reads a run of digits
back; `digitsValue_ofNat` says that it undoes `ofNat`.
-/

namespace Invoicing.Text

/-- The decimal digits of a natural number. -/
def ofNat (number : Nat) : Text := Nat.toDigits 10 number

/-- A minus sign for a negative number, then the digits of its magnitude. -/
def ofInt (number : Int) : Text :=
  if number < 0 then '-' :: ofNat number.natAbs else ofNat number.natAbs

/-- The number that a run of decimal digits denotes; leading zeros do not count. -/
def digitsValue (digits : Text) : Nat := Nat.ofDigitChars 10 digits 0

theorem digitsValue_ofNat (number : Nat) : digitsValue (ofNat number) = number :=
  Nat.ofDigitChars_toDigits (by decide) (by decide)

/-- Digits brought to a width by zeros in front of them. -/
def zeroPadded (width : Nat) (digits : Text) : Text :=
  List.replicate (width - digits.length) '0' ++ digits

/-- A non-empty run of decimal digits, read as a number. -/
def readDigits? (text : Text) : Option Nat :=
  if text.isEmpty || !text.all Char.isDigit then none else some (digitsValue text)

end Invoicing.Text
