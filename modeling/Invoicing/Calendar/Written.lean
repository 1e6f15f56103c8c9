import Invoicing.Calendar.Date
import Invoicing.Text.Blank
import Invoicing.Text.Numeral

/-!
# Dates as text

A date has two written forms: the one that records keep (`2025-01-05`), which can be
read back, and the one that an invoice shows (`Jan 05, 2025`).  Years outside 0 to 9999
carry a sign.
-/

namespace Invoicing.Date

/-- A year in at least four digits, with a sign outside 0 to 9999. -/
def yearText (year : Int) : Text :=
  let digits := Text.zeroPadded 4 (Text.ofNat year.natAbs)
  if year < 0 then '-' :: digits
  else if year ≤ 9999 then digits
  else '+' :: digits

/-- A number in at least two digits. -/
def twoDigits (number : Nat) : Text := Text.zeroPadded 2 (Text.ofNat number)

/-- The date as records keep it. -/
def text (date : Date) : Text :=
  yearText date.year ++ ('-' :: (twoDigits date.month ++ ('-' :: twoDigits date.day)))

/-- The short name of a month. -/
def monthName : Nat → Text
  | 1 => "Jan".toList
  | 2 => "Feb".toList
  | 3 => "Mar".toList
  | 4 => "Apr".toList
  | 5 => "May".toList
  | 6 => "Jun".toList
  | 7 => "Jul".toList
  | 8 => "Aug".toList
  | 9 => "Sep".toList
  | 10 => "Oct".toList
  | 11 => "Nov".toList
  | _ => "Dec".toList

/-- The date as an invoice shows it. -/
def shortText (date : Date) : Text :=
  monthName date.month ++
    (' ' :: (twoDigits date.day ++ (", ".toList ++ yearText date.year)))

/-! ### Reading -/

/-- At most so many digits off the start of a text, at least one, and the rest. -/
def readDigits? (most : Nat) (text : Text) : Option (Nat × Text) := do
  let digits := (text.takeWhile Char.isDigit).take most
  let number ← Text.readDigits? digits
  return (number, text.drop digits.length)

/-- A year: up to four digits, or a sign and any number of digits. -/
def readYear? : Text → Option (Int × Text)
  | '-' :: rest => (readDigits? rest.length rest).map fun (year, rest) => (-(year : Int), rest)
  | '+' :: rest => (readDigits? rest.length rest).map fun (year, rest) => ((year : Int), rest)
  | text => (readDigits? 4 text).map fun (year, rest) => ((year : Int), rest)

/-- A hyphen with white space around it, off the start of a text. -/
def readHyphen? (text : Text) : Option Text :=
  match Text.trimStart text with
  | '-' :: rest => some (Text.trimStart rest)
  | _ => none

/-- The date that a text denotes: year, month and day with hyphens between them, and
white space anywhere but inside a number. -/
def read? (text : Text) : Option Date := do
  let (year, rest) ← readYear? (Text.trimStart text)
  let (month, rest) ← readHyphen? rest >>= readDigits? 2
  let (day, rest) ← readHyphen? rest >>= readDigits? 2
  guard (Text.isBlank rest)
  of? year month day

end Invoicing.Date
