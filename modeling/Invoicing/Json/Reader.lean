import Invoicing.Json.Basic
import Invoicing.Text.Numeral

/-!
# Reading JSON

A reader takes a value off the start of a text and returns the rest.  Every value takes
at least one character, so the length of the text bounds how deep and how far the
readers of values go.
-/

namespace Invoicing.Json

/-- The text after the white space of the format at its start. -/
def skipSpace (text : Text) : Text :=
  text.dropWhile fun char => char == ' ' || char == '\t' || char == '\n' || char == '\r'

/-- The number of a hexadecimal digit. -/
def hexDigit? (char : Char) : Option Nat :=
  if '0' ≤ char ∧ char ≤ '9' then some (char.toNat - '0'.toNat)
  else if 'a' ≤ char ∧ char ≤ 'f' then some (char.toNat - 'a'.toNat + 10)
  else if 'A' ≤ char ∧ char ≤ 'F' then some (char.toNat - 'A'.toNat + 10)
  else none

/-- The code unit that four hexadecimal digits stand for. -/
def codeUnit? (first second third fourth : Char) : Option Nat :=
  [first, second, third, fourth].foldlM
    (fun unit char => (hexDigit? char).map (16 * unit + ·)) 0

/-- Whether a code unit is the first half of a surrogate pair. -/
def isHighSurrogate (unit : Nat) : Bool := 0xD800 ≤ unit && unit < 0xDC00

/-- Whether a code unit is the second half of a surrogate pair. -/
def isLowSurrogate (unit : Nat) : Bool := 0xDC00 ≤ unit && unit < 0xE000

/-- The character of a surrogate pair. -/
def pairChar (high low : Nat) : Char :=
  Char.ofNat (0x10000 + (high - 0xD800) * 0x400 + (low - 0xDC00))

/-- The character for a letter after a backslash. -/
def simpleEscape? : Char → Option Char
  | '"' => some '"'
  | '\\' => some '\\'
  | '/' => some '/'
  | 'b' => some '\x08'
  | 'f' => some '\x0C'
  | 'n' => some '\n'
  | 'r' => some '\r'
  | 't' => some '\t'
  | _ => none

/-- The rest of a string after its opening quote, read onto the characters so far,
which stand in reverse.  Half of a surrogate pair alone is no character. -/
def readStringBody? (reversed : Text) : Text → Option (Text × Text)
  | '"' :: rest => some (reversed.reverse, rest)
  | '\\' :: 'u' :: first :: second :: third :: fourth :: rest =>
      match codeUnit? first second third fourth with
      | none => none
      | some unit =>
          if isHighSurrogate unit then
            match rest with
            | '\\' :: 'u' :: first :: second :: third :: fourth :: rest =>
                match codeUnit? first second third fourth with
                | none => none
                | some low =>
                    if isLowSurrogate low then
                      readStringBody? (pairChar unit low :: reversed) rest
                    else none
            | _ => none
          else if isLowSurrogate unit then none
          else readStringBody? (Char.ofNat unit :: reversed) rest
  | '\\' :: letter :: rest =>
      match simpleEscape? letter with
      | none => none
      | some char => readStringBody? (char :: reversed) rest
  | char :: rest =>
      if char.toNat < 0x20 then none else readStringBody? (char :: reversed) rest
  | [] => none

/-- The digits of a significand that fit 64 bits, as a number, and how many more
follow. -/
def significand (digits : Text) : Nat × Nat :=
  go 0 digits
where
  /-- The number so far and the digits to come. -/
  go (number : Nat) : Text → Nat × Nat
    | [] => (number, 0)
    | char :: rest =>
        let longer := Nat.ofDigitChars 10 [char] number
        if longer < 2 ^ 64 then go longer rest else (number, rest.length + 1)

/-- The number with a sign, digits before the point and after it, and an exponent.
Digits of the significand beyond 64 bits count for their places only. -/
def realNumber? (negative : Bool) (whole places : Text) (exponent : Int) : Option JsonNumber := do
  let (leading, dropped) := significand (whole ++ places)
  let number ← Binary64.ofScientific? negative leading (dropped - places.length + exponent)
  return .real number

/-- The number written without point and exponent. -/
def wholeNumber? (negative : Bool) (digits : Text) : Option JsonNumber :=
  let magnitude := Text.digitsValue digits
  if negative then
    if magnitude ≠ 0 && magnitude ≤ 2 ^ 63 then some (.whole (-magnitude))
    else realNumber? negative digits [] 0
  else if magnitude < 2 ^ 64 then some (.whole magnitude)
  else realNumber? negative digits [] 0

/-- An exponent of ten, if one starts here, and the rest. -/
def readExponent? (text : Text) : Option (Option Int × Text) := do
  let digitsOf (rest : Text) : Option (Nat × Text) := do
    let magnitude ← Text.readDigits? (rest.takeWhile Char.isDigit)
    return (magnitude, rest.dropWhile Char.isDigit)
  match text with
  | mark :: rest =>
      if mark == 'e' || mark == 'E' then
        let (negative, unsigned) := match rest with
          | '-' :: rest => (true, rest)
          | '+' :: rest => (false, rest)
          | rest => (false, rest)
        let (magnitude, rest) ← digitsOf unsigned
        return (some (if negative then -(magnitude : Int) else magnitude), rest)
      else return (none, text)
  | [] => return (none, [])

/-- A number, and the rest. -/
def readNumber? (text : Text) : Option (JsonNumber × Text) := do
  let (negative, unsigned) := match text with
    | '-' :: rest => (true, rest)
    | rest => (false, rest)
  let whole := unsigned.takeWhile Char.isDigit
  guard (whole ≠ [] && (whole.length == 1 || whole.head? != some '0'))
  let afterWhole := unsigned.dropWhile Char.isDigit
  let (places, afterPlaces) ← match afterWhole with
    | '.' :: rest =>
        let places := rest.takeWhile Char.isDigit
        if places.isEmpty then none else some (some places, rest.dropWhile Char.isDigit)
    | rest => some (none, rest)
  let (exponent, rest) ← readExponent? afterPlaces
  let number ←
    if places.isNone && exponent.isNone then wholeNumber? negative whole
    else realNumber? negative whole (places.getD []) (exponent.getD 0)
  return (number, rest)

/-- A word of the format off the start of a text. -/
def readWord? (word : String) (value : Json) (text : Text) : Option (Json × Text) :=
  if word.toList.isPrefixOf text then some (value, text.drop word.length) else none

mutual

/-- A value, and the rest.  White space in front is skipped. -/
def readValue? : Nat → Text → Option (Json × Text)
  | 0, _ => none
  | fuel + 1, text =>
      match skipSpace text with
      | '"' :: rest => do
          let (content, rest) ← readStringBody? [] rest
          return (.string content, rest)
      | '[' :: rest =>
          match skipSpace rest with
          | ']' :: rest => some (.array [], rest)
          | rest => do
              let (items, rest) ← readItems? fuel rest
              return (.array items, rest)
      | '{' :: rest =>
          match skipSpace rest with
          | '}' :: rest => some (.object [], rest)
          | rest => do
              let (members, rest) ← readMembers? fuel rest
              return (ofMembers members, rest)
      | 'n' :: rest => readWord? "null" .null ('n' :: rest)
      | 't' :: rest => readWord? "true" (.bool true) ('t' :: rest)
      | 'f' :: rest => readWord? "false" (.bool false) ('f' :: rest)
      | rest => do
          let (numeral, rest) ← readNumber? rest
          return (.number numeral, rest)

/-- The items of an array up to its closing bracket, and the rest. -/
def readItems? : Nat → Text → Option (List Json × Text)
  | 0, _ => none
  | fuel + 1, text => do
      let (item, rest) ← readValue? fuel text
      match skipSpace rest with
      | ',' :: rest =>
          let (items, rest) ← readItems? fuel rest
          return (item :: items, rest)
      | ']' :: rest => return ([item], rest)
      | _ => none

/-- The members of an object up to its closing brace, and the rest. -/
def readMembers? : Nat → Text → Option (List (Text × Json) × Text)
  | 0, _ => none
  | fuel + 1, text =>
      match skipSpace text with
      | '"' :: rest => do
          let (name, rest) ← readStringBody? [] rest
          match skipSpace rest with
          | ':' :: rest =>
              let (value, rest) ← readValue? fuel rest
              match skipSpace rest with
              | ',' :: rest =>
                  let (members, rest) ← readMembers? fuel rest
                  return ((name, value) :: members, rest)
              | '}' :: rest => return ([(name, value)], rest)
              | _ => none
          | _ => none
      | _ => none

end

/-- The value that a whole text is, white space around it apart. -/
def read? (text : Text) : Option Json := do
  let (value, rest) ← readValue? (text.length + 1) text
  guard (skipSpace rest).isEmpty
  return value

end Invoicing.Json
