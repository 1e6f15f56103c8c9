import Invoicing.Json.Basic
import Invoicing.Binary64.Shortest

/-!
# Writing JSON

A value is written in one line without white space.  Quotes, backslashes and control
characters of a string are escaped; all other characters stand for themselves.
-/

namespace Invoicing.Json

/-- The hexadecimal digit of a number below sixteen. -/
def hexChar (digit : Nat) : Char := Nat.digitChar digit

/-- A character inside a string. -/
def escapeChar (char : Char) : Text :=
  if char == '"' then ['\\', '"']
  else if char == '\\' then ['\\', '\\']
  else if char.toNat < 0x20 then
    ['\\', 'u', '0', '0', hexChar (char.toNat / 16), hexChar (char.toNat % 16)]
  else [char]

/-- A string with its quotes. -/
def quoted (text : Text) : Text := '"' :: (text.flatMap escapeChar ++ ['"'])

/-- A number. -/
def numberText : JsonNumber → Text
  | .whole value => Text.ofInt value
  | .real value => value.text .compact

/-- Texts with a separator between them. -/
def separated (separator : Char) : List Text → Text
  | [] => []
  | [text] => text
  | text :: rest => text ++ (separator :: separated separator rest)

mutual

/-- A value as it is written. -/
def text : Json → Text
  | .null => "null".toList
  | .bool true => "true".toList
  | .bool false => "false".toList
  | .number numeral => numberText numeral
  | .string content => quoted content
  | .array items => '[' :: (separated ',' (itemTexts items) ++ [']'])
  | .object members => '{' :: (separated ',' (memberTexts members) ++ ['}'])

/-- The items of an array, each as it is written. -/
def itemTexts : List Json → List Text
  | [] => []
  | item :: rest => text item :: itemTexts rest

/-- The members of an object, each as it is written. -/
def memberTexts : List (Text × Json) → List Text
  | [] => []
  | (name, value) :: rest => (quoted name ++ (':' :: text value)) :: memberTexts rest

end

end Invoicing.Json
