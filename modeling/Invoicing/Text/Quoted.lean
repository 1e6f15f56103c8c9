import Invoicing.Text.Unprintable

/-!
# Quoted texts for diagnostics

A quoted text shows every character: quotes, backslashes and the common control
characters have escapes of one letter, all others without a glyph of their own are
given by their code point.
-/

namespace Invoicing.Text

/-- The code point of a character in hexadecimal, between braces. -/
def codePointEscape (char : Char) : Text :=
  ['\\', 'u', '{'] ++ (Nat.toDigits 16 char.toNat ++ ['}'])

/-- A character inside a quoted text. -/
def quotedChar : Char → Text
  | '"' => ['\\', '"']
  | '\\' => ['\\', '\\']
  | '\n' => ['\\', 'n']
  | '\t' => ['\\', 't']
  | '\r' => ['\\', 'r']
  | '\x00' => ['\\', '0']
  | char => if isUnprintable char then codePointEscape char else [char]

/-- A text between quotes. -/
def quoted (text : Text) : Text := '"' :: (text.flatMap quotedChar ++ ['"'])

end Invoicing.Text
