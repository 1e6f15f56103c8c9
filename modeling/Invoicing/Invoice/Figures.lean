import Invoicing.Decimal.Numeral

/-!
# Figures on an invoice

Every figure is rounded to two places, a half away from zero.  Money has the currency
symbol in front, commas between groups of three digits, and two places; rates and
quantities drop the zeros at the end.
-/

namespace Invoicing.Figure

/-- The value in cents. -/
def rounded (number : Decimal) : Decimal := number.roundTo 2 .up

/-- Digits with a comma before each group of three, counted from the right. -/
def grouped : Text → Text
  | [] => []
  | digit :: rest =>
      if rest.length % 3 = 0 && !rest.isEmpty then digit :: ',' :: grouped rest
      else digit :: grouped rest

/-- An amount of money.  Places are filled up to two as far as the magnitude has
room, and a number without a point gets two zeros. -/
def currency (symbol : Text) (amount : Decimal) : Text :=
  let numeral := ((rounded amount).abs.extendTo 2).text
  let cents := match numeral.dropWhile (· ≠ '.') with
    | _ :: places => places
    | [] => ['0', '0']
  let sign := if (rounded amount).isNegative then ['-'] else []
  sign ++ (symbol ++ (grouped (numeral.takeWhile (· ≠ '.')) ++ ('.' :: cents)))

/-- A rate or a quantity. -/
def trimmed (number : Decimal) : Text := (rounded number).normalized.text

end Invoicing.Figure
