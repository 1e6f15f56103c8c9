import Invoicing.Proofs.Decimal.Numeral
import Invoicing.Proofs.Decimal.Value

/-!
# The digits of a decimal

What a decimal is written with, looked at as digits: before the point stands a numeral
(`Decimal.isNumeral_wholeDigits`), the last digit after it is the last one of the magnitude
(`Decimal.getLast?_placeDigits`), and together they denote the value without its sign
(`Decimal.abs_value_eq_digits`).
-/

namespace Invoicing

open Text

/-! ## Numerals -/

namespace Text

/-- The digits of a number: at least one, and a zero is in front of no other digit. -/
structure IsNumeral (digits : Text) : Prop where
  /-- A number has a digit. -/
  ne_nil : digits ≠ []
  /-- All characters are digits. -/
  isDigit : ∀ char ∈ digits, char.isDigit
  /-- Only zero starts with a zero. -/
  eq_of_head? : digits.head? = some '0' → digits = ['0']

theorem isNumeral_ofNat (number : ℕ) : IsNumeral (ofNat number) where
  ne_nil := ofNat_ne_nil number
  isDigit _ := isDigit_of_mem_ofNat
  eq_of_head? hzero := by
    by_cases hnumber : number = 0
    · rw [hnumber]
      rfl
    · exact absurd hzero (head?_ofNat_ne_zero hnumber)

/-- Digits at the front of a numeral are a numeral. -/
theorem IsNumeral.take {digits : Text} (h : IsNumeral digits) {count : ℕ} (hcount : 0 < count) :
    IsNumeral (digits.take count) where
  ne_nil hnil := by
    rcases List.take_eq_nil_iff.mp hnil with hzero | hdigits
    · omega
    · exact h.ne_nil hdigits
  isDigit char hchar := h.isDigit char (List.mem_of_mem_take hchar)
  eq_of_head? hzero := by
    rw [List.head?_take, if_neg hcount.ne'] at hzero
    rw [h.eq_of_head? hzero, List.take_of_length_le hcount]

end Text

/-! ## The digits of a decimal -/

namespace Decimal

variable (decimal : Decimal)

/-- No superfluous zero stands before the point. -/
theorem isNumeral_wholeDigits : IsNumeral decimal.wholeDigits := by
  have hlength := length_zeroPadded (decimal.scale + 1) (Text.ofNat decimal.magnitude)
  rw [← digits] at hlength
  by_cases hpadded : (Text.ofNat decimal.magnitude).length ≤ decimal.scale
  · -- a zero was added to stand before the point
    have hwhole : decimal.wholeDigits = ['0'] := by
      have hcount : decimal.digits.length - decimal.scale = 1 := by omega
      rw [wholeDigits, hcount, digits, zeroPadded, Nat.sub_add_comm hpadded, List.replicate_succ]
      rfl
    rw [hwhole]
    exact isNumeral_ofNat 0
  · have hdigits : decimal.digits = Text.ofNat decimal.magnitude := by
      have hcount : decimal.scale + 1 - (Text.ofNat decimal.magnitude).length = 0 := by omega
      rw [digits, zeroPadded, hcount]
      rfl
    have hlt := decimal.scale_lt_length_digits
    rw [wholeDigits, hdigits]
    rw [hdigits] at hlt
    exact (isNumeral_ofNat _).take (by omega)

/-- The last place is the last digit of the magnitude. -/
theorem getLast?_placeDigits (hscale : decimal.scale ≠ 0) :
    decimal.placeDigits.getLast? = some (Nat.digitChar (decimal.magnitude % 10)) := by
  have hlt := decimal.scale_lt_length_digits
  rw [placeDigits, List.getLast?_drop, if_neg (by omega), digits, zeroPadded,
    List.getLast?_append, getLast?_ofNat]
  rfl

/-- The digits denote the value without its sign. -/
theorem abs_value_eq_digits :
    |decimal.value| = digitsValue decimal.wholeDigits +
      digitsValue decimal.placeDigits / 10 ^ decimal.placeDigits.length := by
  have hmagnitude := decimal.ofDigitChars_placeDigits
  rw [Nat.ofDigitChars_eq_ofDigitChars_zero, length_placeDigits] at hmagnitude
  have hcast : (10 ^ decimal.scale * digitsValue decimal.wholeDigits +
      digitsValue decimal.placeDigits : ℚ) = decimal.magnitude := by exact_mod_cast hmagnitude
  rw [length_placeDigits, value, abs_div, abs_of_pos (ten_pow_pos _), ← Int.cast_abs,
    Int.abs_eq_natAbs, natAbs_coefficient, Int.cast_natCast, ← hcast, add_div,
    mul_div_cancel_left₀ _ (ten_pow_pos _).ne']

end Decimal

end Invoicing
