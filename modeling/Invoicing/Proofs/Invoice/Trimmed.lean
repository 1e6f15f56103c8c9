import Invoicing.Proofs.Decimal.Digits
import Invoicing.Proofs.Invoice.Figures

/-!
# Rates and quantities

A rate or a quantity is written without zeros at the end, so its figure is the only one for its
value: `Figure.trimmed_canonical`.  The same number may come with any number of places and may still
have to be rounded; all this is gone once the decimal has the fewest places, which its value
determines (`Decimal.normalized_eq_iff`).
-/

namespace Invoicing.Figure

open Text

/-! ## The decimal that is written -/

/-- What a trimmed figure shows: the number in cents, with the fewest places. -/
def least (number : Decimal) : Decimal := (rounded number).normalized

theorem value_least (number : Decimal) : (least number).value = (rounded number).value :=
  Decimal.value_normalized (rounded number)

theorem scale_least_le (number : Decimal) : (least number).scale ≤ 2 :=
  (Decimal.scale_normalized_le (rounded number)).trans (Decimal.scale_roundTo_le 2 .up number)

theorem magnitude_least_ne_zero {number : Decimal} (h : (least number).negative) :
    (least number).magnitude ≠ 0 :=
  Decimal.magnitude_normalized_ne_zero h

theorem negative_least_iff (number : Decimal) :
    (least number).negative ↔ nearest (number.value * 100) < 0 := by
  rw [Decimal.negative_iff magnitude_least_ne_zero, value_least, value_rounded_neg_iff]

/-- A figure is read back as the decimal that it shows. -/
theorem read?_trimmed (number : Decimal) : Decimal.read? (trimmed number) = some (least number) :=
  Decimal.read?_text magnitude_least_ne_zero

theorem trimmed_eq_iff {first second : Decimal} : trimmed first = trimmed second ↔
    nearest (first.value * 100) = nearest (second.value * 100) := by
  rw [← value_rounded_eq_iff, ← Decimal.normalized_eq_iff, ← least, ← least]
  constructor
  · intro hsame
    have hread := read?_trimmed first
    rw [hsame, read?_trimmed] at hread
    exact (Option.some.inj hread).symm
  · intro hleast
    exact congrArg Decimal.text hleast

/-! ## The figure -/

/-- The places that are left do not end in a zero. -/
theorem getLast?_placeDigits_least (number : Decimal) :
    (least number).placeDigits.getLast? ≠ some '0' := by
  by_cases hscale : (least number).scale = 0
  · rw [(least number).placeDigits_eq_nil_iff.mpr hscale]
    exact nofun
  · have hlast := Decimal.magnitude_normalized_mod_ten hscale
    rw [Decimal.getLast?_placeDigits _ hscale, ne_eq, Option.some.injEq]
    exact digitChar_ne_zero _ (Nat.mod_lt _ (by decide)) hlast

/-- **A rate or a quantity has one figure for its value in cents.** -/
theorem trimmed_canonical (number : Decimal) :
    (∃ whole fraction : Text,
      trimmed number = (if nearest (number.value * 100) < 0 then ['-'] else []) ++
        (whole ++ if fraction = [] then [] else '.' :: fraction) ∧
      IsNumeral whole ∧
      fraction.length ≤ 2 ∧ (∀ char ∈ fraction, char.isDigit) ∧ fraction.getLast? ≠ some '0' ∧
      (digitsValue whole + digitsValue fraction / 10 ^ fraction.length : ℚ) =
        |(nearest (number.value * 100) : ℚ)| / 100) ∧
    (trimmed number = ['0'] ↔ nearest (number.value * 100) = 0) ∧
    (∃ read, Decimal.read? (trimmed number) = some read ∧
      read.value = nearest (number.value * 100) / 100) ∧
    ∀ other : Decimal, trimmed number = trimmed other ↔
      nearest (number.value * 100) = nearest (other.value * 100) := by
  refine ⟨⟨(least number).wholeDigits, (least number).placeDigits, ?_,
    (least number).isNumeral_wholeDigits, ?_, fun _ => (least number).isDigit_of_mem_placeDigits,
    getLast?_placeDigits_least number, ?_⟩, ?_, ⟨least number, read?_trimmed number, ?_⟩,
    fun _ => trimmed_eq_iff⟩
  · have htext : trimmed number = (least number).text := rfl
    simp only [htext, Decimal.text_eq, negative_least_iff, Decimal.placeDigits_eq_nil_iff]
  · rw [Decimal.length_placeDigits]
    exact scale_least_le number
  · rw [← Decimal.abs_value_eq_digits, value_least, abs_value_rounded]
  · -- the number zero is written with a single zero
    have hzero : trimmed .zero = ['0'] := by decide +kernel
    have hnearest : nearest (Decimal.zero.value * 100) = 0 := by
      rw [Decimal.value_eq_zero_iff.mpr rfl, zero_mul]
      exact nearest_intCast 0
    rw [← hzero, trimmed_eq_iff, hnearest]
  · rw [value_least, value_rounded]

end Invoicing.Figure
