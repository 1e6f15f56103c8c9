import Invoicing.Invoice.Totals
import Invoicing.Proofs.Decimal.Percent

/-!
# The tax, rounded twice

The tax is a hundredth of the product of the subtotal and the rate, rounded to cents with a half
away from zero.  But the hundredth part is rounded already, to 28 places, and so a tax that is
short of half a cent can become one cent.

Main statement: `Invoice.value_taxAmount`.  As long as the product can be written, the tax is the
exact one rounded to cents, unless that one is short of half a cent by at most half a unit of the
last place; then it is a cent more, away from zero.  A product of 26 places or fewer is never so
close, so it takes an odd price or rate to see the difference (`Invoice.almostHalfCent`).
-/

namespace Invoicing

open Decimal

/-- A number of at most 26 places reaches a half or keeps a unit of its last place away. -/
theorem Decimal.not_isShortOfHalf {decimal : Decimal} (hscale : decimal.scale ≤ 26) :
    ¬ IsShortOfHalf decimal.value := by
  rintro ⟨hlow, hhigh⟩
  obtain ⟨more, hmore⟩ := Nat.exists_eq_add_of_le hscale
  have hten := ten_pow_pos decimal.scale
  have hwhole : |decimal.value| * 10 ^ 26 = (|decimal.coefficient| * 10 ^ more : ℤ) := by
    rw [value, abs_div, abs_of_pos hten, hmore, pow_add, ← mul_assoc, div_mul_cancel₀ _ hten.ne']
    push_cast
    rfl
  -- in units of the twenty-sixth place the part behind the point is a whole number
  have hunits : Int.fract |decimal.value| * 10 ^ 26 =
      (|decimal.coefficient| * 10 ^ more - ⌊|decimal.value|⌋ * 10 ^ 26 : ℤ) := by
    rw [Int.fract, sub_mul, hwhole]
    push_cast
    rfl
  have hlt : (|decimal.coefficient| * 10 ^ more - ⌊|decimal.value|⌋ * 10 ^ 26 : ℤ) <
      5 * 10 ^ 25 := by
    rw [← @Int.cast_lt ℚ, ← hunits]
    push_cast
    linarith
  have hge : (5 * 10 ^ 25 - 1 : ℤ) <
      |decimal.coefficient| * 10 ^ more - ⌊|decimal.value|⌋ * 10 ^ 26 := by
    rw [← @Int.cast_lt ℚ, ← hunits]
    push_cast
    linarith
  omega

namespace Invoice

/-- The tax before it is rounded. -/
def exactTax (invoice : Invoice) : ℚ := invoice.subtotal.value * invoice.taxRate.value / 100

/-! ### Almost half a cent -/

/-- An invoice over 31 units at less than a third of a cent each, with a tax of six percent. -/
def almostHalfCent : Invoice where
  id := "R-2".toList
  customerId := "C-1".toList
  issueDate := ⟨2023, 5, 1, by decide⟩
  dueDate := ⟨2023, 5, 31, by decide⟩
  lineItems := [⟨"Current".toList, .ofNat 31,
    ⟨false, 2688172043010752688172043, 27, by decide, by decide⟩⟩]
  taxRate := .ofNat 6
  amountPaid := .zero
  notes := none
  status := .pending

theorem subtotal_almostHalfCent : almostHalfCent.subtotal =
    ⟨false, 83333333333333333333333333, 27, by decide, by decide⟩ := by decide +kernel

theorem taxAmount_almostHalfCent :
    almostHalfCent.taxAmount = ⟨false, 1, 2, by decide, by decide⟩ := by decide +kernel

theorem value_product_almostHalfCent :
    (⟨false, 499999999999999999999999998, 27, by decide, by decide⟩ : Decimal).value =
      almostHalfCent.subtotal.value * almostHalfCent.taxRate.value := by
  have hrate : almostHalfCent.taxRate = ⟨false, 6, 0, by decide, by decide⟩ := by decide
  rw [subtotal_almostHalfCent, hrate, value, value, value, coefficient, coefficient, coefficient]
  norm_num

theorem exactTax_almostHalfCent :
    almostHalfCent.exactTax * 100 = 499999999999999999999999998 / 10 ^ 27 := by
  rw [exactTax, ← value_product_almostHalfCent, value, coefficient]
  norm_num

theorem nearest_exactTax_almostHalfCent : nearest (almostHalfCent.exactTax * 100) = 0 := by
  rw [exactTax_almostHalfCent, nearest_of_nonneg (by norm_num), round_eq, Int.floor_eq_zero_iff]
  norm_num

/-! ### The tax of an invoice -/

/-- **The tax is the exact one, rounded to cents,** unless that one is short of half a cent. -/
theorem value_taxAmount (invoice : Invoice) {product : Decimal}
    (hproduct : product.value = invoice.subtotal.value * invoice.taxRate.value) :
    (invoice.taxAmount.value = nearest (invoice.exactTax * 100) / 100 ↔
      ¬ IsShortOfHalf (invoice.exactTax * 100)) ∧
    (IsShortOfHalf (invoice.exactTax * 100) → invoice.taxAmount.value =
      (nearest (invoice.exactTax * 100) + SignType.sign (invoice.exactTax * 100) : ℤ) / 100) ∧
    (product.scale ≤ 26 → ¬ IsShortOfHalf (invoice.exactTax * 100)) := by
  have hcents : invoice.exactTax * 100 = product.value := by
    rw [exactTax, hproduct, div_mul_cancel₀]
    norm_num
  have hexact : (invoice.subtotal.mul invoice.taxRate).value = product.value :=
    (value_mul hproduct).trans hproduct.symm
  obtain ⟨whole, hwhole, hpercent⟩ := exists_value_percent (invoice.subtotal.mul invoice.taxRate)
  rw [hexact] at hwhole
  have htax : invoice.taxAmount.value = nearest (whole / 10 ^ 26 : ℚ) / 100 := by
    have hplaces : (10 : ℚ) ^ 2 = 100 := by norm_num
    have hshift : (whole / 10 ^ 28 * 100 : ℚ) = whole / 10 ^ 26 := by
      field_simp
      norm_num
    rw [taxAmount, value_roundTo_up, hpercent, hplaces, hshift]
  obtain ⟨hfar, hshort⟩ := nearest_of_isNearestEven hwhole
  rw [hcents, htax]
  refine ⟨⟨?_, ?_⟩, ?_, not_isShortOfHalf⟩
  · intro hequal hclose
    rw [div_left_inj' (by norm_num), Int.cast_inj, hshort hclose, add_eq_left] at hequal
    exact hclose.sign_ne_zero hequal
  · intro h
    rw [hfar h]
  · intro h
    rw [hshort h]

/-- A tax of less than half a cent becomes a cent. -/
theorem not_value_taxAmount_eq_nearest :
    ¬ ∀ (invoice : Invoice) (product : Decimal),
      product.value = invoice.subtotal.value * invoice.taxRate.value →
        invoice.taxAmount.value = nearest (invoice.exactTax * 100) / 100 := by
  intro hclaim
  have htax := hclaim almostHalfCent _ value_product_almostHalfCent
  rw [nearest_exactTax_almostHalfCent, taxAmount_almostHalfCent, value, coefficient] at htax
  norm_num at htax

theorem value_taxAmount_almostHalfCent :
    (⟨false, 499999999999999999999999998, 27, by decide, by decide⟩ : Decimal).value =
        almostHalfCent.subtotal.value * almostHalfCent.taxRate.value ∧
      IsShortOfHalf (almostHalfCent.exactTax * 100) ∧
      almostHalfCent.taxAmount.value ≠ nearest (almostHalfCent.exactTax * 100) / 100 ∧
      almostHalfCent.taxAmount.value =
        (nearest (almostHalfCent.exactTax * 100) +
          SignType.sign (almostHalfCent.exactTax * 100) : ℤ) / 100 := by
  have hshort : IsShortOfHalf (almostHalfCent.exactTax * 100) := by
    have hfract : Int.fract (|almostHalfCent.exactTax * 100|) =
        499999999999999999999999998 / 10 ^ 27 := by
      rw [exactTax_almostHalfCent, abs_of_pos (by norm_num), Int.fract_eq_self]
      norm_num
    rw [IsShortOfHalf, hfract]
    norm_num
  obtain ⟨hequal, hshown, -⟩ := value_taxAmount almostHalfCent value_product_almostHalfCent
  exact ⟨value_product_almostHalfCent, hshort, fun h => hequal.mp h hshort, hshown hshort⟩

end Invoice

end Invoicing
