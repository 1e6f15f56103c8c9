import Invoicing.Invoice.Sample
import Invoicing.Proofs.Invoice.Bindings
import Invoicing.Proofs.Invoice.Figures

/-!
# What the printed totals add up to

An invoice keeps its subtotal and its total unrounded, and a bill shows every figure rounded to
cents.  Two questions come from that.

* Do the printed figures add up?  They do on one side of zero (`Bill.printed_totals_add_up`): the
  subtotal and the total differ by whole cents, since the tax is rounded already, and so do the
  total and the balance when whole cents have been paid.  Rounding commutes with such shifts.
* Does an overdue invoice show something to be paid?  Not always, since a residue below half a cent
  shows as zero (`Invoice.isOverdue_printed`).

The additions themselves can lose digits.  For the first question it is a hypothesis that they do
not (`Decimal.SumFits`); for the second the digits of a residue always fit.
-/

namespace Invoicing

open Decimal

/-! ## The printed figures -/

namespace Bill

/-- The amount that a bill shows under a name, read back. -/
def printed? (bill : Bill) (name : String) : Option Decimal :=
  Figure.read? bill.symbol ((Scope.ofContext bill.context).toText name.toList)

theorem printed?_of_mem {bill : Bill} {name : String} {amount : Decimal}
    (h : (name.toList, .ofText (bill.money amount)) ∈ bill.bindings) :
    ∃ read, bill.printed? name = some read ∧ read.value = nearest (amount.value * 100) / 100 := by
  obtain ⟨read, hread, hvalue⟩ := Figure.read?_currency bill.symbol amount
  refine ⟨read, ?_, hvalue.trans (Figure.value_rounded amount)⟩
  rw [printed?, Scope.toText, bill.lookup?_context_of_mem h]
  exact hread

end Bill

/-! ## Shifts by whole cents -/

section Shift

variable {first shift sum : Decimal} {cents : ℤ}

/-- An amount of whole cents shows as it is. -/
theorem nearest_of_cents (hshift : shift.value = cents / 100) :
    (nearest (shift.value * 100) / 100 : ℚ) = shift.value := by
  have hwhole : shift.value * 100 = cents := by
    rw [hshift]
    ring
  rw [hwhole, nearest_intCast, ← hwhole, mul_div_cancel_right₀]
  norm_num

/-- Rounding to cents commutes with adding whole cents, on one side of zero. -/
theorem nearest_add_cents (hshift : shift.value = cents / 100) (hfirst : 0 ≤ first.value)
    (hsum : 0 ≤ sum.value) (hadd : sum.value = first.value + shift.value) :
    (nearest (sum.value * 100) / 100 : ℚ) = nearest (first.value * 100) / 100 + shift.value := by
  have hscaled : sum.value * 100 = first.value * 100 + cents := by
    rw [hadd, hshift]
    ring
  have hnonneg : 0 ≤ first.value * 100 + cents := by
    rw [← hscaled]
    exact mul_nonneg hsum (by norm_num)
  calc (nearest (sum.value * 100) / 100 : ℚ)
      = nearest (first.value * 100 + cents) / 100 := by rw [hscaled]
    _ = (nearest (first.value * 100) + cents : ℤ) / 100 := by
        rw [nearest_add_intCast (mul_nonneg hfirst (by norm_num)) hnonneg]
    _ = nearest (first.value * 100) / 100 + shift.value := by
        rw [hshift]
        push_cast
        ring

end Shift

namespace Invoice

/-- The tax is rounded to whole cents before it is added. -/
theorem exists_value_taxAmount (invoice : Invoice) :
    ∃ cents : ℤ, invoice.taxAmount.value = cents / 100 := by
  have hplaces : (10 : ℚ) ^ 2 = 100 := by norm_num
  rw [taxAmount, value_roundTo_up, hplaces]
  exact ⟨_, rfl⟩

end Invoice

/-! ## A residue of less than half a cent -/

namespace Invoice

/-- An invoice over 13.004, of which 13 have been paid. -/
def residue : Invoice where
  id := "R-1".toList
  customerId := "C-1".toList
  issueDate := ⟨2024, 1, 1, by decide⟩
  dueDate := ⟨2024, 1, 31, by decide⟩
  lineItems := [⟨"Cable".toList, .ofNat 4, ⟨false, 2501, 3, by decide, by decide⟩⟩]
  taxRate := .ofNat 30
  amountPaid := .ofNat 13
  notes := none
  status := .pending

/-- The day after the residue is due. -/
def dayAfter : Date := ⟨2024, 2, 1, by decide⟩

end Invoice

/-! ## The printed figures add up -/

/-- **The printed totals add up.** -/
theorem Bill.printed_totals_add_up (bill : Bill) {cents : ℤ}
    (hsubtotal : 0 ≤ bill.invoice.subtotal.value) (htotal : 0 ≤ bill.invoice.total.value)
    (hbalance : 0 ≤ bill.invoice.balance.value)
    (hpaid : bill.invoice.amountPaid.value = cents / 100)
    (hsum : SumFits bill.invoice.subtotal bill.invoice.taxAmount)
    (hdifference : SumFits bill.invoice.total bill.invoice.amountPaid.neg) :
    ∃ subtotal tax total paid balance : Decimal,
      (bill.printed? "Subtotal" = some subtotal ∧ bill.printed? "TaxAmount" = some tax ∧
        bill.printed? "Total" = some total ∧ bill.printed? "AmountPaidFormatted" = some paid ∧
        bill.printed? "Balance" = some balance) ∧
      subtotal.value + tax.value = total.value ∧ total.value - paid.value = balance.value := by
  obtain ⟨hmemSubtotal, hmemTax, hmemTotal, hmemPaid, hmemBalance⟩ :
      ("Subtotal".toList, .ofText (bill.money bill.invoice.subtotal)) ∈ bill.bindings ∧
      ("TaxAmount".toList, .ofText (bill.money bill.invoice.taxAmount)) ∈ bill.bindings ∧
      ("Total".toList, .ofText (bill.money bill.invoice.total)) ∈ bill.bindings ∧
      ("AmountPaidFormatted".toList, .ofText (bill.money bill.invoice.amountPaid)) ∈
        bill.bindings ∧
      ("Balance".toList, .ofText (bill.money bill.invoice.balance)) ∈ bill.bindings := by
    simp only [bindings, List.mem_cons, true_or, or_true, and_self]
  obtain ⟨subtotal, hreadSubtotal, hvalueSubtotal⟩ := printed?_of_mem hmemSubtotal
  obtain ⟨tax, hreadTax, hvalueTax⟩ := printed?_of_mem hmemTax
  obtain ⟨total, hreadTotal, hvalueTotal⟩ := printed?_of_mem hmemTotal
  obtain ⟨paid, hreadPaid, hvaluePaid⟩ := printed?_of_mem hmemPaid
  obtain ⟨balance, hreadBalance, hvalueBalance⟩ := printed?_of_mem hmemBalance
  refine ⟨subtotal, tax, total, paid, balance,
    ⟨hreadSubtotal, hreadTax, hreadTotal, hreadPaid, hreadBalance⟩, ?_, ?_⟩
  · obtain ⟨taxCents, htax⟩ := bill.invoice.exists_value_taxAmount
    have hadd : bill.invoice.total.value =
        bill.invoice.subtotal.value + bill.invoice.taxAmount.value := value_add hsum
    rw [hvalueSubtotal, hvalueTax, hvalueTotal, nearest_of_cents htax,
      nearest_add_cents htax hsubtotal htotal hadd]
  · have hsub : bill.invoice.balance.value =
        bill.invoice.total.value + bill.invoice.amountPaid.neg.value := value_add hdifference
    have hneg : bill.invoice.amountPaid.neg.value = (-cents : ℤ) / 100 := by
      rw [value_neg, hpaid]
      push_cast
      ring
    rw [hvalueTotal, hvaluePaid, hvalueBalance, nearest_of_cents hpaid,
      nearest_add_cents hneg htotal hbalance hsub, value_neg, sub_eq_add_neg]

/-- The residue shows 10.00 and a tax of 3.00, which make 13.00, and after 13.00 nothing is left. -/
theorem Bill.printed_totals_residue :
    let bill := { Sample.bill .standard .unnamed ['$'] Invoice.dayAfter with
      invoice := Invoice.residue }
    ∃ subtotal tax total paid balance : Decimal,
      (bill.printed? "Subtotal" = some subtotal ∧ bill.printed? "TaxAmount" = some tax ∧
        bill.printed? "Total" = some total ∧ bill.printed? "AmountPaidFormatted" = some paid ∧
        bill.printed? "Balance" = some balance) ∧
      subtotal.value + tax.value = total.value ∧ total.value - paid.value = balance.value := by
  intro bill
  have hnonneg : ∀ {amount : Decimal}, amount.isNegative = false → 0 ≤ amount.value := by
    intro amount hsign
    rwa [← Bool.not_eq_true, isNegative_iff, not_lt] at hsign
  have hpaid : bill.invoice.amountPaid.value = (1300 : ℤ) / 100 := by
    have hcoefficient : bill.invoice.amountPaid.coefficient = 13 := by decide
    have hscale : bill.invoice.amountPaid.scale = 0 := by decide
    rw [value, hcoefficient, hscale]
    norm_num
  exact bill.printed_totals_add_up (hnonneg (by decide +kernel)) (hnonneg (by decide +kernel))
    (hnonneg (by decide +kernel)) hpaid (by decide +kernel) (by decide +kernel)

/-- A subtotal of 28 digits fits with a tax of ten percent, and with none. -/
example : ∀ taxRate ∈ [Decimal.ofNat 10, Decimal.ofNat 0],
    let invoice := { Invoice.residue with
      lineItems := [⟨"Cable".toList, .ofNat 1, ⟨false, 10 ^ 27, 0, by decide, by decide⟩⟩]
      taxRate }
    SumFits invoice.subtotal invoice.taxAmount := by
  decide +kernel

/-! ## Overdue invoices -/

namespace Invoice

section Overdue

variable {invoice : Invoice} {today : Date}

theorem isOverdue_iff : invoice.isOverdue today ↔
    invoice.dueDate.isBefore today ∧ 0 < invoice.balance.value := by
  rw [isOverdue, Bool.and_eq_true, isPositive_iff]

/-- An amount shows as a cent or more from half a cent on. -/
theorem cent_le_iff {amount : ℚ} :
    (1 / 100 : ℚ) ≤ nearest (amount * 100) / 100 ↔ 1 / 200 ≤ amount := by
  calc (1 / 100 : ℚ) ≤ nearest (amount * 100) / 100
      ↔ (1 : ℚ) ≤ nearest (amount * 100) := div_le_div_iff_of_pos_right (by norm_num)
    _ ↔ 1 ≤ nearest (amount * 100) := by exact_mod_cast Iff.rfl
    _ ↔ 1 / 2 ≤ amount * 100 := one_le_nearest_iff
    _ ↔ 1 / 200 ≤ amount := by constructor <;> intro h <;> linarith

/-- When the printed total has been paid, the difference is taken exactly. -/
theorem value_balance_of_paid_printed
    (hpaid : invoice.amountPaid.value = (Figure.rounded invoice.total).value) :
    invoice.balance.value = invoice.total.value - invoice.amountPaid.value := by
  have hresidue := abs_value_sub_roundTo_up 2 invoice.total
  have hsmall : |invoice.total.value + invoice.amountPaid.neg.value| ≤ 1 := by
    rw [value_neg, hpaid, ← sub_eq_add_neg]
    exact hresidue.trans (by norm_num)
  have hsum := value_add (sumFits_of_abs_le_one hsmall)
  rw [balance, sub, hsum, value_neg, sub_eq_add_neg]

end Overdue

/-- **An overdue invoice may show nothing to be paid.**  Its balance is positive, and shows as a
cent or more from half a cent on, and as zero below.  When what has been paid is the printed total,
the invoice is overdue after the due date exactly if printing the total has rounded it down. -/
theorem isOverdue_printed (invoice : Invoice) (today : Date) (symbol : Text) :
    (invoice.isOverdue today → 0 < invoice.balance.value ∧
      ∃ shown, Figure.read? symbol (Figure.currency symbol invoice.balance) = some shown ∧
        (1 / 100 ≤ shown.value ↔ 1 / 200 ≤ invoice.balance.value) ∧
        (Figure.currency symbol invoice.balance = Figure.currency symbol .zero ↔
          invoice.balance.value < 1 / 200)) ∧
    ((∃ shown, Figure.read? symbol (Figure.currency symbol invoice.total) = some shown ∧
        shown.value = invoice.amountPaid.value) →
      (invoice.isOverdue today ↔ invoice.dueDate.isBefore today ∧
        invoice.amountPaid.value < invoice.total.value)) := by
  constructor
  · intro hoverdue
    have hpositive := (isOverdue_iff.mp hoverdue).2
    obtain ⟨shown, hread, hvalue⟩ := Figure.read?_currency symbol invoice.balance
    rw [Figure.value_rounded] at hvalue
    have hcent : 1 / 100 ≤ shown.value ↔ 1 / 200 ≤ invoice.balance.value := by
      rw [hvalue]
      exact cent_le_iff
    refine ⟨hpositive, shown, hread, hcent, ?_⟩
    rw [Figure.currency_eq_zero_iff, Figure.value_rounded, ← not_le, ← cent_le_iff]
    -- of the whole numbers of cents that are not negative, only zero is below one
    have hnonneg : 0 ≤ nearest (invoice.balance.value * 100) :=
      nearest_nonneg (mul_nonneg hpositive.le (by norm_num))
    rw [div_eq_zero_iff, or_iff_left (by norm_num), Int.cast_eq_zero,
      div_le_div_iff_of_pos_right (by norm_num)]
    have hcast : (1 : ℚ) ≤ nearest (invoice.balance.value * 100) ↔
        1 ≤ nearest (invoice.balance.value * 100) := by exact_mod_cast Iff.rfl
    rw [hcast]
    omega
  · rintro ⟨shown, hread, hshown⟩
    obtain ⟨read, hread', hvalue⟩ := Figure.read?_currency symbol invoice.total
    obtain rfl : shown = read := Option.some.inj (hread.symm.trans hread')
    have hbalance := value_balance_of_paid_printed (hshown.symm.trans hvalue)
    rw [isOverdue_iff, hbalance, sub_pos]

/-! ### A residue of less than half a cent -/

theorem isOverdue_residue : residue.isOverdue dayAfter := by decide +kernel

theorem read?_total_residue :
    Figure.read? ['$'] (Figure.currency ['$'] residue.total) =
      some ⟨false, 1300, 2, by decide, by decide⟩ := by decide +kernel

theorem read?_balance_residue :
    Figure.read? ['$'] (Figure.currency ['$'] residue.balance) =
      some ⟨false, 0, 2, by decide, by decide⟩ := by decide +kernel

/-- The residue is overdue and shows a balance of zero, and its printed total has been paid. -/
theorem not_cent_le_of_isOverdue :
    (¬ ∀ (invoice : Invoice) (today : Date) (symbol : Text), invoice.isOverdue today →
      ∃ shown, Figure.read? symbol (Figure.currency symbol invoice.balance) = some shown ∧
        1 / 100 ≤ shown.value) ∧
    (¬ ∀ (invoice : Invoice) (today : Date) (symbol : Text),
      (∃ shown, Figure.read? symbol (Figure.currency symbol invoice.total) = some shown ∧
        shown.value = invoice.amountPaid.value) → ¬ invoice.isOverdue today) := by
  constructor
  · intro hclaim
    obtain ⟨shown, hread, hcent⟩ := hclaim residue dayAfter ['$'] isOverdue_residue
    obtain rfl := Option.some.inj (read?_balance_residue.symm.trans hread)
    rw [value_eq_zero_iff.mpr (by decide)] at hcent
    norm_num at hcent
  · intro hclaim
    refine hclaim residue dayAfter ['$'] ⟨_, read?_total_residue, ?_⟩ isOverdue_residue
    exact value_eq_iff.mpr (by decide)

/-- The residue is worth something, and is below half a cent. -/
theorem isOverdue_printed_residue :
    (0 < residue.balance.value ∧
      Figure.currency ['$'] residue.balance = Figure.currency ['$'] .zero) ∧
    residue.amountPaid.value < residue.total.value := by
  have hprinted := isOverdue_printed residue dayAfter ['$']
  obtain ⟨hpositive, shown, hread, hcent, hzero⟩ := hprinted.1 isOverdue_residue
  have hpaid := hprinted.2 ⟨_, read?_total_residue, value_eq_iff.mpr (by decide)⟩
  refine ⟨⟨hpositive, ?_⟩, (hpaid.mp isOverdue_residue).2⟩
  obtain rfl := Option.some.inj (read?_balance_residue.symm.trans hread)
  rw [value_eq_zero_iff.mpr (by decide)] at hcent
  rw [hzero, ← not_le, ← hcent]
  norm_num

end Invoice

end Invoicing
