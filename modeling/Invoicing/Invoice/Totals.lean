import Invoicing.Decimal.Arithmetic
import Invoicing.Invoice.Basic

/-!
# What an invoice adds up to

Amounts are kept unrounded, except for the tax, which is rounded to cents with a half
away from zero.  All arithmetic saturates, so every invoice has totals.
-/

namespace Invoicing

/-- The quantity times the price of one unit. -/
def LineItem.amount (item : LineItem) : Decimal := item.quantity.mul item.unitPrice

namespace Invoice

/-- The sum of the rows. -/
def subtotal (invoice : Invoice) : Decimal :=
  (invoice.lineItems.map LineItem.amount).foldl Decimal.add .zero

/-- The tax on the subtotal. -/
def taxAmount (invoice : Invoice) : Decimal :=
  ((invoice.subtotal.mul invoice.taxRate).percent).roundTo 2 .up

/-- The subtotal with the tax. -/
def total (invoice : Invoice) : Decimal := invoice.subtotal.add invoice.taxAmount

/-- What is still to be paid. -/
def balance (invoice : Invoice) : Decimal := invoice.total.sub invoice.amountPaid

/-- Whether the due date has passed with something still to be paid. -/
def isOverdue (invoice : Invoice) (today : Date) : Bool :=
  invoice.dueDate.isBefore today && invoice.balance.isPositive

end Invoice

end Invoicing
