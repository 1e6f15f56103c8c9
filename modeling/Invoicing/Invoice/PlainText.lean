import Invoicing.Invoice.Bill

/-!
# Bills as plain text

The plain-text form is put together directly, without a template.  Its figures are
those of the markup.
-/

namespace Invoicing.Bill

/-- A text on a line of its own. -/
def line (text : Text) : Text := text ++ ['\n']

/-- A text on a line of its own, or nothing for a blank one. -/
def lineUnlessBlank (text : Text) : Text := if Text.isBlank text then [] else line text

/-- A label and a text on one line. -/
def labelled (label : String) (text : Text) : Text := line (label.toList ++ text)

/-- A part that may be left out. -/
def shownIf (condition : Bool) (text : Text) : Text := if condition then text else []

/-- The rule below the title and above the closing line. -/
def thickRule : Text := List.replicate 48 '='

/-- The rule around the rows. -/
def thinRule : Text := List.replicate 48 '-'

/-- The title and the company. -/
def headingLines (bill : Bill) : Text :=
  line bill.appearance.headerText ++ (line thickRule ++ (line bill.company.name ++
    (shownIf bill.showsCompanyAddress (lineUnlessBlank bill.company.address) ++
      (lineUnlessBlank bill.company.email ++ lineUnlessBlank bill.company.phone))))

/-- The number, the dates and the state of the invoice. -/
def invoiceLines (bill : Bill) : Text :=
  labelled "Invoice #: " bill.invoice.id ++
    (labelled "Issue Date: " bill.invoice.issueDate.shortText ++
      (shownIf bill.appearance.showDueDate (labelled "Due Date: " bill.invoice.dueDate.shortText) ++
        (labelled "Status: " bill.invoice.status.name ++
          shownIf bill.isOverdue (line "*** OVERDUE ***".toList))))

/-- The customer. -/
def customerLines (bill : Bill) : Text :=
  line "Bill To:".toList ++ (line bill.customerName ++
    (lineUnlessBlank ((bill.customer >>= Customer.email).getD []) ++
      lineUnlessBlank ((bill.customer >>= Customer.address).getD [])))

/-- The two lines of a row. -/
def rowLines (bill : Bill) (item : LineItem) : Text :=
  line item.description ++
    line ("  ".toList ++ (Figure.trimmed item.quantity ++ (" x ".toList ++
      (bill.money item.unitPrice ++ (" = ".toList ++ bill.money item.amount)))))

/-- The rows between thin rules. -/
def itemLines (bill : Bill) : Text :=
  line "Items:".toList ++ (line thinRule ++
    (bill.invoice.lineItems.flatMap bill.rowLines ++ line thinRule))

/-- The tax with its rate. -/
def taxLine (bill : Bill) : Text :=
  line ("Tax (".toList ++ (Figure.trimmed bill.invoice.taxRate ++ ("%): ".toList ++
    bill.money bill.invoice.taxAmount)))

/-- The totals. -/
def totalLines (bill : Bill) : Text :=
  labelled "Subtotal: " (bill.money bill.invoice.subtotal) ++
    (shownIf bill.showsTaxBreakdown bill.taxLine ++
      (labelled "Total: " (bill.money bill.invoice.total) ++
        (shownIf (!bill.invoice.amountPaid.isZero)
            (labelled "Amount Paid: " (bill.money bill.invoice.amountPaid)) ++
          labelled "Balance Due: " (bill.money bill.invoice.balance))))

/-- The notes and the payment instructions, each under a heading. -/
def remarkLines (bill : Bill) : Text :=
  shownIf bill.showsNotes
      (line [] ++ (line "Notes:".toList ++ line (bill.invoice.notes.getD []))) ++
    shownIf bill.showsPaymentInstructions
      (line [] ++ (line "Payment Instructions:".toList ++
        line bill.appearance.paymentInstructions))

/-- The closing line. -/
def closingLines (bill : Bill) : Text :=
  line [] ++ (line thickRule ++ line bill.appearance.footerText)

/-- The bill as plain text. -/
def plainText (bill : Bill) : Text :=
  bill.headingLines ++ (line [] ++ (bill.invoiceLines ++ (line [] ++ (bill.customerLines ++
    (line [] ++ (bill.itemLines ++ (bill.totalLines ++ (bill.remarkLines ++
      bill.closingLines))))))))

end Invoicing.Bill
