import Invoicing.Binding.Basic
import Invoicing.Calendar.Written
import Invoicing.Invoice.Appearance
import Invoicing.Invoice.Figures
import Invoicing.Invoice.Totals
import Invoicing.Template.Pairing
import Invoicing.Template.Passes
import Invoicing.Text.Base64

/-!
# Bills: invoices ready to be shown

A bill is an invoice with everything that shows on it.  `Bill.bindings` gives each
figure and date its final text and binds it to a name, and `Bill.markup` renders the
template of the bill in that context.
-/

namespace Invoicing

/-- An invoice with everything that shows on it. -/
structure Bill where
  /-- The invoice. -/
  invoice : Invoice
  /-- How it looks. -/
  appearance : Appearance
  /-- Who bills. -/
  company : Company
  /-- Who is billed, if known. -/
  customer : Option Customer
  /-- The currency symbol. -/
  symbol : Text
  /-- The day for which it is shown. -/
  today : Date
  deriving DecidableEq, Repr

/-- What shows in place of the name of a customer that is not known. -/
def unknownCustomer : Text := "Unknown Customer".toList

/-- The names bound for a bill. -/
def billFields : List Text :=
  ["FontFamily", "PrimaryColor", "SecondaryColor", "AccentColor", "HeaderText", "FooterText",
    "CompanyName", "CompanyAddress", "CompanyEmail", "CompanyPhone", "CompanyLogo", "ShowLogo",
    "ShowCompanyAddress", "InvoiceNumber", "IssueDate", "DueDate", "Status", "ShowDueDate",
    "IsOverdue", "CustomerName", "CustomerEmail", "CustomerAddress", "CurrencySymbol",
    "Subtotal", "TaxRate", "TaxAmount", "ShowTaxBreakdown", "Total", "AmountPaid",
    "AmountPaidFormatted", "Balance", "Notes", "ShowNotes", "PaymentInstructions",
    "ShowPaymentInstructions", "LineItems"].map String.toList

/-- The names bound for each row of a bill. -/
def rowFields : List Text := ["Description", "Quantity", "UnitPrice", "Amount"].map String.toList

/-- The names in a template text that are bound for no bill and no row. -/
def unknownFields (body : Text) : List Text :=
  (Template.analyze body).names.filter fun name =>
    !billFields.contains name && !rowFields.contains name

/-- The context for one row. -/
def LineItem.context (symbol : Text) (item : LineItem) : Context :=
  .ofList [
    ("Description".toList, .ofText item.description),
    ("Quantity".toList, .ofText (Figure.trimmed item.quantity)),
    ("UnitPrice".toList, .ofText (Figure.currency symbol item.unitPrice)),
    ("Amount".toList, .ofText (Figure.currency symbol item.amount))]

namespace Bill

/-- An amount in the currency of the bill. -/
def money (bill : Bill) (amount : Decimal) : Text := Figure.currency bill.symbol amount

/-- The name that shows for the customer. -/
def customerName (bill : Bill) : Text :=
  match bill.customer with
  | some customer => customer.name
  | none => unknownCustomer

/-! ### What shows

A part shows when the appearance lets it and there is something to show. -/

/-- Whether the logo shows. -/
def showsLogo (bill : Bill) : Bool :=
  bill.appearance.showLogo && bill.company.logo.any fun octets => !octets.isEmpty

/-- Whether the address of the company shows. -/
def showsCompanyAddress (bill : Bill) : Bool :=
  bill.appearance.showCompanyAddress && !Text.isBlank bill.company.address

/-- Whether the tax shows. -/
def showsTaxBreakdown (bill : Bill) : Bool :=
  bill.appearance.showTaxBreakdown && !bill.invoice.taxAmount.isZero

/-- Whether the notes show. -/
def showsNotes (bill : Bill) : Bool :=
  bill.appearance.showNotes && bill.invoice.notes.any fun notes => !Text.isBlank notes

/-- Whether the payment instructions show. -/
def showsPaymentInstructions (bill : Bill) : Bool :=
  bill.appearance.showPaymentInstructions && !Text.isBlank bill.appearance.paymentInstructions

/-- Whether the bill shows as overdue. -/
def isOverdue (bill : Bill) : Bool := bill.invoice.isOverdue bill.today

/-! ### The markup -/

/-- Every name that the template of a bill can use, with its binding.  The amount paid
is bound as a number too, so that a block can depend on whether it is zero. -/
def bindings (bill : Bill) : List (Text × Binding) :=
  let appearance := bill.appearance
  let company := bill.company
  let invoice := bill.invoice
  [ ("FontFamily".toList, .ofText appearance.fontFamily),
    ("PrimaryColor".toList, .ofText appearance.primaryColor),
    ("SecondaryColor".toList, .ofText appearance.secondaryColor),
    ("AccentColor".toList, .ofText appearance.accentColor),
    ("HeaderText".toList, .ofText appearance.headerText),
    ("FooterText".toList, .ofText appearance.footerText),
    ("CompanyName".toList, .ofText company.name),
    ("CompanyAddress".toList, .ofText company.address),
    ("CompanyEmail".toList, .ofText company.email),
    ("CompanyPhone".toList, .ofText company.phone),
    ("CompanyLogo".toList, .ofText (Text.base64 (company.logo.getD []))),
    ("ShowLogo".toList, .ofBool bill.showsLogo),
    ("ShowCompanyAddress".toList, .ofBool bill.showsCompanyAddress),
    ("InvoiceNumber".toList, .ofText invoice.id),
    ("IssueDate".toList, .ofText invoice.issueDate.shortText),
    ("DueDate".toList, .ofText invoice.dueDate.shortText),
    ("Status".toList, .ofText invoice.status.name),
    ("ShowDueDate".toList, .ofBool appearance.showDueDate),
    ("IsOverdue".toList, .ofBool bill.isOverdue),
    ("CustomerName".toList, .ofText bill.customerName),
    ("CustomerEmail".toList, .ofText? (bill.customer >>= Customer.email)),
    ("CustomerAddress".toList, .ofText? (bill.customer >>= Customer.address)),
    ("CurrencySymbol".toList, .ofText bill.symbol),
    ("Subtotal".toList, .ofText (bill.money invoice.subtotal)),
    ("TaxRate".toList, .ofText (Figure.trimmed invoice.taxRate)),
    ("TaxAmount".toList, .ofText (bill.money invoice.taxAmount)),
    ("ShowTaxBreakdown".toList, .ofBool bill.showsTaxBreakdown),
    ("Total".toList, .ofText (bill.money invoice.total)),
    ("AmountPaid".toList, .scalar (.decimal invoice.amountPaid)),
    ("AmountPaidFormatted".toList, .ofText (bill.money invoice.amountPaid)),
    ("Balance".toList, .ofText (bill.money invoice.balance)),
    ("Notes".toList, .ofText? invoice.notes),
    ("ShowNotes".toList, .ofBool bill.showsNotes),
    ("PaymentInstructions".toList, .ofText appearance.paymentInstructions),
    ("ShowPaymentInstructions".toList, .ofBool bill.showsPaymentInstructions),
    ("LineItems".toList, .sequence (invoice.lineItems.map (·.context bill.symbol))) ]

/-- The context of the template of a bill. -/
def context (bill : Bill) : Context := .ofList bill.bindings

/-- The bill rendered by its template. -/
def markup (bill : Bill) : Text := Template.renderText bill.appearance.body bill.context

end Bill

end Invoicing
