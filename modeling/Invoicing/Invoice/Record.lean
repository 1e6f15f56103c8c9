import Invoicing.Calendar.Written
import Invoicing.Decimal.Numeral
import Invoicing.Invoice.Appearance
import Invoicing.Invoice.Basic
import Invoicing.Json.Field
import Invoicing.Binary64.Shortest

/-!
# Records as JSON

Invoices, customers, companies and appearances are kept as JSON objects.  Decimals are
written as strings, so that their scale is kept, and are also read from numbers; dates
are strings.  A field that is missing takes the value that it usually has, where it has
one.
-/

namespace Invoicing

namespace Decimal

/-- The decimal as it is kept. -/
def toJson (decimal : Decimal) : Json := .string decimal.text

/-- The decimal that a numeral in a string, or a number, denotes. -/
def ofJson? : Json → Option Decimal
  | .string numeral => read? numeral
  | .number (.whole value) => of? value 0
  | .number (.real value) => read? (value.text .plain)
  | _ => none

end Decimal

namespace Date

/-- The date as it is kept. -/
def toJson (date : Date) : Json := .string date.text

/-- The date that a string denotes. -/
def ofJson? (value : Json) : Option Date := value.text? >>= read?

end Date

namespace LineItem

/-- The row as it is kept. -/
def toJson (item : LineItem) : Json :=
  .record [
    ("description", .string item.description),
    ("quantity", item.quantity.toJson),
    ("unit_price", item.unitPrice.toJson)]

/-- The row that an object holds. -/
def ofJson? (value : Json) : Option LineItem := do
  let description ← value.field? "description" Json.text?
  let quantity ← value.field? "quantity" Decimal.ofJson?
  let unitPrice ← value.field? "unit_price" Decimal.ofJson?
  return { description, quantity, unitPrice }

end LineItem

namespace Status

/-- The state as it is kept. -/
def toJson (status : Status) : Json := .string status.name

/-- The state of a name. -/
def ofJson? (value : Json) : Option Status := value.choice? >>= ofName?

end Status

namespace Invoice

/-- The invoice as it is kept. -/
def toJson (invoice : Invoice) : Json :=
  .record [
    ("id", .string invoice.id),
    ("customer_id", .string invoice.customerId),
    ("issue_date", invoice.issueDate.toJson),
    ("due_date", invoice.dueDate.toJson),
    ("line_items", .array (invoice.lineItems.map LineItem.toJson)),
    ("tax_rate", invoice.taxRate.toJson),
    ("amount_paid", invoice.amountPaid.toJson),
    ("notes", .ofText? invoice.notes),
    ("status", invoice.status.toJson)]

/-- The invoice that an object holds. -/
def ofJson? (value : Json) : Option Invoice := do
  let id ← value.field? "id" Json.text?
  let customerId ← value.field? "customer_id" Json.text?
  let issueDate ← value.field? "issue_date" Date.ofJson?
  let dueDate ← value.field? "due_date" Date.ofJson?
  let lineItems ← value.fieldOr? "line_items" (Json.listOf? LineItem.ofJson?) []
  let taxRate ← value.fieldOr? "tax_rate" Decimal.ofJson? .zero
  let amountPaid ← value.fieldOr? "amount_paid" Decimal.ofJson? .zero
  let notes ← value.fieldOr? "notes" (Json.nullable? Json.text?) none
  let status ← value.fieldOr? "status" Status.ofJson? .pending
  return {
    id, customerId, issueDate, dueDate, lineItems, taxRate, amountPaid, notes, status }

end Invoice

namespace Customer

/-- The customer as it is kept. -/
def toJson (customer : Customer) : Json :=
  .record [
    ("id", .string customer.id),
    ("name", .string customer.name),
    ("email", .ofText? customer.email),
    ("address", .ofText? customer.address)]

/-- The customer that an object holds. -/
def ofJson? (value : Json) : Option Customer := do
  let id ← value.field? "id" Json.text?
  let name ← value.field? "name" Json.text?
  let email ← value.fieldOr? "email" (Json.nullable? Json.text?) none
  let address ← value.fieldOr? "address" (Json.nullable? Json.text?) none
  return { id, name, email, address }

end Customer

namespace Company

/-- The logo as it is kept: its octets as numbers. -/
def logoToJson : Option (List UInt8) → Json
  | some octets => .array (octets.map fun octet => .ofNat octet.toNat)
  | none => .null

/-- The company as it is kept. -/
def toJson (company : Company) : Json :=
  .record [
    ("name", .string company.name),
    ("address", .string company.address),
    ("email", .string company.email),
    ("phone", .string company.phone),
    ("logo", logoToJson company.logo)]

/-- The company that an object holds. -/
def ofJson? (value : Json) : Option Company := do
  guard value.isObject
  let usual := Company.unnamed
  let name ← value.fieldOr? "name" Json.text? usual.name
  let address ← value.fieldOr? "address" Json.text? usual.address
  let email ← value.fieldOr? "email" Json.text? usual.email
  let phone ← value.fieldOr? "phone" Json.text? usual.phone
  let logo ← value.fieldOr? "logo" (Json.nullable? (Json.listOf? Json.octet?)) usual.logo
  return { name, address, email, phone, logo }

end Company

namespace Layout

/-- The layout as it is kept. -/
def toJson (layout : Layout) : Json := .string layout.name

/-- The layout of a name. -/
def ofJson? (value : Json) : Option Layout := value.choice? >>= ofName?

end Layout

namespace Appearance

/-- The appearance as it is kept. -/
def toJson (appearance : Appearance) : Json :=
  .record [
    ("name", .string appearance.name),
    ("kind", appearance.layout.toJson),
    ("font_family", .string appearance.fontFamily),
    ("primary_color", .string appearance.primaryColor),
    ("secondary_color", .string appearance.secondaryColor),
    ("accent_color", .string appearance.accentColor),
    ("header_text", .string appearance.headerText),
    ("footer_text", .string appearance.footerText),
    ("payment_instructions", .string appearance.paymentInstructions),
    ("show_logo", .bool appearance.showLogo),
    ("show_company_address", .bool appearance.showCompanyAddress),
    ("show_due_date", .bool appearance.showDueDate),
    ("show_tax_breakdown", .bool appearance.showTaxBreakdown),
    ("show_notes", .bool appearance.showNotes),
    ("show_payment_instructions", .bool appearance.showPaymentInstructions),
    ("custom_body", .ofText? appearance.customBody)]

/-- The appearance that an object holds. -/
def ofJson? (value : Json) : Option Appearance := do
  guard value.isObject
  let usual := Appearance.standard
  let name ← value.fieldOr? "name" Json.text? usual.name
  let layout ← value.fieldOr? "kind" Layout.ofJson? usual.layout
  let fontFamily ← value.fieldOr? "font_family" Json.text? usual.fontFamily
  let primaryColor ← value.fieldOr? "primary_color" Json.text? usual.primaryColor
  let secondaryColor ← value.fieldOr? "secondary_color" Json.text? usual.secondaryColor
  let accentColor ← value.fieldOr? "accent_color" Json.text? usual.accentColor
  let headerText ← value.fieldOr? "header_text" Json.text? usual.headerText
  let footerText ← value.fieldOr? "footer_text" Json.text? usual.footerText
  let paymentInstructions ←
    value.fieldOr? "payment_instructions" Json.text? usual.paymentInstructions
  let showLogo ← value.fieldOr? "show_logo" Json.bool? usual.showLogo
  let showCompanyAddress ←
    value.fieldOr? "show_company_address" Json.bool? usual.showCompanyAddress
  let showDueDate ← value.fieldOr? "show_due_date" Json.bool? usual.showDueDate
  let showTaxBreakdown ← value.fieldOr? "show_tax_breakdown" Json.bool? usual.showTaxBreakdown
  let showNotes ← value.fieldOr? "show_notes" Json.bool? usual.showNotes
  let showPaymentInstructions ←
    value.fieldOr? "show_payment_instructions" Json.bool? usual.showPaymentInstructions
  let customBody ← value.fieldOr? "custom_body" (Json.nullable? Json.text?) usual.customBody
  return {
    name, layout, fontFamily, primaryColor, secondaryColor, accentColor, headerText, footerText,
    paymentInstructions, showLogo, showCompanyAddress, showDueDate, showTaxBreakdown, showNotes,
    showPaymentInstructions, customBody }

end Appearance

end Invoicing
