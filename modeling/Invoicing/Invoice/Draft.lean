import Invoicing.Invoice.Directory
import Invoicing.Invoice.Sample

/-!
# Drafts: bills that are still changing

A draft is a bill together with the customers that it may be addressed to.  Edits
change one part of it at a time; whatever is shown of a draft is shown of the bill as
it stands.
-/

namespace Invoicing

/-- A bill that is still changing. -/
structure Draft where
  /-- The bill as it stands. -/
  bill : Bill
  /-- The known customers, the oldest first. -/
  customers : List Customer
  deriving DecidableEq, Repr

/-- A change to a draft. -/
inductive Edit where
  /-- A row more. -/
  | addItem (item : LineItem)
  /-- The last row is taken away, if there is one. -/
  | removeItem
  /-- What has been paid in all. -/
  | pay (amount : Decimal)
  /-- The tax in percent. -/
  | taxRate (rate : Decimal)
  /-- The state on record. -/
  | status (status : Status)
  /-- The remarks. -/
  | notes (notes : Option Text)
  /-- Who bills. -/
  | company (company : Company)
  /-- How the bill looks. -/
  | appearance (appearance : Appearance)
  /-- A template text in place of that of the layout. -/
  | body (body : Text)
  /-- The day for which the bill is shown. -/
  | today (today : Date)
  /-- The currency symbol. -/
  | symbol (symbol : Text)
  /-- A customer more. -/
  | addCustomer (customer : Customer)
  /-- The key of the customer to bill. -/
  | billTo (id : Text)
  deriving DecidableEq, Repr

namespace Draft

/-- The draft with another invoice. -/
def withInvoice (draft : Draft) (invoice : Invoice) : Draft :=
  { draft with bill := { draft.bill with invoice } }

/-- The draft after a change. -/
def edit (draft : Draft) : Edit → Draft
  | .addItem item =>
      let invoice := draft.bill.invoice
      draft.withInvoice { invoice with lineItems := invoice.lineItems ++ [item] }
  | .removeItem =>
      let invoice := draft.bill.invoice
      draft.withInvoice { invoice with lineItems := invoice.lineItems.dropLast }
  | .pay amount => draft.withInvoice { draft.bill.invoice with amountPaid := amount }
  | .taxRate rate => draft.withInvoice { draft.bill.invoice with taxRate := rate }
  | .status status => draft.withInvoice { draft.bill.invoice with status }
  | .notes notes => draft.withInvoice { draft.bill.invoice with notes }
  | .billTo id => draft.withInvoice { draft.bill.invoice with customerId := id }
  | .company company => { draft with bill := { draft.bill with company } }
  | .appearance appearance => { draft with bill := { draft.bill with appearance } }
  | .body body =>
      let appearance := { draft.bill.appearance with customBody := some body }
      { draft with bill := { draft.bill with appearance } }
  | .today today => { draft with bill := { draft.bill with today } }
  | .symbol symbol => { draft with bill := { draft.bill with symbol } }
  | .addCustomer customer => { draft with customers := draft.customers ++ [customer] }

/-- The bill for the first known customer of the key that the invoice refers to. -/
def addressed (draft : Draft) : Bill := draft.bill.addressed (.list draft.customers)

/-- The sample bill with the appearance and the company of the draft. -/
def preview (draft : Draft) : Bill :=
  Sample.bill draft.bill.appearance draft.bill.company draft.bill.symbol draft.bill.today

end Draft

end Invoicing
