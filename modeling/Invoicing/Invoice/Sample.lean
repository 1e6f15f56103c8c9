import Invoicing.Invoice.Bill

/-!
# A sample bill

An appearance can be looked at before it is used: the sample bill has made-up records
for every part that can show.
-/

namespace Invoicing.Sample

/-- The number of the sample invoice. -/
def invoiceId : Text := "INV-PREVIEW-001".toList

/-- The key of the sample customer. -/
def customerId : Text := "CUST-PREVIEW".toList

/-- The number of days between issue and due date. -/
def paymentTerm : Nat := 30

/-- The sample customer. -/
def customer : Customer where
  id := customerId
  name := "Sample Customer Ltd.".toList
  email := some "billing@example.com".toList
  address := some "123 Sample Street, Example City".toList

/-- The sample invoice, issued today.  At the end of the calendar it is due at once. -/
def invoice (today : Date) : Invoice where
  id := invoiceId
  customerId := customerId
  issueDate := today
  dueDate := (today.addDays? paymentTerm).getD today
  lineItems := [
    ⟨"Website Design".toList, .ofNat 1, .ofNat 800⟩,
    ⟨"Hosting (12 months)".toList, .ofNat 1, .ofNat 250⟩,
    ⟨"Support Hours".toList, .ofNat 2, .ofNat 100⟩]
  taxRate := .ofNat 10
  amountPaid := .zero
  notes := some "This is a preview of your invoice template.".toList
  status := .pending

/-- The sample bill of a company in an appearance. -/
def bill (appearance : Appearance) (company : Company) (symbol : Text) (today : Date) : Bill where
  invoice := invoice today
  appearance := appearance
  company := company
  customer := some customer
  symbol := symbol
  today := today

end Invoicing.Sample
