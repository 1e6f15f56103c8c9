import Invoicing.Invoice.Bill

/-!
# Customer directories

A directory finds a customer by the key that invoices refer to.  A plain list answers
with the first customer of a key; an index holds one customer to a key, so of several
the one entered last counts.
-/

namespace Invoicing

/-- A collection of customers to look up in. -/
inductive Directory where
  /-- A list that is searched from its start. -/
  | list (customers : List Customer)
  /-- An index that the customers were entered into in this order. -/
  | index (customers : List Customer)
  deriving DecidableEq, Repr

namespace Directory

/-- The customer with a key. -/
def find? (directory : Directory) (id : Text) : Option Customer :=
  match directory with
  | list customers => customers.find? (·.id == id)
  | index customers => customers.reverse.find? (·.id == id)

end Directory

/-- The bill for the customer that its invoice refers to. -/
def Bill.addressed (bill : Bill) (directory : Directory) : Bill :=
  { bill with customer := directory.find? bill.invoice.customerId }

end Invoicing
