import Invoicing.Calendar.Date
import Invoicing.Decimal.Basic
import Invoicing.Text.Basic

/-!
# Invoices, customers and companies

The records that an invoice is made from.  They are data only; what they add up to is
in `Invoicing.Invoice.Totals`.
-/

namespace Invoicing

/-- One row of an invoice. -/
structure LineItem where
  /-- What is billed. -/
  description : Text
  /-- How many units; fractions count. -/
  quantity : Decimal
  /-- The price of one unit before tax. -/
  unitPrice : Decimal
  deriving DecidableEq, Repr

/-- Where an invoice is in its life. -/
inductive Status where
  /-- Not issued yet. -/
  | draft
  /-- Issued and not paid. -/
  | pending
  /-- Paid in full. -/
  | paid
  /-- Marked as overdue. -/
  | overdue
  /-- Withdrawn. -/
  | cancelled
  deriving DecidableEq, Repr

namespace Status

/-- All states. -/
def all : List Status := [draft, pending, paid, overdue, cancelled]

/-- The state as it is written. -/
def name : Status → Text
  | draft => "Draft".toList
  | pending => "Pending".toList
  | paid => "Paid".toList
  | overdue => "Overdue".toList
  | cancelled => "Cancelled".toList

/-- The state with a name. -/
def ofName? (name : Text) : Option Status := all.find? fun status => status.name == name

end Status

/-- An invoice. -/
structure Invoice where
  /-- The invoice number. -/
  id : Text
  /-- Who is billed. -/
  customerId : Text
  /-- The day of issue. -/
  issueDate : Date
  /-- The last day on which it is not overdue. -/
  dueDate : Date
  /-- The rows in order. -/
  lineItems : List LineItem
  /-- The tax in percent. -/
  taxRate : Decimal
  /-- What has been paid so far. -/
  amountPaid : Decimal
  /-- Remarks. -/
  notes : Option Text
  /-- The state on record; whether it shows as overdue is computed. -/
  status : Status
  deriving DecidableEq, Repr

/-- Who is billed. -/
structure Customer where
  /-- The key under which invoices refer to the customer. -/
  id : Text
  /-- The name. -/
  name : Text
  /-- The email address. -/
  email : Option Text
  /-- The postal address. -/
  address : Option Text
  deriving DecidableEq, Repr

/-- Who bills. -/
structure Company where
  /-- The name. -/
  name : Text
  /-- The postal address. -/
  address : Text
  /-- The email address. -/
  email : Text
  /-- The telephone number. -/
  phone : Text
  /-- The image file of the logo. -/
  logo : Option (List UInt8)
  deriving DecidableEq, Repr

/-- A company of which nothing is known. -/
def Company.unnamed : Company := ⟨[], [], [], [], none⟩

end Invoicing
