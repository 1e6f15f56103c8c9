import Invoicing.Binary64.Basic
import Invoicing.Binary64.Shortest
import Invoicing.Binding.Basic
import Invoicing.Binding.Document
import Invoicing.Binding.Scope
import Invoicing.Calendar.Date
import Invoicing.Calendar.Written
import Invoicing.Decimal.Arithmetic
import Invoicing.Decimal.Basic
import Invoicing.Decimal.Numeral
import Invoicing.Invoice.Appearance
import Invoicing.Invoice.Basic
import Invoicing.Invoice.Bill
import Invoicing.Invoice.Directory
import Invoicing.Invoice.Draft
import Invoicing.Invoice.Figures
import Invoicing.Invoice.PlainText
import Invoicing.Invoice.Record
import Invoicing.Invoice.Sample
import Invoicing.Invoice.Totals
import Invoicing.Json.Basic
import Invoicing.Json.Field
import Invoicing.Json.Reader
import Invoicing.Json.Writer
import Invoicing.Layout.Basic
import Invoicing.Layout.Classic
import Invoicing.Layout.Minimal
import Invoicing.Layout.Modern
import Invoicing.Layout.Professional
import Invoicing.Marker.Basic
import Invoicing.Marker.Block
import Invoicing.Marker.Scan
import Invoicing.Rounding
import Invoicing.Template.Basic
import Invoicing.Template.Outline
import Invoicing.Template.Pairing
import Invoicing.Template.Passes
import Invoicing.Text.Alphanumeric
import Invoicing.Text.Base64
import Invoicing.Text.Basic
import Invoicing.Text.Blank
import Invoicing.Text.CodePoints
import Invoicing.Text.Numeral
import Invoicing.Text.Quoted
import Invoicing.Text.Sorted
import Invoicing.Text.Unprintable
import Invoicing.Proofs.Binding.Texts
import Invoicing.Proofs.Calendar.Written
import Invoicing.Proofs.Decimal.Numeral
import Invoicing.Proofs.Decimal.Value
import Invoicing.Proofs.Invoice.Agreement
import Invoicing.Proofs.Invoice.Figures
import Invoicing.Proofs.Invoice.Hiding
import Invoicing.Proofs.Invoice.Records
import Invoicing.Proofs.Invoice.Rows
import Invoicing.Proofs.Invoice.Totals
import Invoicing.Proofs.Json.Fields
import Invoicing.Proofs.Json.Reading
import Invoicing.Proofs.Marker.Blocks
import Invoicing.Proofs.Marker.Sweep
import Invoicing.Proofs.Marker.Tokens
import Invoicing.Proofs.Template.Alternatives
import Invoicing.Proofs.Template.Balance
import Invoicing.Proofs.Template.Containment
import Invoicing.Proofs.Template.Dependence
import Invoicing.Proofs.Template.Filling
import Invoicing.Proofs.Template.FixedPoints
import Invoicing.Proofs.Template.Joining
import Invoicing.Proofs.Template.Layers
import Invoicing.Proofs.Template.Leftover
import Invoicing.Proofs.Template.Meaning
import Invoicing.Proofs.Template.Nesting
import Invoicing.Proofs.Template.Pairing
import Invoicing.Proofs.Template.Parts
import Invoicing.Proofs.Template.Reading
import Invoicing.Proofs.Template.Rendering
import Invoicing.Proofs.Template.Repetition
import Invoicing.Proofs.Template.Unclosed
import Invoicing.Proofs.Decimal.Canonical
import Invoicing.Proofs.Decimal.Digits
import Invoicing.Proofs.Invoice.Money
import Invoicing.Proofs.Invoice.Trimmed
import Invoicing.Proofs.Binding.Documents
import Invoicing.Proofs.Binding.Faults
import Invoicing.Proofs.Decimal.Exact
import Invoicing.Proofs.Decimal.Percent
import Invoicing.Proofs.Invoice.Tax
import Invoicing.Proofs.Invoice.Subtotals
import Invoicing.Proofs.Template.Matching
import Invoicing.Proofs.Invoice.UnknownFields
import Invoicing.Proofs.Template.Dissection
