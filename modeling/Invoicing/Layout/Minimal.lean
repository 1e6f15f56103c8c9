import Invoicing.Template.Outline

/-!
# The minimal layout

A single column without tables.
-/

namespace Invoicing.Layout

open Outline

/-- The style sheet. -/
def minimalHead : Outline :=
  [ text "<!DOCTYPE html>\n",
    text "<html>\n",
    text "<head>\n",
    text "<meta charset=\"utf-8\">\n",
    text "<title>", value "InvoiceNumber", text "</title>\n",
    text "<style>\n",
    text "  body \x7b font-family: ", value "FontFamily",
    text "; max-width: 640px; margin: 40px auto; color: ", value "SecondaryColor", text "; \x7d\n",
    text "  h1 \x7b color: ", value "PrimaryColor", text "; font-weight: 400; \x7d\n",
    text "  hr \x7b border: none; border-top: 1px solid ", value "AccentColor", text "; \x7d\n",
    text "  .line \x7b display: flex; justify-content: space-between; \x7d\n",
    text "</style>\n",
    text "</head>\n",
    text "<body>\n" ]

/-- The visible part. -/
def minimalBody : Outline :=
  [ text "<h1>", value "HeaderText", text " ", value "InvoiceNumber", text "</h1>\n",
    text "<p>", value "CompanyName", text " &rarr; ", value "CustomerName", text "</p>\n",
    text "<p>", value "IssueDate", whenTrue "ShowDueDate" [lit " &ndash; due ", val "DueDate"],
    whenTrue "IsOverdue" [lit " (overdue)"], text "</p>\n",
    text "<hr>\n",
    whenTrue "LineItems" [
      lit "<div class=\"line\"><span>", val "Description", lit " (", val "Quantity",
      lit ")</span><span>", val "Amount", lit "</span></div>\n"],
    text "\n",
    text "<hr>\n",
    text "<div class=\"line\"><span>Subtotal</span><span>", value "Subtotal",
    text "</span></div>\n",
    whenTrue "ShowTaxBreakdown" [
      lit "<div class=\"line\"><span>Tax ", val "TaxRate", lit "%</span><span>", val "TaxAmount",
      lit "</span></div>"],
    text "\n",
    text "<div class=\"line\"><strong>Total</strong><strong>", value "Total",
    text "</strong></div>\n",
    whenTrue "AmountPaid" [
      lit "<div class=\"line\"><span>Paid</span><span>", val "AmountPaidFormatted",
      lit "</span></div>"],
    text "\n",
    text "<div class=\"line\"><span>Balance</span><span>", value "Balance", text "</span></div>\n",
    whenTrue "ShowNotes" [lit "<p>", val "Notes", lit "</p>"], text "\n",
    whenTrue "ShowPaymentInstructions" [lit "<p>", val "PaymentInstructions", lit "</p>"],
    text "\n",
    text "<p>", value "FooterText", text "</p>\n",
    text "</body>\n",
    text "</html>\n" ]

/-- The template of the minimal layout. -/
def minimalOutline : Outline :=
  minimalHead ++ minimalBody

end Invoicing.Layout
