import Invoicing.Template.Outline

/-!
# The classic layout

A bordered table under a ruled heading.
-/

namespace Invoicing.Layout

open Outline

/-- The style sheet. -/
def classicHead : Outline :=
  [ text "<!DOCTYPE html>\n",
    text "<html>\n",
    text "<head>\n",
    text "<meta charset=\"utf-8\">\n",
    text "<title>", value "HeaderText", text " ", value "InvoiceNumber", text "</title>\n",
    text "<style>\n",
    text "  body \x7b font-family: ", value "FontFamily",
    text "; margin: 48px; color: #000000; \x7d\n",
    text "  h1 \x7b text-align: center; color: ", value "PrimaryColor",
    text "; border-top: 2px solid ", value "PrimaryColor", text "; border-bottom: 2px solid ",
    value "PrimaryColor", text "; padding: 8px 0; \x7d\n",
    text "  table \x7b width: 100%; border-collapse: collapse; \x7d\n",
    text "  th, td \x7b border: 1px solid ", value "SecondaryColor", text "; padding: 6px; \x7d\n",
    text "  th \x7b background: ", value "AccentColor", text "; \x7d\n",
    text "  .num \x7b text-align: right; \x7d\n",
    text "</style>\n",
    text "</head>\n",
    text "<body>\n" ]

/-- The heading and the parties. -/
def classicHeading : Outline :=
  [ whenTrue "ShowLogo" [
      lit "<p style=\"text-align: center\"><img src=\"data:image/png;base64,", val "CompanyLogo",
      lit "\" alt=\"", val "CompanyName", lit "\" height=\"72\"></p>"],
    text "\n",
    text "<h1>", value "HeaderText", text "</h1>\n",
    text "<p>\n",
    text "  <strong>", value "CompanyName", text "</strong><br>\n",
    text "  ", whenTrue "ShowCompanyAddress" [val "CompanyAddress", lit "<br>"], text "\n",
    text "  ", value "CompanyEmail", text "<br>\n",
    text "  ", value "CompanyPhone", text "\n",
    text "</p>\n",
    text "<p>\n",
    text "  Invoice Number: ", value "InvoiceNumber", text "<br>\n",
    text "  Date of Issue: ", value "IssueDate", text "<br>\n",
    text "  ", whenTrue "ShowDueDate" [lit "Payment Due: ", val "DueDate", lit "<br>"], text "\n",
    text "  ", whenTrue "IsOverdue" [lit "<strong>This invoice is past due.</strong><br>"],
    text "\n",
    text "</p>\n",
    text "<p>\n",
    text "  Invoice To:<br>\n",
    text "  <strong>", value "CustomerName", text "</strong><br>\n",
    text "  ", value "CustomerAddress", text "\n",
    text "</p>\n" ]

/-- The table and everything below it. -/
def classicClosing : Outline :=
  [ text "<table>\n",
    text "  <tr><th>Description</th><th>Quantity</th><th>Rate</th><th>Amount</th></tr>\n",
    text "  ",
    whenTrue "LineItems" [
      lit "<tr><td>", val "Description", lit "</td><td class=\"num\">", val "Quantity",
      lit "</td><td class=\"num\">", val "UnitPrice", lit "</td><td class=\"num\">", val "Amount",
      lit "</td></tr>\n", lit "  "],
    text "\n",
    text "  <tr><td colspan=\"3\" class=\"num\">Subtotal</td><td class=\"num\">", value "Subtotal",
    text "</td></tr>\n",
    text "  ",
    whenTrue "ShowTaxBreakdown" [
      lit "<tr><td colspan=\"3\" class=\"num\">Tax @ ", val "TaxRate",
      lit "%</td><td class=\"num\">", val "TaxAmount", lit "</td></tr>"],
    text "\n",
    text "  <tr><td colspan=\"3\" class=\"num\"><strong>Total</strong></td><td ",
    text "class=\"num\"><strong>", value "Total", text "</strong></td></tr>\n",
    text "  ",
    whenTrue "AmountPaid" [
      lit "<tr><td colspan=\"3\" class=\"num\">Less Payments</td><td class=\"num\">",
      val "AmountPaidFormatted", lit "</td></tr>"],
    text "\n",
    text "  <tr><td colspan=\"3\" class=\"num\"><strong>Balance Due</strong></td><td ",
    text "class=\"num\"><strong>", value "Balance", text "</strong></td></tr>\n",
    text "</table>\n",
    whenTrue "ShowNotes" [lit "<p><em>", val "Notes", lit "</em></p>"], text "\n",
    whenTrue "ShowPaymentInstructions" [lit "<p>", val "PaymentInstructions", lit "</p>"],
    text "\n",
    text "<p style=\"text-align: center\">", value "FooterText", text "</p>\n",
    text "</body>\n",
    text "</html>\n" ]

/-- The template of the classic layout. -/
def classicOutline : Outline :=
  classicHead ++ (classicHeading ++ classicClosing)

end Invoicing.Layout
