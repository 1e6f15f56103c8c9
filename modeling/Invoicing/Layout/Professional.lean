import Invoicing.Template.Outline

/-!
# The professional layout

A header band, a table of line items and a table of totals.
-/

namespace Invoicing.Layout

open Outline

/-- The style sheet. -/
def professionalHead : Outline :=
  [ text "<!DOCTYPE html>\n",
    text "<html>\n",
    text "<head>\n",
    text "<meta charset=\"utf-8\">\n",
    text "<title>", value "HeaderText", text " ", value "InvoiceNumber", text "</title>\n",
    text "<style>\n",
    text "  body \x7b font-family: ", value "FontFamily",
    text "; color: #1f2937; margin: 40px; \x7d\n",
    text "  .header \x7b display: flex; justify-content: space-between; border-bottom: 3px ",
    text "solid ", value "PrimaryColor", text "; padding-bottom: 16px; \x7d\n",
    text "  .title \x7b color: ", value "PrimaryColor",
    text "; font-size: 32px; font-weight: bold; letter-spacing: 2px; \x7d\n",
    text "  .muted \x7b color: ", value "SecondaryColor", text "; \x7d\n",
    text "  table \x7b width: 100%; border-collapse: collapse; margin-top: 24px; \x7d\n",
    text "  th \x7b background: ", value "AccentColor",
    text "; text-align: left; padding: 8px; \x7d\n",
    text "  td \x7b padding: 8px; border-bottom: 1px solid ", value "AccentColor", text "; \x7d\n",
    text "  .num \x7b text-align: right; \x7d\n",
    text "  .totals \x7b width: 40%; margin-left: auto; \x7d\n",
    text "  .totals td \x7b border: none; \x7d\n",
    text "  .overdue \x7b color: #dc2626; font-weight: bold; \x7d\n",
    text "  footer \x7b margin-top: 48px; text-align: center; \x7d\n",
    text "</style>\n",
    text "</head>\n",
    text "<body>\n" ]

/-- The header band. -/
def professionalHeading : Outline :=
  [ text "<div class=\"header\">\n",
    text "  <div>\n",
    text "    ",
    whenTrue "ShowLogo" [
      lit "<img src=\"data:image/png;base64,", val "CompanyLogo", lit "\" alt=\"",
      val "CompanyName", lit "\" height=\"64\">"],
    text "\n",
    text "    <h2>", value "CompanyName", text "</h2>\n",
    text "    ",
    whenTrue "ShowCompanyAddress" [
      lit "<div class=\"muted\">", val "CompanyAddress", lit "</div>"],
    text "\n",
    text "    <div class=\"muted\">", value "CompanyEmail", text "</div>\n",
    text "    <div class=\"muted\">", value "CompanyPhone", text "</div>\n",
    text "  </div>\n",
    text "  <div class=\"num\">\n",
    text "    <div class=\"title\">", value "HeaderText", text "</div>\n",
    text "    <div>Invoice #: ", value "InvoiceNumber", text "</div>\n",
    text "    <div>Issue Date: ", value "IssueDate", text "</div>\n",
    text "    ", whenTrue "ShowDueDate" [lit "<div>Due Date: ", val "DueDate", lit "</div>"],
    text "\n",
    text "    ", whenTrue "IsOverdue" [lit "<div class=\"overdue\">OVERDUE</div>"], text "\n",
    text "  </div>\n",
    text "</div>\n",
    text "\n" ]

/-- The customer and the line items. -/
def professionalItems : Outline :=
  [ text "<h3>Bill To</h3>\n",
    text "<div><strong>", value "CustomerName", text "</strong></div>\n",
    text "<div class=\"muted\">", value "CustomerEmail", text "</div>\n",
    text "<div class=\"muted\">", value "CustomerAddress", text "</div>\n",
    text "\n",
    text "<table>\n",
    text "  <tr><th>Description</th><th class=\"num\">Qty</th><th class=\"num\">Unit ",
    text "Price</th><th class=\"num\">Amount</th></tr>\n",
    text "  ",
    whenTrue "LineItems" [
      lit "<tr><td>", val "Description", lit "</td><td class=\"num\">", val "Quantity",
      lit "</td><td class=\"num\">", val "UnitPrice", lit "</td><td class=\"num\">", val "Amount",
      lit "</td></tr>\n", lit "  "],
    whenFalse "LineItems" [lit "<tr><td colspan=\"4\" class=\"muted\">No items</td></tr>"],
    text "\n",
    text "</table>\n",
    text "\n" ]

/-- The totals and everything below them. -/
def professionalClosing : Outline :=
  [ text "<table class=\"totals\">\n",
    text "  <tr><td>Subtotal</td><td class=\"num\">", value "Subtotal", text "</td></tr>\n",
    text "  ",
    whenTrue "ShowTaxBreakdown" [
      lit "<tr><td>Tax (", val "TaxRate", lit "%)</td><td class=\"num\">", val "TaxAmount",
      lit "</td></tr>"],
    text "\n",
    text "  <tr><td><strong>Total</strong></td><td class=\"num\"><strong>", value "Total",
    text "</strong></td></tr>\n",
    text "  ",
    whenTrue "AmountPaid" [
      lit "<tr><td>Amount Paid</td><td class=\"num\">", val "AmountPaidFormatted",
      lit "</td></tr>"],
    text "\n",
    text "  <tr><td><strong>Balance Due</strong></td><td class=\"num\"><strong>", value "Balance",
    text "</strong></td></tr>\n",
    text "</table>\n",
    text "\n",
    whenTrue "ShowNotes" [lit "<h3>Notes</h3>\n", lit "<p>", val "Notes", lit "</p>"], text "\n",
    whenTrue "ShowPaymentInstructions" [
      lit "<h3>Payment Instructions</h3>\n", lit "<p>", val "PaymentInstructions", lit "</p>"],
    text "\n",
    text "\n",
    text "<footer class=\"muted\">", value "FooterText", text "</footer>\n",
    text "</body>\n",
    text "</html>\n" ]

/-- The template of the professional layout. -/
def professionalOutline : Outline :=
  professionalHead ++ professionalHeading ++ (professionalItems ++ professionalClosing)

end Invoicing.Layout
