import Invoicing.Template.Outline

/-!
# The modern layout

A coloured banner, and cards for the line items and the totals.
-/

namespace Invoicing.Layout

open Outline

/-- The style sheet. -/
def modernHead : Outline :=
  [ text "<!DOCTYPE html>\n",
    text "<html>\n",
    text "<head>\n",
    text "<meta charset=\"utf-8\">\n",
    text "<title>", value "HeaderText", text " ", value "InvoiceNumber", text "</title>\n",
    text "<style>\n",
    text "  body \x7b font-family: ", value "FontFamily",
    text "; margin: 0; color: #111827; \x7d\n",
    text "  .band \x7b background: ", value "PrimaryColor",
    text "; color: #ffffff; padding: 32px 40px; \x7d\n",
    text "  .band h1 \x7b margin: 0; font-weight: 300; font-size: 40px; \x7d\n",
    text "  .content \x7b padding: 32px 40px; \x7d\n",
    text "  .grid \x7b display: flex; gap: 48px; \x7d\n",
    text "  .label \x7b color: ", value "SecondaryColor",
    text "; font-size: 12px; text-transform: uppercase; \x7d\n",
    text "  .card \x7b background: ", value "AccentColor",
    text "; border-radius: 8px; padding: 16px; margin-top: 24px; \x7d\n",
    text "  .row \x7b display: flex; justify-content: space-between; padding: 6px 0; \x7d\n",
    text "  .badge \x7b background: #dc2626; color: #ffffff; border-radius: 4px; padding: ",
    text "2px 8px; \x7d\n",
    text "</style>\n",
    text "</head>\n",
    text "<body>\n" ]

/-- The banner and the parties. -/
def modernHeading : Outline :=
  [ text "<div class=\"band\">\n",
    text "  ",
    whenTrue "ShowLogo" [
      lit "<img src=\"data:image/png;base64,", val "CompanyLogo", lit "\" alt=\"",
      val "CompanyName", lit "\" height=\"48\">"],
    text "\n",
    text "  <h1>", value "HeaderText", text "</h1>\n",
    text "  <div>", value "CompanyName", text " &middot; ", value "InvoiceNumber", text " ",
    whenTrue "IsOverdue" [lit "<span class=\"badge\">Overdue</span>"], text "</div>\n",
    text "</div>\n",
    text "<div class=\"content\">\n",
    text "  <div class=\"grid\">\n",
    text "    <div><div class=\"label\">Billed to</div><div>", value "CustomerName",
    text "</div><div>", value "CustomerEmail", text "</div><div>", value "CustomerAddress",
    text "</div></div>\n",
    text "    <div><div class=\"label\">Issued</div><div>", value "IssueDate",
    text "</div></div>\n",
    text "    ",
    whenTrue "ShowDueDate" [
      lit "<div><div class=\"label\">Due</div><div>", val "DueDate", lit "</div></div>"],
    text "\n",
    text "    <div><div class=\"label\">Status</div><div>", value "Status", text "</div></div>\n",
    text "  </div>\n",
    text "\n" ]

/-- The cards and everything below them. -/
def modernClosing : Outline :=
  [ text "  <div class=\"card\">\n",
    text "    ",
    whenTrue "LineItems" [
      lit "<div class=\"row\"><span>", val "Description", lit " &times; ", val "Quantity",
      lit " @ ", val "UnitPrice", lit "</span><span>", val "Amount", lit "</span></div>\n",
      lit "    "],
    text "\n",
    text "  </div>\n",
    text "\n",
    text "  <div class=\"card\">\n",
    text "    <div class=\"row\"><span>Subtotal</span><span>", value "Subtotal",
    text "</span></div>\n",
    text "    ",
    whenTrue "ShowTaxBreakdown" [
      lit "<div class=\"row\"><span>Tax ", val "TaxRate", lit "%</span><span>", val "TaxAmount",
      lit "</span></div>"],
    text "\n",
    text "    <div class=\"row\"><strong>Total</strong><strong>", value "Total",
    text "</strong></div>\n",
    text "    ",
    whenTrue "AmountPaid" [
      lit "<div class=\"row\"><span>Paid</span><span>", val "AmountPaidFormatted",
      lit "</span></div>"],
    text "\n",
    text "    <div class=\"row\"><strong>Balance</strong><strong>", value "Balance",
    text "</strong></div>\n",
    text "  </div>\n",
    text "\n",
    text "  ",
    whenTrue "ShowNotes" [
      lit "<div class=\"card\"><div class=\"label\">Notes</div>", val "Notes", lit "</div>"],
    text "\n",
    text "  ",
    whenTrue "ShowPaymentInstructions" [
      lit "<div class=\"card\"><div class=\"label\">How to pay</div>", val "PaymentInstructions",
      lit "</div>"],
    text "\n",
    text "\n",
    text "  ",
    whenTrue "ShowCompanyAddress" [lit "<p class=\"label\">", val "CompanyAddress", lit "</p>"],
    text "\n",
    text "  <p class=\"label\">", value "CompanyEmail", text " &middot; ", value "CompanyPhone",
    text "</p>\n",
    text "  <p>", value "FooterText", text "</p>\n",
    text "</div>\n",
    text "</body>\n",
    text "</html>\n" ]

/-- The template of the modern layout. -/
def modernOutline : Outline :=
  modernHead ++ (modernHeading ++ modernClosing)

end Invoicing.Layout
