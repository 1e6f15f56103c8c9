import Invoicing.Layout.Basic

/-!
# The appearance of an invoice

A layout, or a template text in its place, with the texts and colours that fill it and
the parts that may show.
-/

namespace Invoicing

/-- How an invoice looks. -/
structure Appearance where
  /-- The name of this appearance. -/
  name : Text
  /-- The layout. -/
  layout : Layout
  /-- The CSS font family. -/
  fontFamily : Text
  /-- The colour of headings. -/
  primaryColor : Text
  /-- The colour of muted text. -/
  secondaryColor : Text
  /-- The colour of backgrounds. -/
  accentColor : Text
  /-- The title. -/
  headerText : Text
  /-- The closing line. -/
  footerText : Text
  /-- How to pay. -/
  paymentInstructions : Text
  /-- Whether a logo may show. -/
  showLogo : Bool
  /-- Whether the address of the company may show. -/
  showCompanyAddress : Bool
  /-- Whether the due date shows. -/
  showDueDate : Bool
  /-- Whether the tax may show. -/
  showTaxBreakdown : Bool
  /-- Whether the notes may show. -/
  showNotes : Bool
  /-- Whether the payment instructions may show. -/
  showPaymentInstructions : Bool
  /-- The template text in place of that of the layout. -/
  customBody : Option Text
  deriving DecidableEq, Repr

namespace Appearance

/-- The usual texts and colours in a layout, named after it. -/
def ofLayout (layout : Layout) : Appearance where
  name := layout.title
  layout := layout
  fontFamily := "'Segoe UI', Arial, sans-serif".toList
  primaryColor := "#2563eb".toList
  secondaryColor := "#64748b".toList
  accentColor := "#f1f5f9".toList
  headerText := "INVOICE".toList
  footerText := "Thank you for your business!".toList
  paymentInstructions := []
  showLogo := true
  showCompanyAddress := true
  showDueDate := true
  showTaxBreakdown := true
  showNotes := true
  showPaymentInstructions := true
  customBody := none

/-- The appearance of an invoice for which none is chosen. -/
def standard : Appearance := ofLayout .professional

/-- The template text. -/
def body (appearance : Appearance) : Text :=
  appearance.customBody.getD appearance.layout.body

end Appearance

end Invoicing
