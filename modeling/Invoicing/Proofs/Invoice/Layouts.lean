import Invoicing.Proofs.Invoice.Agreement

/-!
# What the bundled layouts show

The bundled layouts are outlines, and a bill in one of them is rendered to what its outline means
(`Bill.markup_eq_shown`), unless the currency symbol or the description of a row holds an
opening brace.  The layouts are long, and what is asked of them is asked of each literal and each
name alone: literals are tidy, names are names, and the rows ask for the names of a row.

Literals are checked as lists of characters.  `isTidy_toList` and `isName_toList` trade a string for
the list it is written with, which spares the checker from decoding each string.
-/

namespace Invoicing

theorem Text.isTidy_toList {literal : String} {content : Text}
    (h : literal = String.ofList content) (htidy : content.IsTidy) :
    Text.IsTidy literal.toList := by
  rwa [h, String.toList_ofList]

theorem Marker.isName_toList {literal : String} {content : Text}
    (h : literal = String.ofList content) (hname : IsName content) : IsName literal.toList := by
  rwa [h, String.toList_ofList]

namespace Layout

open Outline

theorem mem_all (layout : Layout) : layout ∈ all := by
  cases layout <;> decide

theorem isWritten_outline (layout : Layout) : layout.outline.IsWritten := by
  cases layout
  all_goals
    simp only [outline, Outline.IsWritten, professionalOutline, professionalHead,
      professionalHeading, professionalItems, professionalClosing, modernOutline, modernHead,
      modernHeading, modernClosing, classicOutline, classicHead, classicHeading, classicClosing,
      minimalOutline, minimalHead, minimalBody, text, value, lit, val, whenTrue, whenFalse,
      List.forall_mem_append, List.forall_mem_cons, Node.IsWritten, Piece.IsWritten,
      List.not_mem_nil, false_imp_iff, implies_true, and_true, and_assoc]
    -- one literal or name after another, from the first to the last
    repeat refine ⟨by
      first
        | exact Text.isTidy_toList rfl (by decide +kernel)
        | exact Marker.isName_toList rfl (by decide +kernel), ?_⟩
    exact Text.isTidy_toList rfl (by decide +kernel)

theorem asksRowFields_all :
    ∀ layout ∈ all, ∀ node ∈ layout.outline, Bill.AsksRowFields node := by
  decide +kernel

end Layout

/-- **The markup of a bill in a bundled layout is what the outline of the layout means.** -/
theorem Bill.markup_eq_shown {bill : Bill} (hlayout : bill.appearance.customBody = none)
    (hsymbol : '{' ∉ bill.symbol)
    (hitems : ∀ row ∈ bill.invoice.lineItems, '{' ∉ row.description) :
    bill.markup = bill.shown bill.appearance.layout.outline := by
  have hrows := Layout.asksRowFields_all _ bill.appearance.layout.mem_all
  calc bill.markup
      = Template.renderText bill.appearance.layout.outline.source bill.context := by
        rw [markup, Appearance.body, hlayout, Option.getD_none, Layout.body]
    _ = bill.shown bill.appearance.layout.outline :=
        Outline.renderText_eq_evaluate_of_repeatsSettled (Layout.isWritten_outline _)
          (repeatsSettled_of_asksRowFields hrows hsymbol hitems)

end Invoicing
