import Invoicing.Invoice.Sample
import Invoicing.Proofs.Invoice.Bindings
import Invoicing.Proofs.Marker.Places
import Invoicing.Proofs.Template.Dependence
import Invoicing.Proofs.Template.Lookups

/-!
# The names that no bill can supply

A template is checked before there is an invoice to show: `unknownFields` compares its names with
two lists that are kept beside the bindings.  The lists say the same as the bindings.

Main statement: `unknownFields_exact`.  For every bill with rows the unknown fields of a text are
the names on its markers that are found neither in the context of the bill nor in the scope of one
of its rows.  No rendering of a bill finds one of them, so it may leave them out of all look-ups.

## Strategy

A bill binds the names of `billFields`, whatever it holds, and each of its rows those of
`rowFields` (`Bill.lookup?_context_eq_none_iff`, `LineItem.get?_context_eq_none_iff`).  The rows are
the only sequence, so a rendering of a bill opens its context and the scopes of its rows
(`Bill.opens_iff`).
-/

namespace Invoicing

/-- A marker of the text asks for the name; a closing marker asks for none. -/
def Template.AsksFor (source name : Text) : Prop :=
  ∃ placed : PlacedMarker, placed.StandsIn source ∧ placed.marker.sigil ≠ .slash ∧
    placed.marker.name = name

/-! ## The names that are bound -/

/-- Every bill binds the same names. -/
theorem Bill.lookup?_context_eq_none_iff (bill : Bill) {name : Text} :
    (Scope.ofContext bill.context).lookup? name = none ↔ name ∉ billFields := by
  rw [lookup?_context, Text.lookup_eq_none_iff, map_fst_bindings]

/-- So does every row. -/
theorem LineItem.get?_context_eq_none_iff (symbol : Text) (item : LineItem) {name : Text} :
    (item.context symbol).get? name = none ↔ name ∉ rowFields := by
  rw [get?_context, Text.lookup_eq_none_iff, map_fst_bindings]

theorem mem_unknownFields_iff {body name : Text} : name ∈ unknownFields body ↔
    Template.AsksFor body name ∧ name ∉ billFields ∧ name ∉ rowFields := by
  simp only [unknownFields, List.mem_filter, Template.mem_names_analyze, Template.AsksFor,
    mem_placedMarkers_iff, Bool.and_eq_true, Bool.not_eq_true',
    List.contains_eq_mem, decide_eq_false_iff_not]

example : unknownFields (Block.text .hash
    ⟨"LineItems".toList, (Marker.mk .plain "Ammount".toList).text⟩) = ["Ammount".toList] := by
  decide +kernel

/-! ## The scopes of a bill -/

namespace Bill

theorem lookup?_lineItems (bill : Bill) :
    (Scope.ofContext bill.context).lookup? "LineItems".toList =
      some (.sequence (bill.invoice.lineItems.map (·.context bill.symbol))) :=
  bill.lookup?_context_of_mem (by simp only [bindings, List.mem_cons, true_or, or_true])

variable {bill : Bill} {name body : Text}

/-- The scope of a row. -/
def rowScope (bill : Bill) (item : LineItem) : Scope :=
  (Scope.ofContext bill.context).push (item.context bill.symbol)

theorem lookup?_rowScope_eq_none_iff (item : LineItem) :
    (bill.rowScope item).lookup? name = none ↔ name ∉ rowFields ∧ name ∉ billFields := by
  rw [rowScope, Scope.lookup?_push, Option.or_eq_none_iff, LineItem.get?_context_eq_none_iff,
    lookup?_context_eq_none_iff]

/-- Rendering a bill opens its context and the scopes of its rows. -/
theorem opens_iff {scope : Scope} : bill.context.Opens scope ↔
    scope = .ofContext bill.context ∨
      ∃ item ∈ bill.invoice.lineItems, scope = bill.rowScope item := by
  constructor
  · rintro (_ | ⟨hbound, hrow⟩)
    · exact Or.inl rfl
    · obtain ⟨-, rfl⟩ := bill.eq_of_lookup?_context_sequence hbound
      obtain ⟨item, hitem, rfl⟩ := List.mem_map.mp hrow
      exact Or.inr ⟨item, hitem, rfl⟩
  · rintro (rfl | ⟨item, hitem, rfl⟩)
    · exact .around
    · exact .element bill.lookup?_lineItems (List.mem_map_of_mem hitem)

/-- No scope of a bill finds an unknown field. -/
theorem lookup?_eq_none_of_opens {scope : Scope} (hscope : bill.context.Opens scope)
    (hname : name ∈ unknownFields body) : scope.lookup? name = none := by
  obtain ⟨-, hbill, hrow⟩ := mem_unknownFields_iff.mp hname
  rcases opens_iff.mp hscope with rfl | ⟨item, -, rfl⟩
  · exact bill.lookup?_context_eq_none_iff.mpr hbill
  · exact (lookup?_rowScope_eq_none_iff item).mpr ⟨hrow, hbill⟩

end Bill

/-! ## What is reported -/

/-- Look-ups that find none of some names. -/
def Scope.lookupExcept? (hidden : List Text) (scope : Scope) (name : Text) : Option Binding :=
  if name ∈ hidden then none else scope.lookup? name

theorem Bill.lookupExcept?_unknownFields {bill : Bill} {scope : Scope} (body : Text)
    (hscope : bill.context.Opens scope) :
    scope.lookupExcept? (unknownFields body) = scope.lookup? := by
  funext name
  unfold Scope.lookupExcept?
  split
  · next hname => exact (lookup?_eq_none_of_opens hscope hname).symm
  · rfl

/-- **The unknown fields are the names that no bill can supply.** -/
theorem unknownFields_exact (body : Text) :
    (unknownFields body).Pairwise (· < ·) ∧
    (∀ bill : Bill, bill.invoice.lineItems ≠ [] →
      ∃ rows ≠ [], (Scope.ofContext bill.context).lookup? "LineItems".toList =
          some (.sequence rows) ∧
        ∀ row ∈ rows, ∀ name, name ∈ unknownFields body ↔ Template.AsksFor body name ∧
          (Scope.ofContext bill.context).lookup? name = none ∧
          ((Scope.ofContext bill.context).push row).lookup? name = none) ∧
    (∀ bill : Bill, ∀ scope, bill.context.Opens scope → ∀ name ∈ unknownFields body,
      scope.lookup? name = none) ∧
    ∀ bill : Bill,
      Template.renderTextBy (Scope.lookupExcept? (unknownFields body)) body bill.context =
        Template.renderText body bill.context := by
  refine ⟨?_, fun bill hrows => ?_, fun bill scope hscope name hname => ?_, fun bill => ?_⟩
  · exact (Template.Analysis.pairwise_names _).sublist List.filter_sublist
  · refine ⟨_, by simpa using hrows, bill.lookup?_lineItems, fun row hrow name => ?_⟩
    obtain ⟨item, -, rfl⟩ := List.mem_map.mp hrow
    have hscope : ((Scope.ofContext bill.context).push (item.context bill.symbol)).lookup? name =
        none ↔ name ∉ rowFields ∧ name ∉ billFields := Bill.lookup?_rowScope_eq_none_iff item
    rw [mem_unknownFields_iff, bill.lookup?_context_eq_none_iff, hscope]
    tauto
  · exact Bill.lookup?_eq_none_of_opens hscope hname
  · exact Template.renderTextBy_eq_renderText
      (fun _ hscope => Bill.lookupExcept?_unknownFields body hscope) body

/-- A template with a misspelled name in its rows. -/
def misspelled : Text :=
  Block.text .hash ⟨"LineItems".toList, (Marker.mk .plain "Ammount".toList).text⟩

theorem unknownFields_misspelled :
    let bill := Sample.bill .standard .unnamed ['€'] ⟨2025, 1, 31, by decide⟩
    bill.invoice.lineItems ≠ [] ∧
      ∃ rows ≠ [], (Scope.ofContext bill.context).lookup? "LineItems".toList =
          some (.sequence rows) ∧
        ∀ row ∈ rows, ∀ name, name ∈ unknownFields misspelled ↔
          Template.AsksFor misspelled name ∧
          (Scope.ofContext bill.context).lookup? name = none ∧
          ((Scope.ofContext bill.context).push row).lookup? name = none := by
  intro bill
  have hrows : bill.invoice.lineItems ≠ [] := List.cons_ne_nil _ _
  exact ⟨hrows, (unknownFields_exact misspelled).2.1 bill hrows⟩

end Invoicing
