import Invoicing.Invoice.Bill
import Invoicing.Proofs.Binding.Texts
import Mathlib.Data.List.Nodup

/-!
# What a template finds in a bill

The context of a bill binds the names of `billFields`, each once, so a name stands for what
`Bill.bindings` lists under it (`Bill.lookup?_context`).  Only the rows are a sequence
(`Bill.eq_of_lookup?_context_sequence`).

Within a row every name stands for a figure or for the description
(`LineItem.openBrace_notMem_toText`).  Figures are digits and the currency symbol, so a row
brings braces into the output when the symbol or a description holds some, and not otherwise.
-/

namespace Invoicing

/-! ## Figures -/

namespace Figure

theorem openBrace_notMem_trimmed (number : Decimal) : '{' ∉ trimmed number :=
  Decimal.openBrace_notMem_text _

/-- Grouping digits brings commas in only. -/
theorem mem_grouped {char : Char} {digits : Text} (h : char ∈ grouped digits) :
    char = ',' ∨ char ∈ digits := by
  fun_induction grouped digits with
  | case1 => exact Or.inr h
  | case2 digit rest hgroup ih =>
      rcases List.mem_cons.mp h with rfl | h
      · exact Or.inr (List.mem_cons_self ..)
      · rcases List.mem_cons.mp h with hcomma | h
        · exact Or.inl hcomma
        · exact (ih h).imp_right (List.mem_cons_of_mem _)
  | case3 digit rest hgroup ih =>
      rcases List.mem_cons.mp h with rfl | h
      · exact Or.inr (List.mem_cons_self ..)
      · exact (ih h).imp_right (List.mem_cons_of_mem _)

/-- Of an amount of money only the symbol can hold a brace. -/
theorem openBrace_notMem_currency {symbol : Text} (h : '{' ∉ symbol) (amount : Decimal) :
    '{' ∉ currency symbol amount := by
  have hnumeral : '{' ∉ ((rounded amount).abs.extendTo 2).text := Decimal.openBrace_notMem_text _
  unfold currency
  intro hmem
  rcases List.mem_append.mp hmem with hsign | hmem
  · split at hsign <;> simp at hsign
  rcases List.mem_append.mp hmem with hsymbol | hmem
  · exact h hsymbol
  rcases List.mem_append.mp hmem with hdigits | hplaces
  · rcases mem_grouped hdigits with hcomma | hdigits
    · simp at hcomma
    · exact hnumeral ((List.takeWhile_prefix _).subset hdigits)
  · rcases List.mem_cons.mp hplaces with hpoint | hplaces
    · simp at hpoint
    · split at hplaces
      · next point places hpoint =>
          have hdropped : '{' ∈ point :: places := List.mem_cons_of_mem _ hplaces
          rw [← hpoint] at hdropped
          exact hnumeral ((List.dropWhile_suffix _).subset hdropped)
      · simp at hplaces

end Figure

/-! ## The names of a bill -/

@[simp] theorem Binding.toText_ofText (content : Text) : (ofText content).toText = content := rfl

@[simp] theorem Binding.toText_ofText? (content : Option Text) :
    (ofText? content).toText = content.getD [] := by
  cases content <;> rfl

theorem Binding.ofText?_ne_sequence (content : Option Text) (items : List Context) :
    Binding.ofText? content ≠ .sequence items := by
  cases content <;> exact Binding.noConfusion

namespace Bill

variable (bill : Bill)

theorem map_fst_bindings : bill.bindings.map Prod.fst = billFields := by
  simp only [bindings, billFields, List.map_cons, List.map_nil]

theorem nodup_billFields : billFields.Nodup :=
  List.Nodup.map (fun _ _ => String.toList_inj.mp) (by simp)

/-- A template finds under a name what the bill lists under it. -/
theorem lookup?_context (name : Text) :
    (Scope.ofContext bill.context).lookup? name = bill.bindings.lookup name := by
  have hnodup : (bill.bindings.map Prod.fst).Nodup := map_fst_bindings bill ▸ nodup_billFields
  rw [Scope.lookup?_ofContext, context, Context.get?_ofList hnodup]

theorem lookup?_context_of_mem {name : Text} {binding : Binding}
    (h : (name, binding) ∈ bill.bindings) :
    (Scope.ofContext bill.context).lookup? name = some binding := by
  have hnodup : (bill.bindings.map Prod.fst).Nodup := map_fst_bindings bill ▸ nodup_billFields
  rw [lookup?_context, Text.lookup_eq_some_of_mem hnodup h]

/-- Only the rows are a sequence. -/
theorem eq_of_lookup?_context_sequence {name : Text} {items : List Context}
    (h : (Scope.ofContext bill.context).lookup? name = some (.sequence items)) :
    name = "LineItems".toList ∧
      items = bill.invoice.lineItems.map (·.context bill.symbol) := by
  rw [lookup?_context] at h
  have hmem : (name, .sequence items) ∈ bill.bindings := Text.mem_of_lookup_eq_some h
  simpa only [bindings, List.mem_cons, Prod.mk.injEq, Binding.ofText, Binding.ofBool, reduceCtorEq,
    (Binding.ofText?_ne_sequence _ items).symm, Binding.sequence.injEq, List.not_mem_nil,
    and_false, false_or, or_false] using hmem

end Bill

/-! ## The names of a row -/

namespace LineItem

variable (symbol : Text) (item : LineItem)

/-- What the context of a row binds, in the order of `rowFields`. -/
def bindings : List (Text × Binding) := [
  ("Description".toList, .ofText item.description),
  ("Quantity".toList, .ofText (Figure.trimmed item.quantity)),
  ("UnitPrice".toList, .ofText (Figure.currency symbol item.unitPrice)),
  ("Amount".toList, .ofText (Figure.currency symbol item.amount))]

theorem map_fst_bindings : (item.bindings symbol).map Prod.fst = rowFields := by
  simp only [bindings, rowFields, List.map_cons, List.map_nil]

theorem nodup_rowFields : rowFields.Nodup :=
  List.Nodup.map (fun _ _ => String.toList_inj.mp) (by simp)

theorem get?_context (name : Text) :
    (item.context symbol).get? name = (item.bindings symbol).lookup name :=
  Context.get?_ofList (map_fst_bindings symbol item ▸ nodup_rowFields) name

/-- In the scope of a row its own names hide those around it. -/
theorem toText_push_context {scope : Scope} {name : Text} {binding : Binding}
    (h : (name, binding) ∈ item.bindings symbol) :
    (scope.push (item.context symbol)).toText name = binding.toText := by
  have hnodup : ((item.bindings symbol).map Prod.fst).Nodup :=
    map_fst_bindings symbol item ▸ nodup_rowFields
  rw [Scope.toText, Scope.lookup?_push, get?_context, Text.lookup_eq_some_of_mem hnodup h]
  rfl

/-- What a row binds shows no braces when the symbol and the description hold none. -/
theorem openBrace_notMem_of_mem_bindings (hsymbol : '{' ∉ symbol)
    (hdescription : '{' ∉ item.description) :
    ∀ entry ∈ item.bindings symbol, '{' ∉ entry.2.toText := by
  simp only [bindings, List.forall_mem_cons, Binding.toText_ofText]
  exact ⟨hdescription, Figure.openBrace_notMem_trimmed _,
    Figure.openBrace_notMem_currency hsymbol _, Figure.openBrace_notMem_currency hsymbol _,
    fun _ hnone => absurd hnone List.not_mem_nil⟩

theorem openBrace_notMem_toText {scope : Scope} {name : Text} (hname : name ∈ rowFields)
    (hsymbol : '{' ∉ symbol) (hdescription : '{' ∉ item.description) :
    '{' ∉ (scope.push (item.context symbol)).toText name := by
  rw [← map_fst_bindings symbol item] at hname
  obtain ⟨entry, hmem, rfl⟩ := List.mem_map.mp hname
  rw [toText_push_context symbol item hmem]
  exact item.openBrace_notMem_of_mem_bindings symbol hsymbol hdescription entry hmem

/-- No text of a row holds a brace when the symbol and the description hold none. -/
theorem openBrace_notMem_of_holds (hsymbol : '{' ∉ symbol) (hdescription : '{' ∉ item.description)
    {text : Text} (h : (item.context symbol).Holds text) : '{' ∉ text := by
  cases h with
  | here hbound =>
      rw [get?_context] at hbound
      have hmem := Text.mem_of_lookup_eq_some hbound
      exact item.openBrace_notMem_of_mem_bindings symbol hsymbol hdescription _ hmem
  | inside hbound _ _ =>
      rw [get?_context] at hbound
      have hmem := Text.mem_of_lookup_eq_some hbound
      simp [bindings, Binding.ofText] at hmem

end LineItem

end Invoicing
