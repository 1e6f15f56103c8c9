import Invoicing.Binding.Scope

/-!
# The texts that a context brings into the output

A value that is put into a template can hold the braces of a marker only when it is a
text: numbers, flags and the placeholder of a sequence are written without braces
(`Binding.openBrace_notMem_toText`).  So it is enough to look at the texts that are
bound, at the root and inside the elements of its sequences (`Context.Holds`).
-/

namespace Invoicing

/-! ## Numbers are written without braces -/

theorem Text.openBrace_notMem_ofNat (number : Nat) : '{' ∉ Text.ofNat number := by
  intro hmem
  have hdigit : Char.isDigit '{' := Nat.isDigit_of_mem_toDigits (by decide) (by decide) hmem
  simp at hdigit

theorem Text.openBrace_notMem_ofInt (number : Int) : '{' ∉ Text.ofInt number := by
  unfold Text.ofInt
  split <;> simp [Text.openBrace_notMem_ofNat]

theorem Text.openBrace_notMem_zeroPadded {digits : Text} (width : Nat) (h : '{' ∉ digits) :
    '{' ∉ Text.zeroPadded width digits := by
  simp [zeroPadded, List.mem_replicate, h]

theorem Decimal.openBrace_notMem_text (decimal : Decimal) : '{' ∉ decimal.text := by
  have hdigits : ∀ width, '{' ∉ Text.zeroPadded width (Text.ofNat decimal.magnitude) :=
    fun width => Text.openBrace_notMem_zeroPadded width (Text.openBrace_notMem_ofNat _)
  simp only [Decimal.text, List.mem_append, not_or]
  refine ⟨?_, ?_, ?_⟩
  · split <;> simp
  · exact fun hmem => hdigits _ (List.mem_of_mem_take hmem)
  · split
    · simp
    · simpa using fun hmem => hdigits _ (List.mem_of_mem_drop hmem)

/-- Only a text can bring an opening brace into the output. -/
theorem Binding.openBrace_notMem_toText {binding : Binding}
    (h : ∀ text, binding = .scalar (.text text) → '{' ∉ text) : '{' ∉ binding.toText := by
  cases binding with
  | sequence items =>
      intro hmem
      rcases List.mem_append.mp hmem with hmem | hmem
      · simp at hmem
      · rcases List.mem_append.mp hmem with hmem | hmem
        · exact Text.openBrace_notMem_ofNat items.length hmem
        · simp at hmem
  | scalar held =>
      show '{' ∉ held.toText
      cases held with
      | null => simp [Scalar.toText]
      | bool flag => cases flag <;> simp [Scalar.toText]
      | text content => exact h content rfl
      | whole number => exact Text.openBrace_notMem_ofInt number
      | decimal number => exact Decimal.openBrace_notMem_text number

theorem Scope.openBrace_notMem_toText {scope : Scope} {name : Text}
    (h : ∀ text, scope.lookup? name = some (.scalar (.text text)) → '{' ∉ text) :
    '{' ∉ scope.toText name := by
  unfold Scope.toText
  cases hlookup : scope.lookup? name with
  | none => simp
  | some binding =>
      refine Binding.openBrace_notMem_toText fun text htext => h text ?_
      rw [hlookup, htext]

/-! ## Texts inside a context -/

/-- The text of a scalar that is one. -/
def Scalar.text? : Scalar → Option Text
  | .text content => some content
  | _ => none

/-- A text is bound in a context, or in an element of one of its sequences, at any depth. -/
inductive Context.Holds : Context → Text → Prop where
  /-- The context binds the text. -/
  | here {context : Context} {name text : Text} :
      context.get? name = some (.scalar (.text text)) → Holds context text
  /-- An element of a sequence holds the text. -/
  | inside {context item : Context} {name text : Text} {items : List Context} :
      context.get? name = some (.sequence items) → item ∈ items → Holds item text →
        Holds context text

mutual

/-- The texts of a binding, at any depth. -/
def Binding.texts : Binding → List Text
  | .scalar held => held.text?.toList
  | .sequence items => Context.textsOfItems items

/-- The texts of a context, at any depth. -/
def Context.texts : Context → List Text
  | ⟨entries⟩ => Context.textsOfEntries entries

/-- The texts of the elements of a sequence. -/
def Context.textsOfItems : List Context → List Text
  | [] => []
  | item :: items => item.texts ++ Context.textsOfItems items

/-- The texts of some bindings. -/
def Context.textsOfEntries : List (Text × Binding) → List Text
  | [] => []
  | (_, binding) :: entries => binding.texts ++ Context.textsOfEntries entries

end

theorem Context.texts_subset_of_mem {item : Context} {items : List Context} (h : item ∈ items) :
    item.texts ⊆ textsOfItems items := by
  induction items with
  | nil => simp at h
  | cons head rest ih =>
      rw [textsOfItems]
      rcases List.mem_cons.mp h with rfl | h
      · exact List.subset_append_left _ _
      · exact List.subset_append_of_subset_right _ (ih h)

theorem Context.texts_subset_of_get? {context : Context} {name : Text} {binding : Binding}
    (h : context.get? name = some binding) : binding.texts ⊆ context.texts := by
  obtain ⟨entries⟩ := context
  rw [texts]
  induction entries with
  | nil => simp [get?] at h
  | cons entry rest ih =>
      obtain ⟨key, bound⟩ := entry
      rw [textsOfEntries]
      rw [get?, Text.lookup_cons_eq_ite] at h
      split at h
      · rw [Option.some.injEq] at h
        exact h ▸ List.subset_append_left _ _
      · exact List.subset_append_of_subset_right _ (ih h)

/-- All texts that a context holds can be listed. -/
theorem Context.Holds.mem_texts {context : Context} {text : Text} (h : context.Holds text) :
    text ∈ context.texts := by
  induction h with
  | here hbound => exact texts_subset_of_get? hbound (by simp [Binding.texts, Scalar.text?])
  | inside hbound hitem _ ih =>
      refine texts_subset_of_get? hbound ?_
      rw [Binding.texts]
      exact texts_subset_of_mem hitem ih

/-- What an element and the context around it bring in for a name. -/
theorem Context.openBrace_notMem_toText_push {context item : Context} {name : Text}
    (hitem : ∀ text, item.Holds text → '{' ∉ text)
    (hroot : ∀ text, context.get? name = some (.scalar (.text text)) → '{' ∉ text) :
    '{' ∉ ((Scope.ofContext context).push item).toText name := by
  refine Scope.openBrace_notMem_toText fun text htext => ?_
  rw [Scope.lookup?_push, Scope.lookup?_ofContext] at htext
  cases hbound : item.get? name with
  | some binding =>
      rw [hbound, Option.some_or, Option.some.injEq] at htext
      exact hitem text (.here (by rw [hbound, htext]))
  | none =>
      rw [hbound, Option.none_or] at htext
      exact hroot text htext

end Invoicing
