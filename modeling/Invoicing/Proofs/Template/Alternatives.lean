import Invoicing.Proofs.Template.Rendering
import Mathlib.Algebra.Order.BigOperators.Group.List
import Mathlib.Algebra.Order.Group.Nat

/-!
# Complementary sections in a repeated block

A block that repeats over a sequence may hold two sections of one name, a `#` section
and a `^` section, of which each element should show one.  The `#` section is decided for
each element: it lies inside the repeated block, which the first sweep passes over.  The
`^` section is not.  Its sweep goes through the whole text before any element has been
laid over the root, so the root alone decides it, once for all elements
(`source_expand_alternatives`).

So an element shows what it should exactly as long as it agrees with the root on the name,
or the `^` section is empty (`renderText_alternatives`).
-/

namespace Invoicing.Nesting

/-- Two sections of one name in a block over a sequence. -/
def alternatives (list name shown otherwise : Text) : Nesting :=
  block .positive list
    (block .positive name (text shown nil) (block .negative name (text otherwise nil) nil)) nil

/-- What an element shows: the root has decided on the second section. -/
def shownParts (root scope : Scope) (name shown otherwise : Text) : Text :=
  (if scope.isTruthy name then shown else []) ++ (if root.isTruthy name then [] else otherwise)

/-- What an element should show. -/
def chosenPart (scope : Scope) (name shown otherwise : Text) : Text :=
  if scope.isTruthy name then shown else otherwise

section Alternatives

variable {list name shown otherwise : Text}

theorem source_alternatives :
    (alternatives list name shown otherwise).source = Block.text .hash
      ⟨list, Block.text .hash ⟨name, shown⟩ ++ Block.text .caret ⟨name, otherwise⟩⟩ := by
  simp [alternatives, source, Polarity.sigil]

theorem isSettled_alternatives (hshown : '{' ∉ shown) (hotherwise : '{' ∉ otherwise) :
    (alternatives list name shown otherwise).IsSettled := by
  simp [alternatives, IsSettled, Text.isSettled_of_notMem hshown,
    Text.isSettled_of_notMem hotherwise]

theorem isProper_alternatives (hlist : Marker.IsName list) (hname : Marker.IsName name)
    (hne : name ≠ list) : (alternatives list name shown otherwise).IsProper := by
  simp [alternatives, IsProper, blocks, hlist, hname, hne]

/-- The section pass leaves the `#` section alone and decides on the `^` section. -/
theorem resolveSections_alternatives {root : Scope} {items : List Context}
    (hitems : root.lookup? list = some (.sequence items)) :
    (alternatives list name shown otherwise).resolveSections root =
      block .positive list (block .positive name (text shown nil)
        (keepUnlessTruthy root name (text otherwise nil))) nil := by
  simp [alternatives, resolveSections, replace, keepOrDrop, hitems]

/-- What one element makes of the two sections. -/
theorem source_element {root scope : Scope}
    (hname : ∀ inner, scope.lookup? name ≠ some (.sequence inner)) :
    (((block .positive name (text shown nil) (keepUnlessTruthy root name
      (text otherwise nil))).resolveSections scope).fillValues scope).source =
        shownParts root scope name shown otherwise := by
  have hsecond : ∀ polarity replacement, (keepUnlessTruthy root name
      (text otherwise nil)).replace polarity replacement =
        keepUnlessTruthy root name (text otherwise nil) := by
    intro polarity replacement
    unfold keepUnlessTruthy
    split <;> rfl
  rw [resolveSections, replace, if_pos rfl, keepOrDrop_eq_ite hname, hsecond, replace_append,
    hsecond, shownParts, keepUnlessTruthy]
  by_cases hscope : scope.isTruthy name <;> by_cases hroot : root.isTruthy name <;>
    simp [hscope, hroot, replace, fillValues, source]

theorem source_expand_alternatives {root : Scope} {items : List Context}
    (hitems : root.lookup? list = some (.sequence items))
    (hname : ∀ item ∈ items, ∀ inner, (root.push item).lookup? name ≠ some (.sequence inner)) :
    (((alternatives list name shown otherwise).expand root).fillValues root).source =
      items.flatMap fun item => shownParts root (root.push item) name shown otherwise := by
  have hexpand : (alternatives list name shown otherwise).expand root =
      repeatEach root (block .positive name (text shown nil)
        (keepUnlessTruthy root name (text otherwise nil))) items := by
    rw [expand, resolveSections_alternatives hitems]
    simp [expandLoops, replace, repeatBody, hitems]
  rw [hexpand, fillValues_eq_self valueNames_repeatEach, source_repeatEach]
  exact List.flatMap_congr fun item hitem => source_element (hname item hitem)

/-! ## When the root has decided as the element would -/

/-- Two lists of texts that join to the same text agree in length one by one, if the texts of
one are nowhere longer. -/
theorem length_eq_of_flatMap_eq {items : List Context} {first second : Context → Text}
    (hle : ∀ item ∈ items, (first item).length ≤ (second item).length)
    (h : items.flatMap first = items.flatMap second) :
    ∀ item ∈ items, (first item).length = (second item).length := by
  intro item hitem
  by_contra hne
  have hlt : (items.map fun item => (first item).length).sum <
      (items.map fun item => (second item).length).sum :=
    List.sum_lt_sum _ _ hle ⟨item, hitem, lt_of_le_of_ne (hle item hitem) hne⟩
  rw [← List.length_flatMap, ← List.length_flatMap, h] at hlt
  exact lt_irrefl _ hlt

theorem length_shownParts_eq_iff {root scope : Scope} :
    (shownParts root scope name shown otherwise).length =
      (chosenPart scope name shown otherwise).length ↔
        otherwise = [] ∨ scope.isTruthy name = root.isTruthy name := by
  unfold shownParts chosenPart
  by_cases hscope : scope.isTruthy name <;> by_cases hroot : root.isTruthy name <;>
    simp [hscope, hroot, eq_comm]

/-- Every element shows what it should exactly when the root agrees with all of them, or there
is nothing to show otherwise. -/
theorem flatMap_shownParts_eq_iff (root : Scope) (items : List Context) :
    (items.flatMap fun item => shownParts root (root.push item) name shown otherwise) =
        (items.flatMap fun item => chosenPart (root.push item) name shown otherwise) ↔
      otherwise = [] ∨ ∀ item ∈ items, (root.push item).isTruthy name = root.isTruthy name := by
  constructor
  · intro h
    have hlength : ∀ item ∈ items,
        (shownParts root (root.push item) name shown otherwise).length =
          (chosenPart (root.push item) name shown otherwise).length := by
      -- a truthy root only takes away, another one only adds
      by_cases hroot : root.isTruthy name
      · refine length_eq_of_flatMap_eq (fun item _ => ?_) h
        by_cases hscope : (root.push item).isTruthy name <;>
          simp [shownParts, chosenPart, hscope, hroot]
      · intro item hitem
        refine (length_eq_of_flatMap_eq (fun item _ => ?_) h.symm item hitem).symm
        by_cases hscope : (root.push item).isTruthy name <;>
          simp [shownParts, chosenPart, hscope, hroot]
    by_cases hempty : otherwise = []
    · exact Or.inl hempty
    · refine Or.inr fun item hitem => ?_
      exact (length_shownParts_eq_iff.mp (hlength item hitem)).resolve_left hempty
  · intro h
    refine List.flatMap_congr fun item hitem => ?_
    unfold shownParts chosenPart
    rcases h with rfl | h
    · split <;> simp
    · rw [h item hitem]
      split <;> simp

/-- **The root decides on the `^` section of a repeated block.**  The elements show what they
should exactly when they all agree with it, or the section is empty. -/
theorem renderText_alternatives {context : Context} {items : List Context}
    (hlist : Marker.IsName list) (hname : Marker.IsName name) (hne : name ≠ list)
    (hitems : context.get? list = some (.sequence items))
    (hroot : ∀ inner, context.get? name ≠ some (.sequence inner))
    (hitem : ∀ item ∈ items, ∀ inner, item.get? name ≠ some (.sequence inner))
    (hshown : '{' ∉ shown) (hotherwise : '{' ∉ otherwise) :
    let root := Scope.ofContext context
    let output := Template.renderText (Block.text .hash
      ⟨list, Block.text .hash ⟨name, shown⟩ ++ Block.text .caret ⟨name, otherwise⟩⟩) context
    (output = items.flatMap fun item => shownParts root (root.push item) name shown otherwise) ∧
      ((output = items.flatMap fun item => chosenPart (root.push item) name shown otherwise) ↔
        otherwise = [] ∨ ∀ item ∈ items, (root.push item).isTruthy name = root.isTruthy name) := by
  intro root output
  have hsettled := @isSettled_alternatives list name _ _ hshown hotherwise
  have hlookup : root.lookup? list = some (.sequence items) := hitems
  have hpushed : ∀ item ∈ items, ∀ inner,
      (root.push item).lookup? name ≠ some (.sequence inner) := by
    intro item hmem inner hinner
    rw [Scope.lookup?_push] at hinner
    rcases Option.or_eq_some_iff.mp hinner with hbound | ⟨-, hbound⟩
    · exact hitem item hmem inner hbound
    · exact hroot inner hbound
  have hexpand : ((alternatives list name shown otherwise).expand root).IsSettled :=
    isSettled_expand hsettled (by simp [alternatives, bodyNames, valueNames])
  have houtput : output =
      items.flatMap fun item => shownParts root (root.push item) name shown otherwise := by
    show Template.renderText _ context = _
    rw [← source_alternatives, renderText_source hsettled (isProper_alternatives hlist hname hne)
      hexpand, source_expand_alternatives hlookup hpushed]
  exact ⟨houtput, by rw [houtput, flatMap_shownParts_eq_iff]⟩

end Alternatives

/-! ## Elements that differ -/

/-- One element binds `N`, the other one does not. -/
def mixedItems : List Context := [.ofList [("N".toList, .ofText "t".toList)], .empty]

/-- The root does not bind `N`. -/
def mixed : Context := .ofList [("L".toList, .sequence mixedItems)]

theorem getN?_mixedItems {item : Context} (hitem : item ∈ mixedItems) (inner : List Context) :
    item.get? "N".toList ≠ some (.sequence inner) := by
  simp only [mixedItems, List.mem_cons, List.not_mem_nil, or_false] at hitem
  rcases hitem with rfl | rfl
  · simp [Context.ofList, Binding.ofText]
  · simp

/-- Both sections can show for one element. -/
theorem not_renderText_eq_chosenPart :
    ¬ ∀ (context : Context) (list name : Text) (items : List Context) (shown otherwise : Text),
      Marker.IsName list → Marker.IsName name → name ≠ list →
      context.get? list = some (.sequence items) →
      (∀ inner, context.get? name ≠ some (.sequence inner)) →
      (∀ item ∈ items, ∀ inner, item.get? name ≠ some (.sequence inner)) →
      '{' ∉ shown → '{' ∉ otherwise →
        Template.renderText (Block.text .hash
          ⟨list, Block.text .hash ⟨name, shown⟩ ++ Block.text .caret ⟨name, otherwise⟩⟩) context =
        items.flatMap fun item =>
          chosenPart ((Scope.ofContext context).push item) name shown otherwise := by
  intro h
  have hsame := h mixed "L".toList "N".toList mixedItems ['X'] ['Y'] (by decide) (by decide)
    (by decide) rfl (by simp [mixed, Context.ofList]) (fun _ => getN?_mixedItems)
    (by decide) (by decide)
  exact absurd hsame (by decide +kernel)

theorem renderText_mixed : Template.renderText (Block.text .hash ⟨"L".toList,
    Block.text .hash ⟨"N".toList, ['X']⟩ ++ Block.text .caret ⟨"N".toList, ['Y']⟩⟩) mixed =
      ['X', 'Y', 'Y'] :=
  (@renderText_alternatives "L".toList "N".toList ['X'] ['Y'] mixed mixedItems (by decide)
    (by decide) (by decide) rfl (by simp [mixed, Context.ofList]) (fun _ => getN?_mixedItems)
    (by decide) (by decide)).1.trans (by decide +kernel)

end Invoicing.Nesting
