import Invoicing.Proofs.Marker.Sweep
import Invoicing.Template.Passes

/-!
# A block that repeats plain text and values

The simplest template with a loop is one block over a sequence whose body holds no
block markers.  The section pass leaves it alone, the loop pass fills its body once
for each element, and one would expect that to be the output.  It is not quite: the
value pass reads the text of the loop once more, so whatever looks like a plain marker
there is looked up in the root context (`renderText_repeatedBlock`).

The output is the filled bodies whenever no plain marker stands in them, and, as long
as the root context holds no opening braces of its own, in no other case.
`not_renderText_eq_filledItems` is the smallest example: the value of an element is
the written form of a marker, and what that marker names is shown in its place.
-/

namespace Invoicing.Template

/-- The bodies of a block, filled once for each element and written one after another. -/
def filledItems (scope : Scope) (items : List Context) (body : Text) : Text :=
  items.flatMap fun item => fillValues (scope.push item) body

/-! ## The passes over texts without block markers -/

theorem replaceBlocks_eq_self_of_isBlockFree {sigil : Sigil} (hsigil : sigil ≠ .plain)
    (replacement : Block → Text) {source : Text} (h : source.IsBlockFree) :
    replaceBlocks sigil replacement source = source := by
  refine replaceBlocks_eq_self replacement fun marker hmarker hsame => ?_
  exact hsigil (hsame ▸ Text.isBlockFree_iff.mp h marker hmarker)

/-- The section pass leaves a text without block markers alone. -/
theorem resolveSections_eq_self (scope : Scope) {source : Text} (h : source.IsBlockFree) :
    resolveSections scope source = source := by
  rw [resolveSections, replaceBlocks_eq_self_of_isBlockFree (by decide) _ h,
    replaceBlocks_eq_self_of_isBlockFree (by decide) _ h]

theorem fillValues_eq_self (scope : Scope) {source : Text} (h : source.IsValueFree) :
    fillValues scope source = source :=
  replaceValues_eq_self scope.toText (Text.isValueFree_iff.mp h)

/-- Without block markers, only the value pass has something to do. -/
theorem renderText_eq_fillValues (context : Context) {source : Text} (h : source.IsBlockFree) :
    renderText source context = fillValues (.ofContext context) source := by
  rw [renderText, resolveSections_eq_self _ h, expandLoops,
    replaceBlocks_eq_self_of_isBlockFree (by decide) _ h]

theorem isBlockFree_text_plain {name : Text} (hname : Marker.IsName name) :
    (Marker.mk .plain name).text.IsBlockFree := by
  have hmarkers : markersOf (Marker.mk .plain name).text = [⟨.plain, name⟩] := by
    simpa using @markersOf_text_append ⟨.plain, name⟩ hname []
  simp [Text.isBlockFree_iff, hmarkers]

theorem fillValues_text_plain (scope : Scope) {name : Text} (hname : Marker.IsName name) :
    fillValues scope (Marker.mk .plain name).text = scope.toText name := by
  have hfilled := @replaceValues_text_append scope.toText ⟨.plain, name⟩ hname []
  simpa [fillValues] using hfilled

/-- A value pass whose values hold no opening braces changes every text that holds a
plain marker. -/
theorem isValueFree_of_fillValues_eq_self {scope : Scope} {source : Text}
    (hvalue : ∀ name, ⟨.plain, name⟩ ∈ markersOf source → '{' ∉ scope.toText name)
    (h : fillValues scope source = source) : source.IsValueFree := by
  have hcount : (fillValues scope source).count '{' +
      2 * (markersOf source).countP (·.sigil = .plain) = source.count '{' := by
    refine count_replaceValues ?_
    rintro ⟨sigil, name⟩ hmarker rfl
    exact hvalue name hmarker
  rw [h] at hcount
  refine Text.isValueFree_iff.mpr fun marker hmarker hplain => ?_
  have hpositive : 0 < (markersOf source).countP (·.sigil = .plain) :=
    List.countP_pos_iff.mpr ⟨marker, hmarker, by simpa using hplain⟩
  omega

/-! ## A block over a sequence -/

section Block

variable {context : Context} {name : Text} {items : List Context} {body : Text}

/-- A body without block markers does not hold the closing marker of its block. -/
theorem not_closingText_isInfix (hname : Marker.IsName name) (hbody : body.IsBlockFree) :
    ¬ Block.closingText name <:+: body :=
  hbody ⟨.slash, name⟩ hname Sigil.noConfusion

/-- The section pass leaves a block over a sequence alone when its body holds no block
markers. -/
theorem resolveSections_repeatedBlock {scope : Scope} (hname : Marker.IsName name)
    (hitems : scope.lookup? name = some (.sequence items)) (hbody : body.IsBlockFree) :
    resolveSections scope (Block.text .hash ⟨name, body⟩) = Block.text .hash ⟨name, body⟩ := by
  have hpositive : replaceBlocks .hash (keepOrDrop scope) (Block.text .hash ⟨name, body⟩) =
      Block.text .hash ⟨name, body⟩ := by
    rw [replaceBlocks_block _ hname (not_closingText_isInfix hname hbody)]
    simp [keepOrDrop, hitems]
  have hmarkers := @Block.markersOf_text_append .hash ⟨name, body⟩ hname []
  rw [resolveSections, hpositive]
  refine replaceBlocks_eq_self _ fun marker hmarker hcaret => ?_
  rw [← List.append_nil (Block.text _ _), hmarkers] at hmarker
  simp only [List.mem_cons, List.mem_append, markersOf_nil, List.not_mem_nil, or_false] at hmarker
  rcases hmarker with rfl | hmarker | rfl
  · simp at hcaret
  · rw [Text.isBlockFree_iff.mp hbody marker hmarker] at hcaret
    simp at hcaret
  · simp at hcaret

/-- What the loop pass makes of a block over a sequence whose body holds no block markers. -/
theorem expandLoops_repeatedBlock {scope : Scope} (hname : Marker.IsName name)
    (hitems : scope.lookup? name = some (.sequence items)) (hbody : body.IsBlockFree) :
    expandLoops scope (Block.text .hash ⟨name, body⟩) = filledItems scope items body := by
  rw [expandLoops, replaceBlocks_block _ hname (not_closingText_isInfix hname hbody)]
  simp [repeatBody, hitems, filledItems, resolveSections_eq_self _ hbody]

/-- **A block over a sequence shows its bodies, filled for each element and then once more
for the root.**  The second filling changes nothing when no plain marker stands in the
filled bodies; if the root gives the markers in them no opening braces, it changes
nothing in no other case. -/
theorem renderText_repeatedBlock (hname : Marker.IsName name)
    (hitems : context.get? name = some (.sequence items)) (hbody : body.IsBlockFree) :
    let scope := Scope.ofContext context
    let output := renderText (Block.text .hash ⟨name, body⟩) context
    let filled := filledItems scope items body
    output = fillValues scope filled ∧
      (filled.IsValueFree → output = filled) ∧
        ((∀ other, ⟨.plain, other⟩ ∈ markersOf filled → '{' ∉ scope.toText other) →
          output = filled → filled.IsValueFree) := by
  intro scope output filled
  have hlookup : scope.lookup? name = some (.sequence items) := hitems
  have houtput : output = fillValues scope filled := by
    show fillValues scope (expandLoops scope (resolveSections scope _)) = _
    rw [resolveSections_repeatedBlock hname hlookup hbody,
      expandLoops_repeatedBlock hname hlookup hbody]
  refine ⟨houtput, ?_, ?_⟩
  · intro hfree
    rw [houtput, fillValues_eq_self scope hfree]
  · intro hvalue hsame
    exact isValueFree_of_fillValues_eq_self hvalue (houtput.symm.trans hsame)

end Block

/-! ## A value that is read again -/

/-- One element, whose value is the written form of a marker. -/
def echoingItems : List Context :=
  [.ofList [("V".toList, .ofText (Marker.mk .plain "Secret".toList).text)]]

/-- What that marker names is bound at the root. -/
def echoing : Context :=
  .ofList [("L".toList, .sequence echoingItems), ("Secret".toList, .ofText "leak".toList)]

/-- The value of `V`, asked for in a block. -/
def echoingBody : Text := (Marker.mk .plain "V".toList).text

theorem isBlockFree_echoingBody : echoingBody.IsBlockFree :=
  isBlockFree_text_plain (by decide)

/-- The value of an element does not always reach the output as it is. -/
theorem not_renderText_eq_filledItems :
    ¬ ∀ (context : Context) (name : Text) (items : List Context) (body : Text),
      Marker.IsName name → context.get? name = some (.sequence items) → body.IsBlockFree →
        renderText (Block.text .hash ⟨name, body⟩) context =
          filledItems (.ofContext context) items body := by
  intro h
  have hsame := h echoing "L".toList echoingItems echoingBody (by decide) rfl
    isBlockFree_echoingBody
  have houtput : renderText (Block.text .hash ⟨"L".toList, echoingBody⟩) echoing =
      "leak".toList := by decide +kernel
  have hfilled : filledItems (.ofContext echoing) echoingItems echoingBody =
      (Marker.mk .plain "Secret".toList).text := by decide +kernel
  rw [houtput, hfilled] at hsame
  exact absurd hsame (by decide)

/-- The root fills what the element has written. -/
theorem renderText_echoing :
    renderText (Block.text .hash ⟨"L".toList, echoingBody⟩) echoing =
      fillValues (.ofContext echoing) (filledItems (.ofContext echoing) echoingItems echoingBody) :=
  (@renderText_repeatedBlock echoing "L".toList echoingItems echoingBody (by decide) rfl
    isBlockFree_echoingBody).1

end Invoicing.Template
