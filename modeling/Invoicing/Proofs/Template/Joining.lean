import Invoicing.Proofs.Template.Leftover

/-!
# Rendering one fragment after another

Every pass of the renderer sweeps over the whole text.  So it is not obvious that two templates,
written one after the other, are rendered one after the other: a block could open in the first one
and close in the second, a marker could arise where they meet, and one pass could prepare this for
the next.

None of it happens behind a fragment that is complete in itself.  Main statement:
`renderText_append`.  The first template has to be clean, with tidy text between its markers, and
the texts of the context must hold no opening braces; nothing is asked of the second one.

The sweeps over a well-nested template are known to stop at its end
(`Nesting.renderText_source_append`), for every text that follows.  What is left is that each pass
leaves a template of this kind for the next one.
-/

namespace Invoicing.Template

/-- **A complete fragment is rendered by itself**, whatever template follows it. -/
theorem renderText_append {first : Text} {context : Context} (hclean : (analyze first).isClean)
    (hliteral : ∀ content, .literal content ∈ tokens first → content.IsTidy)
    (hcontext : ∀ text, context.Holds text → '{' ∉ text) (second : Text) :
    renderText (first ++ second) context =
      renderText first context ++ renderText second context := by
  have hsettled : (Nesting.ofText first).IsSettled :=
    Nesting.isSettled_ofText hclean fun content hcontent => (hliteral content hcontent).isSettled
  have hproper : (Nesting.ofText first).IsProper := Nesting.isProper_ofText hclean
  have hexpand : ((Nesting.ofText first).expand (.ofContext context)).IsSettled :=
    Nesting.isSettled_expand_ofContext hsettled hcontext
  calc renderText (first ++ second) context
      = renderText ((Nesting.ofText first).source ++ second) context := by
        rw [Nesting.source_ofText]
    _ = (((Nesting.ofText first).expand (.ofContext context)).fillValues
          (.ofContext context)).source ++ renderText second context :=
        Nesting.renderText_source_append hsettled hproper hexpand second
    _ = renderText (Nesting.ofText first).source context ++ renderText second context := by
        rw [Nesting.renderText_source hsettled hproper hexpand]
    _ = renderText first context ++ renderText second context := by
        rw [Nesting.source_ofText]

/-- A repeated block with a section in it. -/
def listing : Text :=
  Block.text .hash ⟨"L".toList, Block.text .hash ⟨"A".toList, ['+']⟩ ++
    (Marker.mk .plain "V".toList).text⟩

/-- Two elements for the block. -/
def listed : Context :=
  .ofList [("L".toList, .sequence [
    .ofList [("A".toList, .ofBool true), ("V".toList, .ofText ['x'])],
    .ofList [("V".toList, .ofText ['y'])]])]

/-- A template that closes the block once more and opens it again. -/
def unmatched : Text :=
  Block.closingText "L".toList ++ (Marker.mk .hash "L".toList).text

theorem renderText_listing_append :
    renderText (listing ++ unmatched) listed =
      "+xy".toList ++ renderText unmatched listed := by
  have hclean : (analyze listing).isClean := by decide +kernel
  have htidy : ∀ token ∈ tokens listing, token.marker? = none → token.text.IsTidy := by
    decide +kernel
  have htexts : ∀ text ∈ listed.texts, '{' ∉ text := by decide +kernel
  have hfirst : renderText listing listed = "+xy".toList := by decide +kernel
  rw [renderText_append hclean (fun content hcontent => htidy _ hcontent rfl)
    (fun text htext => htexts text htext.mem_texts), hfirst]

/-- A text that ends in a brace makes a marker with what follows it. -/
example : renderText (['{'] ++ ['{', 'A', '}', '}']) .empty ≠
    renderText ['{'] .empty ++ renderText ['{', 'A', '}', '}'] .empty := by
  decide +kernel

end Invoicing.Template
