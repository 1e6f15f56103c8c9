import Invoicing.Proofs.Template.Meaning

/-!
# The markers of an outline, and the braces that it shows

An outline is a list of parts, so what is asked of its written form is asked of each part alone.

* The markers of the written form are those of the parts (`Outline.markersOf_source`).
* A body that is shown with some values is the written body with its markers replaced by them
  (`Piece.evaluateAll_eq_replaceValues`).
* Tidy literals and values without opening braces never make two braces in a row, whatever is
  kept, dropped or repeated (`Outline.isTidy_evaluate`).
-/

namespace Invoicing

/-! ## Markers -/

/-- The markers that a part is written with. -/
def Node.markers : Node → List Marker
  | .piece part => part.name?.toList.map (Marker.mk .plain)
  | .positive name body =>
      ⟨.hash, name⟩ :: ((body.filterMap Piece.name?).map (Marker.mk .plain) ++ [⟨.slash, name⟩])
  | .negative name body =>
      ⟨.caret, name⟩ :: ((body.filterMap Piece.name?).map (Marker.mk .plain) ++ [⟨.slash, name⟩])

theorem Piece.markers_nesting (pieces : List Piece) :
    (nesting pieces).markers = (pieces.filterMap name?).map (Marker.mk .plain) := by
  fun_induction nesting pieces with
  | case1 => rfl
  | case2 content rest ih => exact ih
  | case3 name rest ih => rw [Nesting.markers, ih]; rfl

theorem Node.markers_nesting (node : Node) : node.nesting.markers = node.markers := by
  cases node with
  | piece part => cases part <;> rfl
  | positive name body =>
      simp [nesting, Nesting.markers, markers, Piece.markers_nesting, Polarity.sigil]
  | negative name body =>
      simp [nesting, Nesting.markers, markers, Piece.markers_nesting, Polarity.sigil]

theorem Piece.markersOf_sourceAll {pieces : List Piece}
    (hwritten : ∀ part ∈ pieces, part.IsWritten) :
    markersOf (sourceAll pieces) = (pieces.filterMap name?).map (Marker.mk .plain) := by
  rw [← source_nesting, Nesting.markersOf_source (isSettled_nesting hwritten)
    (isProper_nesting hwritten), markers_nesting]

theorem Outline.markersOf_source {outline : Outline} (hwritten : outline.IsWritten) :
    markersOf outline.source = outline.flatMap Node.markers := by
  have hmarkers : (nesting outline).markers = outline.flatMap Node.markers := by
    clear hwritten
    induction outline with
    | nil => rfl
    | cons node rest ih =>
        rw [nesting, Nesting.markers_append, ih, Node.markers_nesting, List.flatMap_cons]
  rw [← source_nesting, Nesting.markersOf_source (isSettled_nesting hwritten)
    (isProper_nesting hwritten), hmarkers]

/-! ## Values in place of markers -/

/-- A body shows its written form with the values in place of the markers. -/
theorem Piece.evaluateAll_eq_replaceValues {pieces : List Piece} {scope : Scope}
    {value : Text → Text} (hwritten : ∀ part ∈ pieces, part.IsWritten)
    (hvalue : ∀ name ∈ pieces.filterMap name?, scope.toText name = value name) :
    evaluateAll scope pieces = replaceValues value (sourceAll pieces) := by
  induction pieces with
  | nil => exact (replaceValues_nil value).symm
  | cons part rest ih =>
      obtain ⟨hpart, hrest⟩ := List.forall_mem_cons.mp hwritten
      cases part with
      | text content =>
          have htidy : content.IsTidy := hpart
          have hshown := ih hrest hvalue
          calc evaluateAll scope (.text content :: rest)
              = content ++ evaluateAll scope rest := rfl
            _ = content ++ replaceValues value (sourceAll rest) := by rw [hshown]
            _ = replaceValues value (content ++ sourceAll rest) :=
                (replaceValues_append_of_isSettledBefore _ (htidy.isSettled.before _)).symm
      | value name =>
          have hname : Marker.IsName name := hpart
          obtain ⟨hfirst, hothers⟩ := List.forall_mem_cons.mp hvalue
          have hshown := ih hrest hothers
          calc evaluateAll scope (.value name :: rest)
              = scope.toText name ++ evaluateAll scope rest := rfl
            _ = value name ++ replaceValues value (sourceAll rest) := by rw [hfirst, hshown]
            _ = replaceValues value ((Marker.mk .plain name).text ++ sourceAll rest) :=
                (@replaceValues_text_append value ⟨.plain, name⟩ hname _).symm

/-! ## Braces in a row -/

section Tidy

variable {scope : Scope} {context : Context}

theorem Piece.isTidy_evaluateAll {pieces : List Piece} (hwritten : ∀ part ∈ pieces, part.IsWritten)
    (hvalue : ∀ name, '{' ∉ scope.toText name) : (evaluateAll scope pieces).IsTidy := by
  apply Text.isTidy_flatMap
  intro part hpart
  cases part with
  | text content => exact hwritten _ hpart
  | value name => exact Text.isTidy_of_notMem (hvalue name)

theorem Node.isTidy_evaluate {node : Node} (hwritten : node.IsWritten)
    (hcontext : ∀ text, context.Holds text → '{' ∉ text) :
    (node.evaluate (.ofContext context)).IsTidy := by
  have hroot : ∀ name, '{' ∉ (Scope.ofContext context).toText name := fun name =>
    Scope.openBrace_notMem_toText fun text htext => hcontext text (.here htext)
  have hnone : Text.IsTidy [] := Text.isTidy_of_notMem List.not_mem_nil
  cases node with
  | piece part =>
      cases part with
      | text content => exact hwritten
      | value name => exact Text.isTidy_of_notMem (hroot name)
  | positive name body =>
      obtain ⟨-, hbody⟩ := hwritten
      rw [evaluate]
      split
      · exact hnone
      · split
        · exact Piece.isTidy_evaluateAll hbody hroot
        · exact hnone
      · next items hitems =>
          apply Text.isTidy_flatMap
          intro item hitem
          apply Piece.isTidy_evaluateAll hbody
          intro other
          apply Context.openBrace_notMem_toText_push
          · intro text htext
            exact hcontext text (.inside hitems hitem htext)
          · intro text htext
            exact hcontext text (.here htext)
  | negative name body =>
      obtain ⟨-, hbody⟩ := hwritten
      rw [evaluate]
      split
      · exact hnone
      · exact Piece.isTidy_evaluateAll hbody hroot

/-- What an outline shows holds no two opening braces in a row. -/
theorem Outline.isTidy_evaluate {outline : Outline} (hwritten : outline.IsWritten)
    (hcontext : ∀ text, context.Holds text → '{' ∉ text) :
    (outline.evaluate (.ofContext context)).IsTidy :=
  Text.isTidy_flatMap fun node hnode => Node.isTidy_evaluate (hwritten node hnode) hcontext

end Tidy

end Invoicing
