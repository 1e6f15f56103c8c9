import Invoicing.Proofs.Template.Parts
import Invoicing.Proofs.Template.Repetition
import Invoicing.Template.Pairing

/-!
# The names that a rendering depends on

The analysis lists the names on the plain, `#` and `^` markers of a template.  Two contexts that
bind these names alike should render the template alike.  They do not always
(`not_renderText_congr`), since the passes look names up in the texts between them: braces of
two literals meet when a block between them is taken out, and a value in a repeated body may
hold a marker of its own.

Main statement: `renderText_congr`.  Where neither happens (`IsSteadyIn`), a rendering depends
on the listed names only.

## Strategy

* **One list of tokens.**  The template is written by a steady list of tokens and a text behind
  the last marker (`Parts.exists_eq_source_append`), so both renderings are renderings of that list.
* **Taking away.**  The section pass only takes tokens away, so every block that it or the loop
  pass looks at is written with tokens of the template, in their order.  What the template says
  of the literals and values in its repeated bodies holds of those blocks as well.
* **Agreement.**  Scopes that agree on the names of a list of tokens make the same list of it,
  in the section pass and in the loop pass (`Parts.resolveSections_congr`,
  `Parts.expandLoops_congr`).  The list that is left asks for values of the template only, so
  the last pass agrees too.
-/

namespace Invoicing

namespace Parts

/-- Two scopes find the same under every name that a token looks up. -/
def Agree (parts : List Token) (first second : Scope) : Prop :=
  ∀ marker, .mark marker ∈ parts → marker.sigil ≠ .slash →
    first.lookup? marker.name = second.lookup? marker.name

section Agree

variable {first second : Scope} {name : Text} {parts body : List Token}

theorem Agree.mono (h : Agree parts first second) {fewer : List Token}
    (hfewer : fewer.Sublist parts) : Agree fewer first second :=
  fun marker hmarker => h marker (hfewer.subset hmarker)

/-- Scopes agree on as much when the same element is laid over both. -/
theorem Agree.push (h : Agree parts first second) (item : Context) :
    Agree parts (first.push item) (second.push item) := by
  intro marker hmarker hslash
  rw [Scope.lookup?_push, Scope.lookup?_push, h marker hmarker hslash]

theorem toText_congr (h : first.lookup? name = second.lookup? name) :
    first.toText name = second.toText name := by
  rw [Scope.toText, Scope.toText, h]

theorem keepOrDrop_congr (h : first.lookup? name = second.lookup? name) :
    keepOrDrop first name body = keepOrDrop second name body := by
  rw [keepOrDrop, keepOrDrop, h]

theorem keepUnlessTruthy_congr (h : first.lookup? name = second.lookup? name) :
    keepUnlessTruthy first name body = keepUnlessTruthy second name body := by
  rw [keepUnlessTruthy, keepUnlessTruthy, Scope.isTruthy, Scope.isTruthy, h]

/-- The name of a block is looked up. -/
theorem Agree.lookup?_eq (h : Agree parts first second) {sigil : Sigil}
    (hsigil : sigil ≠ .slash) (hblock : (block sigil name body).Sublist parts) :
    first.lookup? name = second.lookup? name :=
  h ⟨sigil, name⟩ (hblock.subset (List.mem_cons_self ..)) hsigil

theorem resolveSections_congr (h : Agree parts first second) :
    resolveSections first parts = resolveSections second parts := by
  have hpositive : sweep .hash (keepOrDrop first) parts =
      sweep .hash (keepOrDrop second) parts := by
    refine sweep_congr fun name body hblock => keepOrDrop_congr ?_
    exact h.lookup?_eq Sigil.noConfusion hblock
  have hkept : Agree (sweep .hash (keepOrDrop second) parts) first second :=
    h.mono (sweep_sublist fun _ _ => keepOrDrop_sublist second)
  rw [resolveSections, resolveSections, hpositive]
  refine sweep_congr fun name body hblock => keepUnlessTruthy_congr ?_
  exact hkept.lookup?_eq Sigil.noConfusion hblock

theorem fill_congr (h : Agree parts first second) :
    fill first.toText parts = fill second.toText parts := by
  refine List.map_congr_left fun token htoken => ?_
  cases token with
  | literal content => rfl
  | mark marker =>
      by_cases hplain : marker.sigil = .plain
      · have hslash : marker.sigil ≠ .slash := by simp [hplain]
        simp only [hplain, if_pos, toText_congr (h marker htoken hslash)]
      · simp only [hplain, if_false]

theorem repeatBody_congr (h : Agree (block .hash name body) first second) :
    repeatBody first name body = repeatBody second name body := by
  have hbody : body.Sublist (block .hash name body) :=
    (List.sublist_append_left body _).cons _
  have hitem : ∀ item : Context,
      fill (first.push item).toText (resolveSections (first.push item) body) =
        fill (second.push item).toText (resolveSections (second.push item) body) := by
    intro item
    have hpush : Agree body (first.push item) (second.push item) := (h.mono hbody).push item
    rw [resolveSections_congr hpush]
    exact fill_congr (hpush.mono (resolveSections_sublist _))
  have hname : first.lookup? name = second.lookup? name :=
    h.lookup?_eq Sigil.noConfusion (List.Sublist.refl _)
  rw [repeatBody, repeatBody, hname]
  simp only [hitem]

theorem expandLoops_congr (h : Agree parts first second) :
    expandLoops first parts = expandLoops second parts :=
  sweep_congr fun _ _ hblock => repeatBody_congr (h.mono hblock)

end Agree

/-! ## What the loop pass writes -/

section Expand

variable {scope : Scope} {name : Text} {parts body : List Token}

theorem sublist_block {token : Token} (h : token ∈ body) (sigil : Sigil) (name : Text) :
    [.mark ⟨sigil, name⟩, token, .mark ⟨.slash, name⟩].Sublist (block sigil name body) := by
  have htoken : [token].Sublist body := List.singleton_sublist.mpr h
  exact (htoken.append (List.Sublist.refl [.mark ⟨.slash, name⟩])).cons_cons _

theorem mark_mem_of_mem_fill {value : Text → Text} {marker : Marker}
    (h : .mark marker ∈ fill value parts) : .mark marker ∈ parts := by
  obtain ⟨token, htoken, hfilled⟩ := List.mem_map.mp h
  cases token with
  | literal content => simp at hfilled
  | mark other =>
      simp only at hfilled
      split at hfilled
      · simp at hfilled
      · exact hfilled ▸ htoken

/-- The loop pass brings no marker in. -/
theorem mark_mem_of_mem_expandLoops {marker : Marker}
    (h : .mark marker ∈ expandLoops scope parts) : .mark marker ∈ parts := by
  rcases mem_or_exists_of_mem_sweep h with h | ⟨name, body, hblock, hmarker⟩
  · exact h
  · unfold repeatBody at hmarker
    split at hmarker
    · obtain ⟨item, -, hfilled⟩ := List.mem_flatMap.mp hmarker
      have hbody : .mark marker ∈ body :=
        (resolveSections_sublist _).subset (mark_mem_of_mem_fill hfilled)
      have hinner := (sublist_block hbody .hash name).trans hblock
      exact hinner.subset (by simp)
    · simp at hmarker

theorem isSteady_fill {value : Text → Text}
    (hliteral : ∀ content, .literal content ∈ parts → content.IsSettled)
    (hvalue : ∀ name, .mark ⟨.plain, name⟩ ∈ parts → (value name).IsSettled)
    (h : IsSteady parts) : IsSteady (fill value parts) := by
  induction parts with
  | nil => trivial
  | cons token rest ih =>
      have hliterals : ∀ content, .literal content ∈ rest → content.IsSettled :=
        fun content hcontent => hliteral content (List.mem_cons_of_mem _ hcontent)
      have hvalues : ∀ name, .mark ⟨.plain, name⟩ ∈ rest → (value name).IsSettled :=
        fun name hname => hvalue name (List.mem_cons_of_mem _ hname)
      cases token with
      | literal content =>
          exact ⟨Or.inl (hliteral content (List.mem_cons_self ..)), ih hliterals hvalues h.2⟩
      | mark marker =>
          obtain ⟨sigil, name⟩ := marker
          by_cases hplain : sigil = .plain
          · subst hplain
            exact ⟨Or.inl (hvalue name (List.mem_cons_self ..)), ih hliterals hvalues h.2⟩
          · have hmark : fill value (.mark ⟨sigil, name⟩ :: rest) =
                .mark ⟨sigil, name⟩ :: fill value rest := by
              simp [fill, hplain]
            rw [hmark]
            exact ⟨h.1, ih hliterals hvalues h.2⟩

theorem isSteady_flatMap {items : List Context} {each : Context → List Token}
    (h : ∀ item ∈ items, IsSteady (each item)) : IsSteady (items.flatMap each) := by
  induction items with
  | nil => trivial
  | cons item items ih =>
      obtain ⟨hitem, hitems⟩ := List.forall_mem_cons.mp h
      exact hitem.append (ih hitems)

end Expand

end Parts

namespace Template

/-! ## Templates whose markers stay apart -/

/-- No marker comes up in a rendering: blocks are taken out and bodies repeated without braces
meeting, and the values in repeated bodies hold no markers. -/
structure IsSteadyIn (source : Text) (context : Context) : Prop where
  /-- A literal directly before a block marker is settled. -/
  beforeBlock : ∀ content marker, [.literal content, .mark marker] <:+: tokens source →
    marker.sigil ≠ .plain → content.IsSettled
  /-- So is a literal inside a block that repeats. -/
  inLoop : ∀ list items content, context.get? list = some (.sequence items) →
    [.mark ⟨.hash, list⟩, .literal content, .mark ⟨.slash, list⟩].Sublist (tokens source) →
      content.IsSettled
  /-- So is what a block that repeats shows for one of its elements. -/
  inElement : ∀ list items item name, context.get? list = some (.sequence items) →
    item ∈ items →
      [.mark ⟨.hash, list⟩, .mark ⟨.plain, name⟩, .mark ⟨.slash, list⟩].Sublist (tokens source) →
        (((Scope.ofContext context).push item).toText name).IsSettled

end Template

namespace Parts

open Template

theorem exists_tokens_eq {source : Text}
    (h : ∀ content marker, [.literal content, .mark marker] <:+: tokens source →
      marker.sigil ≠ .plain → content.IsSettled) :
    ∃ parts last, tokens source = parts ++ [.literal last] ∧ IsSteady parts ∧
      markersOf last = [] := by
  fun_induction tokens source with
  | case1 source hfirst => exact ⟨[], source, rfl, trivial, markersOf_of_first?_eq_none hfirst⟩
  | case2 source found hfound ih =>
      obtain ⟨parts, last, htokens, hparts, hlast⟩ := ih fun content marker hinfix =>
        h content marker (List.infix_cons (List.infix_cons hinfix))
      obtain ⟨-, hname⟩ := Marker.eq_of_first? hfound
      refine ⟨.literal found.before :: .mark found.marker :: parts, last, ?_, ?_, hlast⟩
      · rw [htokens, List.cons_append, List.cons_append]
      · refine ⟨?_, hname, hparts⟩
        by_cases hplain : found.marker.sigil = .plain
        · refine Or.inr ⟨Marker.first?_before_eq_none hfound, found.marker.name, parts, ?_⟩
          rw [← hplain]
        · exact Or.inl (h _ _ ⟨[], tokens found.after, rfl⟩ hplain)

/-- The loop pass leaves a steady list of what the section pass has left. -/
theorem isSteady_expandLoops {source : Text} {context : Context} {parts : List Token}
    (hsource : IsSteadyIn source context) (hsublist : parts.Sublist (tokens source))
    (h : IsSteady parts) : IsSteady (expandLoops (.ofContext context) parts) := by
  refine isSteady_sweep Sigil.noConfusion (fun name body hblock _ hbody => ?_) h
  have hinner : ∀ token ∈ body,
      [.mark ⟨.hash, name⟩, token, .mark ⟨.slash, name⟩].Sublist (tokens source) :=
    fun token htoken => ((sublist_block htoken .hash name).trans hblock).trans hsublist
  unfold repeatBody
  split
  · next items hitems =>
      refine isSteady_flatMap fun item hitem => ?_
      have hresolved : ∀ token ∈ resolveSections ((Scope.ofContext context).push item) body,
          token ∈ body := fun token htoken => (resolveSections_sublist _).subset htoken
      refine isSteady_fill ?_ ?_ (isSteady_resolveSections _ hbody)
      · intro content hcontent
        exact hsource.inLoop name items content hitems (hinner _ (hresolved _ hcontent))
      · intro other hother
        exact hsource.inElement name items item other hitems hitem (hinner _ (hresolved _ hother))
  · trivial

end Parts

namespace Template

/-! ## The listed names -/

/-- The analysis lists the names on all markers but the closing ones. -/
theorem mem_names_analyze {source name : Text} :
    name ∈ (analyze source).names ↔
      ∃ placed ∈ placedMarkers source, placed.marker.sigil ≠ .slash ∧ placed.marker.name = name := by
  simp only [Analysis.names, Text.mem_sortedDistinct, analyze, List.mem_map, List.mem_append,
    List.mem_filter]
  constructor
  · rintro ⟨placed, hplaced, rfl⟩
    refine ⟨placed, ?_, ?_, rfl⟩
    · rcases hplaced with h | h | h <;> exact h.1
    · rcases hplaced with h | h | h <;> simp_all
  · rintro ⟨placed, hplaced, hslash, rfl⟩
    refine ⟨placed, ?_, rfl⟩
    cases hsigil : placed.marker.sigil <;> simp_all

theorem mem_names_analyze_iff {source name : Text} :
    name ∈ (analyze source).names ↔
      ∃ sigil ≠ Sigil.slash, .mark ⟨sigil, name⟩ ∈ tokens source := by
  have hmarkers : (placedMarkers source).map (·.marker) = markersOf source :=
    map_marker_placeMarkers 0 (tokens source)
  have hmark : ∀ marker : Marker, .mark marker ∈ tokens source ↔
      ∃ placed ∈ placedMarkers source, placed.marker = marker := by
    intro marker
    rw [← mem_markersOf, ← hmarkers, List.mem_map]
  simp only [mem_names_analyze, hmark]
  constructor
  · rintro ⟨placed, hplaced, hslash, rfl⟩
    exact ⟨placed.marker.sigil, hslash, placed, hplaced, rfl⟩
  · rintro ⟨sigil, hslash, placed, hplaced, hmarker⟩
    exact ⟨placed, hplaced, by rwa [hmarker], by rw [hmarker]⟩

/-! ## Two renderings of one template -/

/-- **A rendering depends on the listed names only**, as long as no marker comes up in it. -/
theorem renderText_congr {source : Text} {first second : Context}
    (hsource : IsSteadyIn source first)
    (hnames : ∀ name ∈ (analyze source).names, first.get? name = second.get? name) :
    renderText source first = renderText source second := by
  obtain ⟨parts, last, htokens, hparts, hlast⟩ := Parts.exists_tokens_eq hsource.beforeBlock
  have hwritten : source = Parts.source parts ++ last := by
    rw [← flatMap_text_tokens source, htokens]
    simp [Parts.source, Token.text]
  have hsublist : parts.Sublist (tokens source) := htokens ▸ List.sublist_append_left _ _
  have hagree : Parts.Agree parts (.ofContext first) (.ofContext second) := by
    intro marker hmarker hslash
    exact hnames _ (mem_names_analyze_iff.mpr ⟨_, hslash, hsublist.subset hmarker⟩)
  -- the section pass leaves one list, for both contexts
  let resolved := Parts.resolveSections (.ofContext first) parts
  have hresolved : resolved = Parts.resolveSections (.ofContext second) parts :=
    Parts.resolveSections_congr hagree
  have hkept : resolved.Sublist parts := Parts.resolveSections_sublist _
  have hsteady : Parts.IsSteady resolved := Parts.isSteady_resolveSections _ hparts
  -- and so does the loop pass
  let expanded := Parts.expandLoops (.ofContext first) resolved
  have hexpanded : expanded = Parts.expandLoops (.ofContext second) resolved :=
    Parts.expandLoops_congr (hagree.mono hkept)
  have hrepeated : Parts.IsSteady expanded :=
    Parts.isSteady_expandLoops hsource (hkept.trans hsublist) hsteady
  have hvalues : Parts.Agree expanded (.ofContext first) (.ofContext second) := by
    intro marker hmarker
    exact hagree.mono hkept marker (Parts.mark_mem_of_mem_expandLoops hmarker)
  calc renderText source first
      = fillValues (.ofContext first) (Parts.source expanded ++ last) := by
        rw [hwritten]
        exact Parts.renderText_source_append first hparts hlast
    _ = Parts.source (Parts.fill (Scope.ofContext first).toText expanded) ++ last :=
        Parts.fillValues_source_append _ hrepeated hlast
    _ = Parts.source (Parts.fill (Scope.ofContext second).toText expanded) ++ last := by
        rw [Parts.fill_congr hvalues]
    _ = fillValues (.ofContext second) (Parts.source expanded ++ last) :=
        (Parts.fillValues_source_append _ hrepeated hlast).symm
    _ = renderText source second := by
        rw [hwritten, Parts.renderText_source_append second hparts hlast, hexpanded, hresolved]

/-- A title in braces of its own, and a table below it. -/
def titledTable : Text :=
  '{' :: ((Marker.mk .plain "Title".toList).text ++ '}' ::
    Block.text .hash ⟨"Rows".toList, (Marker.mk .plain "Cell".toList).text ++ [';']⟩)

/-- The cells of two rows, one of them in braces. -/
def titledItems : List Context :=
  [.ofList [("Cell".toList, .ofText ['{', 'x', '}'])],
    .ofList [("Cell".toList, .ofText ['y'])]]

/-- Two rows under a title that looks like a marker. -/
def titledRows : Context :=
  .ofList [("Title".toList, .ofText (Marker.mk .plain "Hidden".toList).text),
    ("Rows".toList, .sequence titledItems)]

theorem tokens_titledTable : tokens titledTable =
    [.literal ['{'], .mark ⟨.plain, "Title".toList⟩, .literal ['}'],
      .mark ⟨.hash, "Rows".toList⟩, .literal [], .mark ⟨.plain, "Cell".toList⟩,
      .literal [';'], .mark ⟨.slash, "Rows".toList⟩, .literal []] := by
  show tokens (['{'] ++ ((Marker.mk .plain "Title".toList).text ++ (['}'] ++
    ((Marker.mk .hash "Rows".toList).text ++ ([] ++ ((Marker.mk .plain "Cell".toList).text ++
      ([';'] ++ ((Marker.mk .slash "Rows".toList).text ++ [])))))))) = _
  iterate 4 rw [tokens_literal_append (by decide) (by decide)]
  rw [tokens_nil]

/-- What the title seems to ask for does not matter. -/
theorem renderText_titledTable :
    renderText titledTable titledRows =
      renderText titledTable (titledRows.insert "Hidden".toList (.ofText "leak".toList)) := by
  refine renderText_congr ⟨?_, ?_, ?_⟩ ?_
  · intro content marker hinfix hblock
    have hcontent : content ∈ [['}'], [], [';']] := by
      simp only [tokens_titledTable, List.infix_cons_iff, List.cons_prefix_cons] at hinfix
      aesop
    have htidy : ∀ content ∈ [['}'], [], [';']], Text.IsTidy content := by decide
    exact (htidy content hcontent).isSettled
  · intro list items content _ hsublist
    have hcontent : content ∈ [[], [';']] := by
      simp only [tokens_titledTable, List.cons_sublist_cons'] at hsublist
      aesop
    have htidy : ∀ content ∈ [[], [';']], Text.IsTidy content := by decide
    exact (htidy content hcontent).isSettled
  · intro list items item name hitems hitem hsublist
    obtain ⟨rfl, rfl⟩ : list = "Rows".toList ∧ name = "Cell".toList := by
      simp only [tokens_titledTable, List.cons_sublist_cons'] at hsublist
      aesop
    have hrows : titledRows.get? "Rows".toList = some (.sequence titledItems) := rfl
    obtain rfl : titledItems = items :=
      Binding.sequence.inj (Option.some.inj (hrows.symm.trans hitems))
    have htidy : ∀ item ∈ titledItems,
        (((Scope.ofContext titledRows).push item).toText "Cell".toList).IsTidy := by
      decide
    exact (htidy item hitem).isSettled
  · intro name hname
    obtain ⟨sigil, -, hmark⟩ := mem_names_analyze_iff.mp hname
    have hother : name ≠ "Hidden".toList := by
      rintro rfl
      simp [tokens_titledTable] at hmark
    rw [Context.get?_insert, if_neg hother]

/-! ## Markers that come up in a rendering -/

/-- Two pairs of braces that meet when the block between them is taken out. -/
def facingBraces : Text :=
  '{' :: (Block.text .hash ⟨"A".toList, ['x']⟩ ++ ['{', 'B', '}', '}'])

/-- A block that shows a value of its elements. -/
def shownValues : Text := Block.text .hash ⟨"L".toList, (Marker.mk .plain "V".toList).text⟩

/-- One element, whose value is the written form of a marker. -/
def markedItem : Context :=
  .ofList [("L".toList, .sequence [.ofList [("V".toList,
    .ofText (Marker.mk .plain "B".toList).text)]])]

section Meeting

variable {context : Context}

theorem tokens_facingBraces : tokens facingBraces =
    [.literal ['{'], .mark ⟨.hash, "A".toList⟩, .literal ['x'], .mark ⟨.slash, "A".toList⟩,
      .literal ['{', 'B', '}', '}']] := by
  show tokens (['{'] ++ ((Marker.mk .hash "A".toList).text ++ (['x'] ++
    ((Marker.mk .slash "A".toList).text ++ ['{', 'B', '}', '}'])))) = _
  iterate 2 rw [tokens_literal_append (by decide) (by decide)]
  rw [tokens_of_first?_eq_none (by decide)]

/-- The braces that meet ask for `B`. -/
theorem renderText_facingBraces (hdropped : context.get? "A".toList = none) :
    renderText facingBraces context = (Scope.ofContext context).toText "B".toList := by
  let scope := Scope.ofContext context
  let meeting := (Marker.mk .plain "B".toList).text
  have hfree : meeting.IsBlockFree := isBlockFree_text_plain (by decide)
  have hbrace : Text.IsSettledBefore ['{']
      (Block.text .hash ⟨"A".toList, ['x']⟩ ++ ['{', 'B', '}', '}']) := by
    rw [Block.text, List.append_assoc]
    exact Text.isSettledBefore_text (by decide) _ _
  have hblock : keepOrDrop scope ⟨"A".toList, ['x']⟩ = [] := by
    have hlookup : scope.lookup? "A".toList = none := hdropped
    rw [keepOrDrop, hlookup]
  have hlast : replaceBlocks .hash (keepOrDrop scope) ['{', 'B', '}', '}'] =
      ['{', 'B', '}', '}'] :=
    replaceBlocks_of_first?_eq_none (Block.first?_of_first?_eq_none (by decide)) _
  have hmeeting : replaceBlocks .hash (keepOrDrop scope) facingBraces = meeting := by
    show replaceBlocks .hash _ (['{'] ++ (Block.text .hash ⟨"A".toList, ['x']⟩ ++ _)) = _
    rw [replaceBlocks_append_of_isSettledBefore _ hbrace,
      replaceBlocks_block_append _ (by decide) (by decide), hblock, hlast]
    rfl
  have hself : replaceBlocks .hash (keepOrDrop scope) meeting = meeting :=
    replaceBlocks_eq_self_of_isBlockFree (by decide) _ hfree
  calc renderText facingBraces context
      = renderText meeting context := by
        rw [renderText, renderText, resolveSections, resolveSections, hmeeting, hself]
    _ = fillValues scope meeting := renderText_eq_fillValues context hfree
    _ = scope.toText "B".toList := fillValues_text_plain scope (by decide)

theorem tokens_shownValues : tokens shownValues =
    [.literal [], .mark ⟨.hash, "L".toList⟩, .literal [], .mark ⟨.plain, "V".toList⟩,
      .literal [], .mark ⟨.slash, "L".toList⟩, .literal []] := by
  show tokens ([] ++ ((Marker.mk .hash "L".toList).text ++ ([] ++
    ((Marker.mk .plain "V".toList).text ++ ([] ++
      ((Marker.mk .slash "L".toList).text ++ [])))))) = _
  iterate 3 rw [tokens_literal_append (by decide) (by decide)]
  rw [tokens_nil]

/-- The value that is shown asks for `B`. -/
theorem renderText_shownValues
    (hlist : context.get? "L".toList = markedItem.get? "L".toList) :
    renderText shownValues context = (Scope.ofContext context).toText "B".toList := by
  let scope := Scope.ofContext context
  let item : Context := .ofList [("V".toList, .ofText (Marker.mk .plain "B".toList).text)]
  let body := (Marker.mk .plain "V".toList).text
  have hbody : body.IsBlockFree := isBlockFree_text_plain (by decide)
  have hitems : scope.lookup? "L".toList = some (.sequence [item]) := hlist
  have hvalue : (scope.push item).toText "V".toList = (Marker.mk .plain "B".toList).text := rfl
  have hfilled : filledItems scope [item] body = (Marker.mk .plain "B".toList).text := by
    rw [filledItems, List.flatMap_singleton, fillValues_text_plain _ (by decide), hvalue]
  calc renderText shownValues context
      = fillValues scope (filledItems scope [item] body) := by
        rw [renderText, shownValues, resolveSections_repeatedBlock (by decide) hitems hbody,
          expandLoops_repeatedBlock (by decide) hitems hbody]
    _ = scope.toText "B".toList := by
        rw [hfilled, fillValues_text_plain scope (by decide)]

end Meeting

/-- A rendering can depend on a name that is not listed, whether braces of the template meet, or
all its literals are settled and a value holds a marker. -/
theorem not_renderText_congr :
    (¬ ∀ (source : Text) (first second : Context),
      (∀ name ∈ (analyze source).names, first.get? name = second.get? name) →
        renderText source first = renderText source second) ∧
    (¬ ∀ (source : Text) (first second : Context),
      (∀ content, .literal content ∈ tokens source → content.IsSettled) →
        (∀ name ∈ (analyze source).names, first.get? name = second.get? name) →
          renderText source first = renderText source second) := by
  constructor
  · intro h
    let second := Context.empty.insert "B".toList (.ofText ['y'])
    have hfirst : renderText facingBraces .empty = [] := renderText_facingBraces rfl
    have hsecond : renderText facingBraces second = ['y'] := renderText_facingBraces rfl
    have hsame := h facingBraces .empty second ?_
    · rw [hfirst, hsecond] at hsame
      exact absurd hsame (by decide)
    · intro name hname
      obtain ⟨sigil, hslash, hmark⟩ := mem_names_analyze_iff.mp hname
      obtain ⟨-, rfl⟩ : sigil = .hash ∧ name = "A".toList := by
        simpa [tokens_facingBraces, hslash] using hmark
      rfl
  · intro h
    let second := markedItem.insert "B".toList (.ofText ['y'])
    have hliterals : ∀ content, .literal content ∈ tokens shownValues → content.IsSettled := by
      intro content hcontent
      obtain rfl : content = [] := by simpa [tokens_shownValues] using hcontent
      exact Text.isSettled_of_notMem (by decide)
    have hfirst : renderText shownValues markedItem = [] := renderText_shownValues rfl
    have hsecond : renderText shownValues second = ['y'] := renderText_shownValues rfl
    have hsame := h shownValues markedItem second hliterals ?_
    · rw [hfirst, hsecond] at hsame
      exact absurd hsame (by decide)
    · intro name hname
      obtain ⟨sigil, -, hmark⟩ := mem_names_analyze_iff.mp hname
      have hother : name ≠ "B".toList := by
        rintro rfl
        simp [tokens_shownValues] at hmark
      rw [Context.get?_insert, if_neg hother]

end Template

end Invoicing
