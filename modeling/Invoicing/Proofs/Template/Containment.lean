import Invoicing.Proofs.Marker.Blocks
import Invoicing.Proofs.Template.Balance
import Mathlib.Data.List.Pairwise

/-!
# The blocks of a clean template are its nested ones

One reads the blocks of a template as one reads brackets: every closing marker belongs to the
innermost block that is open (`nestedPairs`).  The renderer has no stack.  It looks for the first
closing marker of the right name, whatever lies between.

In a clean template this is the same.  Main statement: `nestedPairs_of_isClean`.  Every opening
marker has exactly one partner in the reading with the stack, the search for a block from its place
finds the stretch between the two, the body of that block is a clean template by itself, and two
such blocks lie apart or one of them lies in the body of the other.

## Strategy

* **Bodies.**  A template is cut at the two markers of a block.  The stack comes to the opening
  marker in some state (`exists_isBalanced_of_append`), and finds it again at the first closing
  marker of the name (`split_of_isBalanced`).  So what lies between is balanced, which makes it
  clean, and the reading with the stack passes it (`nestedPairs_append_of_isBalanced`).
* **Nesting.**  What is on the stack stands before the marker that is read next, the innermost
  opening marker last.  This is one ordered list (`pairwise_nestedPairs`), whether a marker goes
  on the stack or is taken from it.
-/

namespace Invoicing.Template

/-- The two blocks have no place in common. -/
def Pair.Apart (first second : Pair) : Prop :=
  first.closing.span.stop ≤ second.opening.span.start ∨
    second.closing.span.stop ≤ first.opening.span.start

/-- The first block lies in the body of the second one. -/
def Pair.LiesIn (inner outer : Pair) : Prop :=
  outer.opening.span.stop ≤ inner.opening.span.start ∧
    inner.closing.span.stop ≤ outer.closing.span.start

/-- The pairs of opening and closing markers when every closing marker belongs to the innermost
block that is open.  The opening markers of the open blocks are on a stack. -/
def nestedPairs : List PlacedMarker → List PlacedMarker → List Pair
  | _, [] => []
  | opened, head :: rest =>
      if isOpening head then nestedPairs (head :: opened) rest
      else if head.marker.sigil = .slash then
        match opened with
        | [] => nestedPairs [] rest
        | innermost :: outer => ⟨innermost, head⟩ :: nestedPairs outer rest
      else nestedPairs opened rest

section Stack

variable {head innermost : PlacedMarker} {opened outer rest first : List PlacedMarker} {pair : Pair}

theorem nestedPairs_cons_of_isOpening (hhead : isOpening head) :
    nestedPairs opened (head :: rest) = nestedPairs (head :: opened) rest := by
  simp [nestedPairs, hhead]

theorem nestedPairs_cons_of_slash (hhead : head.marker.sigil = .slash) :
    nestedPairs (innermost :: outer) (head :: rest) =
      ⟨innermost, head⟩ :: nestedPairs outer rest := by
  simp [nestedPairs, isOpening, hhead]

theorem nestedPairs_nil_cons_of_slash (hhead : head.marker.sigil = .slash) :
    nestedPairs [] (head :: rest) = nestedPairs [] rest := by
  simp [nestedPairs, isOpening, hhead]

theorem nestedPairs_cons_of_plain (hhead : head.marker.sigil = .plain) :
    nestedPairs opened (head :: rest) = nestedPairs opened rest := by
  simp [nestedPairs, isOpening, hhead]

/-! ## Pairs lie apart or in one another -/

/-- The opening marker of a pair is on the stack, or it is read before the closing one. -/
theorem exists_of_mem_nestedPairs (h : pair ∈ nestedPairs opened rest) :
    ∃ before after, rest = before ++ pair.closing :: after ∧
      (pair.opening ∈ opened ∨ pair.opening ∈ before) := by
  induction rest generalizing opened with
  | nil => simp [nestedPairs] at h
  | cons head rest ih =>
      rcases isOpening_or_slash_or_plain head with hhead | hhead | hhead
      · rw [nestedPairs_cons_of_isOpening hhead] at h
        obtain ⟨before, after, rfl, hopening⟩ := ih h
        refine ⟨head :: before, after, rfl, ?_⟩
        simp only [List.mem_cons] at hopening ⊢
        tauto
      · cases opened with
        | nil =>
            rw [nestedPairs_nil_cons_of_slash hhead] at h
            obtain ⟨before, after, rfl, hopening⟩ := ih h
            exact ⟨head :: before, after, rfl, hopening.imp_right (List.mem_cons_of_mem _)⟩
        | cons innermost outer =>
            rw [nestedPairs_cons_of_slash hhead, List.mem_cons] at h
            rcases h with rfl | h
            · exact ⟨[], rest, rfl, Or.inl (List.mem_cons_self ..)⟩
            · obtain ⟨before, after, rfl, hopening⟩ := ih h
              exact ⟨head :: before, after, rfl,
                hopening.imp (List.mem_cons_of_mem _) (List.mem_cons_of_mem _)⟩
      · rw [nestedPairs_cons_of_plain hhead] at h
        obtain ⟨before, after, rfl, hopening⟩ := ih h
        exact ⟨head :: before, after, rfl, hopening.imp_right (List.mem_cons_of_mem _)⟩

theorem mem_of_mem_nestedPairs (h : pair ∈ nestedPairs opened rest) :
    (pair.opening ∈ opened ∨ pair.opening ∈ rest) ∧ pair.closing ∈ rest := by
  obtain ⟨before, after, rfl, hopening⟩ := exists_of_mem_nestedPairs h
  exact ⟨hopening.imp_right (List.mem_append_left _), by simp⟩

/-- The stack, its innermost marker last, and the markers to be read are one ordered list. -/
theorem pairwise_nestedPairs
    (h : (opened.reverse ++ rest).Pairwise fun earlier later =>
      earlier.span.stop ≤ later.span.start) :
    (nestedPairs opened rest).Pairwise fun earlier later =>
      earlier.Apart later ∨ earlier.LiesIn later := by
  induction rest generalizing opened with
  | nil => exact List.Pairwise.nil
  | cons head rest ih =>
      have hskip : (opened.reverse ++ rest).Sublist (opened.reverse ++ head :: rest) :=
        (List.sublist_cons_self head rest).append_left opened.reverse
      rcases isOpening_or_slash_or_plain head with hhead | hhead | hhead
      · rw [nestedPairs_cons_of_isOpening hhead]
        apply ih
        rwa [List.reverse_cons, List.append_assoc]
      · cases opened with
        | nil =>
            rw [nestedPairs_nil_cons_of_slash hhead]
            exact ih (h.sublist hskip)
        | cons innermost outer =>
            rw [nestedPairs_cons_of_slash hhead]
            rw [List.reverse_cons, List.append_assoc] at h
            obtain ⟨houter, hinner, hbefore⟩ := List.pairwise_append.mp h
            obtain ⟨hinnermost, hhead, hrest⟩ : _ ∧ _ ∧ _ := by
              simpa only [List.singleton_append, List.pairwise_cons] using hinner
            refine List.pairwise_cons.mpr ⟨?_, ih ?_⟩
            · intro later hlater
              obtain ⟨hopening, hclosing⟩ := mem_of_mem_nestedPairs hlater
              have hstop : head.span.stop ≤ later.closing.span.start := hhead _ hclosing
              rcases hopening with hopening | hopening
              · -- a block that is still open holds the whole block that is closed here
                have hstart : later.opening.span.stop ≤ innermost.span.start :=
                  hbefore _ (List.mem_reverse.mpr hopening) innermost (List.mem_cons_self ..)
                exact Or.inr ⟨hstart, hstop⟩
              · exact Or.inl (Or.inl (hhead _ hopening))
            · refine List.pairwise_append.mpr ⟨houter, hrest, ?_⟩
              intro earlier hearlier later hlater
              exact hbefore _ hearlier _ (by simp [hlater])
      · rw [nestedPairs_cons_of_plain hhead]
        exact ih (h.sublist hskip)

theorem stop_le_of_mem_nestedPairs
    (h : rest.Pairwise fun earlier later => earlier.span.stop ≤ later.span.start)
    (hpair : pair ∈ nestedPairs [] rest) : pair.opening.span.stop ≤ pair.closing.span.start := by
  obtain ⟨before, after, rfl, hopening⟩ := exists_of_mem_nestedPairs hpair
  have hbefore : pair.opening ∈ before := hopening.resolve_left List.not_mem_nil
  exact (List.pairwise_append.mp h).2.2 _ hbefore _ (List.mem_cons_self ..)

/-! ## Reading a stretch -/

/-- Reading a stretch of markers gives its pairs and leaves a stack, whatever follows. -/
theorem exists_nestedPairs_append (opened first : List PlacedMarker) :
    ∃ pairs left, ∀ second,
      nestedPairs opened (first ++ second) = pairs ++ nestedPairs left second := by
  induction first generalizing opened with
  | nil => exact ⟨[], opened, fun second => rfl⟩
  | cons head first ih =>
      rcases isOpening_or_slash_or_plain head with hhead | hhead | hhead
      · obtain ⟨pairs, left, hfirst⟩ := ih (head :: opened)
        refine ⟨pairs, left, ?_⟩
        intro second
        rw [List.cons_append, nestedPairs_cons_of_isOpening hhead, hfirst]
      · cases opened with
        | nil =>
            obtain ⟨pairs, left, hfirst⟩ := ih []
            refine ⟨pairs, left, ?_⟩
            intro second
            rw [List.cons_append, nestedPairs_nil_cons_of_slash hhead, hfirst]
        | cons innermost outer =>
            obtain ⟨pairs, left, hfirst⟩ := ih outer
            refine ⟨⟨innermost, head⟩ :: pairs, left, ?_⟩
            intro second
            rw [List.cons_append, nestedPairs_cons_of_slash hhead, hfirst, List.cons_append]
      · obtain ⟨pairs, left, hfirst⟩ := ih opened
        refine ⟨pairs, left, ?_⟩
        intro second
        rw [List.cons_append, nestedPairs_cons_of_plain hhead, hfirst]

/-- A balanced stretch leaves the stack below it as it is. -/
theorem exists_nestedPairs_append_of_isBalanced {inner body : List PlacedMarker}
    (h : isBalanced (inner.map (·.marker.name)) (body.map (·.marker))) :
    ∃ pairs, ∀ outer rest,
      nestedPairs (inner ++ outer) (body ++ rest) = pairs ++ nestedPairs outer rest := by
  induction body generalizing inner with
  | nil =>
      have hinner : inner = [] := by simpa [isBalanced] using h
      exact ⟨[], fun outer rest => by rw [hinner]; rfl⟩
  | cons head body ih =>
      obtain ⟨⟨sigil, name⟩, span⟩ := head
      have hopens : ∀ polarity : Polarity, polarity.sigil = sigil → ∃ pairs, ∀ outer rest,
          nestedPairs (inner ++ outer) (⟨⟨sigil, name⟩, span⟩ :: body ++ rest) =
            pairs ++ nestedPairs outer rest := by
        rintro polarity rfl
        rw [List.map_cons, isBalanced_open] at h
        obtain ⟨pairs, hbody⟩ := @ih (⟨⟨polarity.sigil, name⟩, span⟩ :: inner) h
        refine ⟨pairs, ?_⟩
        intro outer rest
        rw [List.cons_append, nestedPairs_cons_of_isOpening (isOpening_of_polarity rfl)]
        exact hbody outer rest
      cases sigil with
      | plain =>
          rw [List.map_cons, isBalanced_plain] at h
          obtain ⟨pairs, hbody⟩ := ih h
          refine ⟨pairs, ?_⟩
          intro outer rest
          rw [List.cons_append, nestedPairs_cons_of_plain rfl, hbody]
      | hash => exact hopens .positive rfl
      | caret => exact hopens .negative rfl
      | slash =>
          cases inner with
          | nil => simp [isBalanced] at h
          | cons innermost inner =>
              simp only [List.map_cons, isBalanced, Bool.and_eq_true] at h
              obtain ⟨pairs, hbody⟩ := ih h.2
              refine ⟨⟨innermost, ⟨⟨.slash, name⟩, span⟩⟩ :: pairs, ?_⟩
              intro outer rest
              rw [List.cons_append, List.cons_append, nestedPairs_cons_of_slash rfl, hbody,
                List.cons_append]

/-- The marker behind a balanced stretch closes the block that the marker before it opens. -/
theorem mem_nestedPairs_of_isBalanced {before body after : List PlacedMarker}
    {opening closing : PlacedMarker} (hopening : isOpening opening)
    (hclosing : closing.marker.sigil = .slash) (hbody : isBalanced [] (body.map (·.marker))) :
    ⟨opening, closing⟩ ∈
      nestedPairs opened (before ++ opening :: (body ++ closing :: after)) := by
  obtain ⟨pairs, left, hbefore⟩ := exists_nestedPairs_append opened before
  obtain ⟨inside, hinside⟩ := @exists_nestedPairs_append_of_isBalanced [] body hbody
  have hread := hinside (opening :: left) (closing :: after)
  rw [List.nil_append] at hread
  rw [hbefore, nestedPairs_cons_of_isOpening hopening, hread, nestedPairs_cons_of_slash hclosing]
  simp

/-- The stack that a stretch of markers leaves, as the rest of the markers finds it. -/
theorem exists_isBalanced_of_append {opened : List Text} {first second : List Marker}
    (hbalanced : isBalanced opened (first ++ second))
    (hapart : opensApart opened (first ++ second)) :
    ∃ left, isBalanced left second ∧ opensApart left second := by
  induction first generalizing opened with
  | nil => exact ⟨opened, hbalanced, hapart⟩
  | cons marker first ih =>
      obtain ⟨sigil, name⟩ := marker
      have hopens : ∀ polarity : Polarity, polarity.sigil = sigil →
          ∃ left, isBalanced left second ∧ opensApart left second := by
        rintro polarity rfl
        simp only [List.cons_append, isBalanced_open, opensApart_open, Bool.and_eq_true]
          at hbalanced hapart
        exact ih hbalanced hapart.2
      cases sigil with
      | plain =>
          simp only [List.cons_append, isBalanced_plain, opensApart_plain] at hbalanced hapart
          exact ih hbalanced hapart
      | hash => exact hopens .positive rfl
      | caret => exact hopens .negative rfl
      | slash =>
          cases opened with
          | nil => simp [isBalanced] at hbalanced
          | cons innermost opened =>
              simp only [List.cons_append, isBalanced, opensApart, List.tail_cons,
                Bool.and_eq_true] at hbalanced hapart
              exact ih hbalanced.2 hapart

end Stack

/-! ## The blocks of a clean template -/

section Clean

open Nesting

variable {source : Text}

theorem markers_ofText (hclean : (analyze source).isClean) :
    (ofText source).markers = markersOf source :=
  markers_ofTokens (isClean_analyze_iff.mp hclean)

theorem isBalanced_markersOf (hclean : (analyze source).isClean) :
    isBalanced [] (markersOf source) := by
  rw [← markers_ofText hclean, ← List.append_nil (ofText source).markers,
    isBalanced_markers_append]
  rfl

theorem opensApart_markersOf (hclean : (analyze source).isClean) :
    opensApart [] (markersOf source) := by
  rw [← markers_ofText hclean, ← List.append_nil (ofText source).markers,
    opensApart_markers_append (isProper_ofText hclean) fun _ _ => List.not_mem_nil]
  rfl

/-- A clean template is cut into a block at each of its opening markers: a closing marker of the
name follows, and the stretch before the first such one is clean and balanced. -/
theorem exists_block_of_isClean (hclean : (analyze source).isClean) {polarity : Polarity}
    {name lead after : Text} (hname : Marker.IsName name)
    (hsource : source = lead ++ ((Marker.mk polarity.sigil name).text ++ after)) :
    ∃ body rest, after = body ++ (Block.closingText name ++ rest) ∧
      ¬ Block.closingText name <:+: body ∧ isBalanced [] (markersOf body) ∧
      (analyze body).isClean := by
  have hbalanced := isBalanced_markersOf hclean
  have hapart := opensApart_markersOf hclean
  rw [hsource, @markersOf_append_text lead ⟨polarity.sigil, name⟩ hname] at hbalanced hapart
  obtain ⟨outer, hbalanced, hapart⟩ := exists_isBalanced_of_append hbalanced hapart
  rw [isBalanced_open] at hbalanced
  rw [opensApart_open, Bool.and_eq_true] at hapart
  cases hsplit : Text.splitAtFirst? (Block.closingText name) after with
  | none =>
      -- nothing takes the block from the stack again
      have hnot := (Text.splitAtFirst?_eq_none_iff (Block.closingText_ne_nil name)).mp hsplit
      have hclosing : ⟨.slash, name⟩ ∉ markersOf after := fun hmem =>
        hnot (mem_markersOf_iff.mp hmem).2
      exact absurd hbalanced (@not_isBalanced_of_notMem [] outer name _ hclosing)
  | some stretches =>
      obtain ⟨body, rest⟩ := stretches
      have hafter : after = body ++ (Block.closingText name ++ rest) := by
        rw [Text.append_of_splitAtFirst? hsplit, List.append_assoc]
      have hbody := Text.not_isInfix_of_splitAtFirst? (Block.closingText_ne_nil name) hsplit
      have hclosing : ⟨.slash, name⟩ ∉ markersOf body := fun hmem =>
        hbody (mem_markersOf_iff.mp hmem).2
      have hmarkers : markersOf after = markersOf body ++ ⟨.slash, name⟩ :: markersOf rest := by
        rw [hafter]
        exact @markersOf_append_text body ⟨.slash, name⟩ hname rest
      rw [hmarkers] at hbalanced hapart
      obtain ⟨⟨hinside, hinsideApart⟩, -⟩ :=
        @split_of_isBalanced [] outer name _ _ List.not_mem_nil hclosing hbalanced hapart.2
      refine ⟨body, rest, hafter, hbody, hinside, ?_⟩
      exact isClean_analyze_iff.mpr (isClean_of_isBalanced hinside hinsideApart)

theorem eq_or_apart_or_liesIn {first second : Pair}
    (hfirst : first ∈ nestedPairs [] (placedMarkers source))
    (hsecond : second ∈ nestedPairs [] (placedMarkers source)) :
    first = second ∨ first.Apart second ∨ first.LiesIn second ∨ second.LiesIn first := by
  let Nested (first second : Pair) : Prop :=
    first.Apart second ∨ first.LiesIn second ∨ second.LiesIn first
  have hsymm : Std.Symm Nested := by
    constructor
    intro first second h
    rcases h with h | h | h
    · exact Or.inl h.symm
    · exact Or.inr (Or.inr h)
    · exact Or.inr (Or.inl h)
  have hnested : (nestedPairs [] (placedMarkers source)).Pairwise Nested := by
    refine (@pairwise_nestedPairs [] _ (pairwise_placedMarkers source)).imp ?_
    intro earlier later h
    exact h.imp_right Or.inl
  by_cases heq : first = second
  · exact Or.inl heq
  · exact Or.inr (hnested.forall hfirst hsecond heq)

/-- The markers of a pair stand one behind the other, and neither is empty. -/
theorem spans_of_mem_nestedPairs {pair : Pair}
    (hpair : pair ∈ nestedPairs [] (placedMarkers source)) :
    pair.opening.span.start < pair.opening.span.stop ∧
      pair.opening.span.stop ≤ pair.closing.span.start ∧
      pair.closing.span.start < pair.closing.span.stop := by
  obtain ⟨hopening, hclosing⟩ := mem_of_mem_nestedPairs hpair
  have hopening := mem_placedMarkers_iff.mp (hopening.resolve_left List.not_mem_nil)
  have hclosing := mem_placedMarkers_iff.mp hclosing
  exact ⟨hopening.start_lt_stop, stop_le_of_mem_nestedPairs (pairwise_placedMarkers source) hpair,
    hclosing.start_lt_stop⟩

/-- An opening marker has one partner at most. -/
theorem closing_unique {opening closing other : PlacedMarker}
    (hclosing : ⟨opening, closing⟩ ∈ nestedPairs [] (placedMarkers source))
    (hother : ⟨opening, other⟩ ∈ nestedPairs [] (placedMarkers source)) : other = closing := by
  obtain ⟨hstart, hbetween, hstop⟩ := spans_of_mem_nestedPairs hclosing
  obtain ⟨-, hbetween', hstop'⟩ := spans_of_mem_nestedPairs hother
  simp only at hstart hbetween hstop hbetween' hstop'
  -- the two blocks start at one place, so they are neither apart nor inside one another
  rcases eq_or_apart_or_liesIn hother hclosing with heq | h | h | h
  · exact (Pair.mk.inj heq).2
  · simp only [Pair.Apart] at h
    omega
  · simp only [Pair.LiesIn] at h
    omega
  · simp only [Pair.LiesIn] at h
    omega

/-- The two markers around a balanced body are a pair. -/
theorem mem_nestedPairs_block {polarity : Polarity} {name body : Text} (hname : Marker.IsName name)
    (hbody : isBalanced [] (markersOf body)) (lead rest : Text) :
    ⟨(Marker.mk polarity.sigil name).placedBehind lead, (Marker.mk .slash name).placedBehind
        (lead ++ ((Marker.mk polarity.sigil name).text ++ body))⟩ ∈
      nestedPairs [] (placedMarkers (lead ++ ((Marker.mk polarity.sigil name).text ++
        (body ++ (Block.closingText name ++ rest))))) := by
  rw [placedMarkers, @placeMarkers_tokens_append_text 0 lead ⟨polarity.sigil, name⟩ hname,
    Block.closingText, @placeMarkers_tokens_append_text _ body ⟨.slash, name⟩ hname]
  simp only [Marker.placedBehind, Text.utf8Size_append, Nat.zero_add, ← Nat.add_assoc]
  refine mem_nestedPairs_of_isBalanced (isOpening_of_polarity rfl) rfl ?_
  rw [map_marker_placeMarkers]
  exact hbody

theorem exists_polarity_of_isOpening {placed : PlacedMarker} (h : isOpening placed) :
    ∃ polarity : Polarity, polarity.sigil = placed.marker.sigil := by
  cases hsigil : placed.marker.sigil with
  | hash => exact ⟨.positive, rfl⟩
  | caret => exact ⟨.negative, rfl⟩
  | plain => simp [isOpening, hsigil] at h
  | slash => simp [isOpening, hsigil] at h

end Clean

/-- **The blocks of a clean template are its nested ones.**  Every opening marker has one partner
in the reading with the stack.  The block that is found from its place reaches to the end of that
partner, and its body, the stretch between the two, is clean.  Two blocks lie apart, or one lies in
the body of the other. -/
theorem nestedPairs_of_isClean {source : Text} (hclean : (analyze source).isClean) :
    (∀ opening ∈ placedMarkers source, isOpening opening → ∃ closing body,
      (∀ other, ⟨opening, other⟩ ∈ nestedPairs [] (placedMarkers source) ↔ other = closing) ∧
      Block.firstFrom? source opening.span.start opening.marker.sigil =
        some (⟨opening.marker.name, body⟩, ⟨opening.span.start, closing.span.stop⟩) ∧
      Span.Cuts ⟨opening.span.stop, closing.span.start⟩ source body ∧
      (analyze body).isClean) ∧
    (∀ first ∈ nestedPairs [] (placedMarkers source),
      ∀ second ∈ nestedPairs [] (placedMarkers source),
        first = second ∨ first.Apart second ∨ first.LiesIn second ∨ second.LiesIn first) := by
  refine ⟨?_, fun first hfirst second hsecond => eq_or_apart_or_liesIn hfirst hsecond⟩
  intro opening hmem hopens
  obtain ⟨polarity, hpolarity⟩ := exists_polarity_of_isOpening hopens
  obtain ⟨hname, lead, after, hsource, hspan⟩ := mem_placedMarkers_iff.mp hmem
  obtain ⟨⟨sigil, name⟩, span⟩ := opening
  obtain rfl : polarity.sigil = sigil := hpolarity
  obtain ⟨body, rest, rfl, hbody, hbalanced, hcleanBody⟩ :=
    exists_block_of_isClean hclean hname hsource
  let opening := (Marker.mk polarity.sigil name).placedBehind lead
  let closing := (Marker.mk .slash name).placedBehind
    (lead ++ ((Marker.mk polarity.sigil name).text ++ body))
  obtain rfl : opening.span = span := hspan.symm
  have hpair : ⟨opening, closing⟩ ∈ nestedPairs [] (placedMarkers source) := by
    rw [hsource]
    exact mem_nestedPairs_block hname hbalanced lead rest
  have hblock := @Block.firstFrom?_block_append polarity.sigil ⟨name, body⟩ hname hbody lead rest
  have hwritten : source = lead ++ (Block.text polarity.sigil ⟨name, body⟩ ++ rest) := by
    rw [hsource]
    simp [Block.text]
  refine ⟨closing, body, ?_, ?_, ?_, hcleanBody⟩
  · intro other
    constructor
    · exact closing_unique hpair
    · rintro rfl
      exact hpair
  · rw [hwritten]
    refine hblock.trans ?_
    simp [opening, closing, Marker.placedBehind, Block.text, Block.closingText]
  · refine ⟨lead ++ (Marker.mk polarity.sigil name).text, Block.closingText name ++ rest, ?_, ?_⟩
    · rw [hsource]
      simp
    · simp [opening, closing, Marker.placedBehind]

/-- A block inside another one. -/
def enclosing : Text :=
  Block.text .hash ⟨['A'], ['x'] ++ Block.text .caret ⟨['B'], ['y']⟩⟩

/-- The opening marker of the block inside. -/
def enclosedOpening : PlacedMarker := ⟨⟨.caret, ['B']⟩, ⟨7, 13⟩⟩

theorem tokens_enclosing : tokens enclosing = [.literal [], .mark ⟨.hash, ['A']⟩, .literal ['x'],
    .mark ⟨.caret, ['B']⟩, .literal ['y'], .mark ⟨.slash, ['B']⟩, .literal [],
    .mark ⟨.slash, ['A']⟩, .literal []] := by
  show tokens ([] ++ ((Marker.mk .hash ['A']).text ++ (['x'] ++ ((Marker.mk .caret ['B']).text ++
    (['y'] ++ ((Marker.mk .slash ['B']).text ++ ([] ++ ((Marker.mk .slash ['A']).text ++
      [])))))))) = _
  iterate 4 rw [tokens_literal_append (by decide) (by decide)]
  rw [tokens_nil]

theorem nestedPairs_enclosing : (analyze enclosing).isClean ∧
    ∃ body, Block.firstFrom? enclosing 7 .caret = some (⟨['B'], body⟩, ⟨7, 20⟩) ∧
      (analyze body).isClean := by
  have hclean : (analyze enclosing).isClean := by
    refine isClean_analyze_iff.mpr (isClean_of_isBalanced ?_ ?_)
    · rw [tokens_enclosing]
      decide
    · rw [tokens_enclosing]
      decide
  have hmarkers : placedMarkers enclosing = [⟨⟨.hash, ['A']⟩, ⟨0, 6⟩⟩, enclosedOpening,
      ⟨⟨.slash, ['B']⟩, ⟨14, 20⟩⟩, ⟨⟨.slash, ['A']⟩, ⟨20, 26⟩⟩] := by
    rw [placedMarkers, tokens_enclosing]
    decide
  have hmem : enclosedOpening ∈ placedMarkers enclosing := by simp [hmarkers]
  have hpair : ⟨enclosedOpening, ⟨⟨.slash, ['B']⟩, ⟨14, 20⟩⟩⟩ ∈
      nestedPairs [] (placedMarkers enclosing) := by
    rw [hmarkers]
    decide
  obtain ⟨closing, body, hpartner, hfirst, -, hbody⟩ :=
    (nestedPairs_of_isClean hclean).1 enclosedOpening hmem rfl
  obtain rfl := (hpartner _).mp hpair
  exact ⟨hclean, body, hfirst, hbody⟩

end Invoicing.Template
