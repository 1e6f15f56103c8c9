import Invoicing.Proofs.Marker.Places
import Invoicing.Proofs.Marker.Sweep
import Mathlib.Data.List.Find

/-!
# Blocks and the markers that bound them

`Block.firstFrom?` finds the end of a block by looking for the written closing marker as it would
for any other piece of text.  Everything else is read marker by marker.  So the two could disagree:
the piece of text that the search finds might not be a marker of the text, because a run of braces,
a longer name or half a marker stands around it.

They agree.  Main statement: `Block.firstFrom?_exact`.  The block that is found is the one of the
first marker that has the sign and is closed, by any later marker of the text, and it ends with the
first marker that closes it.

## Strategy

A closing marker stands in a text wherever it is written, so searching the text behind an opening
marker is searching the list of markers (`Block.find?_isClosedBy`).  What is left is the way from
marker to marker: a marker that opens no block is passed
(`Block.firstFrom?_eq_of_not_opensBlock`), the first one that opens a block is taken
(`Block.exists_firstFrom?_of_opensBlock`), and the induction is on the markers that the scanner
finds one after another.
-/

namespace Invoicing

/-- The span cuts the piece out of the text. -/
def Span.Cuts (span : Span) (source piece : Text) : Prop :=
  ∃ before after, source = before ++ (piece ++ after) ∧
    span = ⟨Text.utf8Size before, Text.utf8Size (before ++ piece)⟩

namespace PlacedMarker

/-- The other marker closes this one: it has the same name and stands behind it. -/
def isClosedBy (opening closing : PlacedMarker) : Bool :=
  closing.marker == ⟨.slash, opening.marker.name⟩ && opening.span.stop ≤ closing.span.start

/-- The marker stands behind a position, has the sign, and is closed by a marker of the text. -/
def opensBlock (source : Text) (offset : ℕ) (sigil : Sigil) (opening : PlacedMarker) : Bool :=
  offset ≤ opening.span.start &&
    (opening.marker.sigil == sigil && (placedMarkers source).any opening.isClosedBy)

variable {source : Text} {offset : ℕ} {sigil : Sigil} {opening closing : PlacedMarker}

theorem isClosedBy_iff : opening.isClosedBy closing ↔
    closing.marker = ⟨.slash, opening.marker.name⟩ ∧ opening.span.stop ≤ closing.span.start := by
  simp [isClosedBy]

theorem opensBlock_iff : opening.opensBlock source offset sigil ↔
    offset ≤ opening.span.start ∧ opening.marker.sigil = sigil ∧
      ∃ closing, (placedMarkers source).find? opening.isClosedBy = some closing := by
  rw [← Option.isSome_iff_exists, List.find?_isSome, ← List.any_eq_true]
  simp [opensBlock]

end PlacedMarker

namespace Block

variable {sigil : Sigil} {source : Text} {offset : ℕ} {block : Block} {span : Span}

/-! ## A block between two markers -/

/-- Searching behind a boundary is searching the text behind it. -/
theorem firstFrom?_append (sigil : Sigil) (lead rest : Text) :
    firstFrom? (lead ++ rest) (Text.utf8Size lead) sigil = (first? sigil rest).map fun found =>
      (found.block, ⟨Text.utf8Size (lead ++ found.before),
        Text.utf8Size (lead ++ (found.before ++ found.block.text sigil))⟩) := by
  simp only [firstFrom?, Text.dropBytes?_utf8Size, Option.bind_eq_bind, Option.bind_some,
    Text.utf8Size_append, Nat.add_assoc]
  cases first? sigil rest <;> rfl

/-- A block is found at the place where it starts. -/
theorem firstFrom?_block_append (hname : Marker.IsName block.name)
    (hbody : ¬ closingText block.name <:+: block.body) (lead rest : Text) :
    firstFrom? (lead ++ (block.text sigil ++ rest)) (Text.utf8Size lead) sigil =
      some (block, ⟨Text.utf8Size lead, Text.utf8Size (lead ++ block.text sigil)⟩) := by
  rw [firstFrom?_append, first?_block_append hname hbody, Option.map_some, List.append_nil,
    List.nil_append]

/-- A block that is found is the stretch between two markers that stand in the text. -/
theorem exists_markers_of_firstFrom? (h : firstFrom? source offset sigil = some (block, span)) :
    ∃ opening closing : PlacedMarker, opening.StandsIn source ∧ closing.StandsIn source ∧
      opening.marker = ⟨sigil, block.name⟩ ∧ closing.marker = ⟨.slash, block.name⟩ ∧
      opening.span.start = span.start ∧ opening.span.stop ≤ closing.span.start ∧
      closing.span.stop = span.stop ∧ offset ≤ span.start := by
  obtain ⟨rest, hrest, -⟩ := Option.bind_eq_some_iff.mp h
  obtain ⟨lead, rfl, rfl⟩ := Text.dropBytes?_eq_some_iff.mp hrest
  rw [firstFrom?_append] at h
  obtain ⟨found, hfirst, hfound⟩ := Option.map_eq_some_iff.mp h
  obtain ⟨rfl, rfl⟩ := Prod.mk.inj hfound
  obtain ⟨rfl, hname⟩ := eq_of_first? hfirst
  let opening : Marker := ⟨sigil, found.block.name⟩
  let closing : Marker := ⟨.slash, found.block.name⟩
  let before := lead ++ found.before
  let inside := before ++ (opening.text ++ found.block.body)
  have hopening : (opening.placedBehind before).StandsIn
      (before ++ (opening.text ++ (found.block.body ++ (closing.text ++ found.after)))) :=
    Marker.standsIn_placedBehind hname _ _
  have hclosing : (closing.placedBehind inside).StandsIn
      (inside ++ (closing.text ++ found.after)) :=
    Marker.standsIn_placedBehind hname _ _
  refine ⟨opening.placedBehind before, closing.placedBehind inside, ?_, ?_, rfl, rfl, rfl, ?_, ?_,
    ?_⟩
  · simpa [before, opening, closing, text, closingText] using hopening
  · simpa [inside, before, opening, closing, text, closingText] using hclosing
  · simp only [Marker.placedBehind, inside, Text.utf8Size_append]
    omega
  · simp [Marker.placedBehind, inside, before, opening, closing, text, closingText]
  · simp

theorem start_lt_stop_of_firstFrom? (h : firstFrom? source offset sigil = some (block, span)) :
    offset ≤ span.start ∧ span.start < span.stop ∧ span.stop ≤ Text.utf8Size source := by
  obtain ⟨opening, closing, hopening, hclosing, -, -, hstart, hbetween, hstop, hoffset⟩ :=
    exists_markers_of_firstFrom? h
  have hfirst := hopening.start_lt_stop
  have hsecond := hclosing.start_lt_stop
  have hend := hclosing.stop_le
  omega

/-- The block is the stretch from one marker to another: its written form is the opening marker,
the body and the closing marker, and the closing marker is not written in the body. -/
structure IsBetween (source : Text) (opening closing : PlacedMarker) (found : Block × Span) :
    Prop where
  name_eq : found.1.name = opening.marker.name
  span_eq : found.2 = ⟨opening.span.start, closing.span.stop⟩
  cuts : found.2.Cuts source (opening.marker.text ++ (found.1.body ++ closingText found.1.name))
  not_isInfix : ¬ closingText found.1.name <:+: found.1.body

/-! ## The closing marker in the text and among the markers -/

theorem closingText_ne_nil (name : Text) : closingText name ≠ [] := by
  simp [closingText, Marker.text_eq_cons]

theorem bodyAfter?_eq_none_iff {before after : Text} {marker : Marker} :
    bodyAfter? sigil ⟨before, marker, after⟩ = none ↔
      (marker.sigil = sigil → ¬ closingText marker.name <:+: after) := by
  constructor
  · rintro h rfl
    rw [bodyAfter?, if_pos rfl] at h
    exact (Text.splitAtFirst?_eq_none_iff (closingText_ne_nil marker.name)).mp h
  · intro h
    by_cases hsigil : marker.sigil = sigil
    · exact bodyAfter?_eq_none_of_not_isInfix (h hsigil)
    · exact bodyAfter?_eq_none hsigil

/-- **Searching the text is searching the markers.**  Behind an opening marker, the first place
where a closing marker is written is that of the first marker that closes it. -/
theorem find?_isClosedBy {marker : Marker} (hname : Marker.IsName marker.name)
    (before after : Text) :
    (placedMarkers (before ++ (marker.text ++ after))).find?
        (marker.placedBehind before).isClosedBy =
      (Text.splitAtFirst? (closingText marker.name) after).map fun stretches =>
        Marker.placedBehind ⟨.slash, marker.name⟩ (before ++ marker.text ++ stretches.1) := by
  let opening := marker.placedBehind before
  have hstop : opening.span.stop = Text.utf8Size (before ++ marker.text) := rfl
  have hne : closingText marker.name ≠ [] := closingText_ne_nil marker.name
  rw [← List.append_assoc]
  cases hsplit : Text.splitAtFirst? (closingText marker.name) after with
  | none =>
      rw [Option.map_none, List.find?_eq_none]
      intro other hother hcloses
      obtain ⟨hmarker, hle⟩ := PlacedMarker.isClosedBy_iff.mp hcloses
      have hstands := mem_placedMarkers_iff.mp hother
      have hend : other.span.stop ≤ Text.utf8Size (before ++ marker.text ++ after) :=
        hstands.stop_le
      rw [← List.append_nil after] at hstands
      have hinfix := hstands.isInfix_of_le hle hend
      rw [hmarker] at hinfix
      exact (Text.splitAtFirst?_eq_none_iff hne).mp hsplit hinfix
  | some stretches =>
      obtain ⟨body, rest⟩ := stretches
      let closing := Marker.placedBehind ⟨.slash, marker.name⟩ (before ++ marker.text ++ body)
      have hsource : before ++ marker.text ++ after =
          before ++ marker.text ++ body ++ (closingText marker.name ++ rest) := by
        rw [Text.append_of_splitAtFirst? hsplit]
        simp
      have hclosing : closing.StandsIn (before ++ marker.text ++ after) := by
        rw [hsource]
        exact @Marker.standsIn_placedBehind ⟨.slash, marker.name⟩ hname _ rest
      have hbetween : opening.span.stop ≤ closing.span.start := by
        rw [hstop]
        show _ ≤ Text.utf8Size (before ++ marker.text ++ body)
        rw [Text.utf8Size_append _ body]
        exact Nat.le_add_right _ _
      rw [Option.map_some, find?_placedMarkers_eq_some_iff]
      refine ⟨⟨hclosing, PlacedMarker.isClosedBy_iff.mpr ⟨rfl, hbetween⟩⟩, ?_⟩
      intro other hother hcloses
      obtain ⟨hmarker, hle⟩ := PlacedMarker.isClosedBy_iff.mp hcloses
      by_contra hlate
      have hearly : other.span.start < closing.span.start := Nat.lt_of_not_le hlate
      -- a closing marker that starts earlier ends earlier, and so it is written in the body
      rcases hother.eq_or_stop_le hclosing hearly.le with rfl | hend
      · exact absurd hearly (Nat.lt_irrefl _)
      · rw [hsource, List.append_assoc (before ++ marker.text)] at hother
        have hinfix := hother.isInfix_of_le hle hend
        rw [hmarker] at hinfix
        exact Text.not_isInfix_of_splitAtFirst? hne hsplit hinfix

/-! ## From marker to marker -/

section Steps

variable {opening passed : PlacedMarker}

theorem firstFrom?_eq_none_of_marker (h : Marker.firstFrom? source offset = none) :
    firstFrom? source offset sigil = none := by
  cases hrest : Text.dropBytes? offset source with
  | none => simp [firstFrom?, hrest]
  | some rest =>
      obtain ⟨lead, rfl, rfl⟩ := Text.dropBytes?_eq_some_iff.mp hrest
      rw [Marker.firstFrom?_append, Option.map_eq_none_iff] at h
      rw [firstFrom?_append, first?_of_first?_eq_none h, Option.map_none]

/-- The first marker from a boundary on, with the text around it. -/
theorem exists_eq_append_of_firstFrom? (h : Marker.firstFrom? source offset = some opening) :
    ∃ lead found, source = lead ++ found.before ++ (found.marker.text ++ found.after) ∧
      offset = Text.utf8Size lead ∧
      Marker.first? (found.before ++ (found.marker.text ++ found.after)) = some found ∧
      Marker.IsName found.marker.name ∧
      opening = found.marker.placedBehind (lead ++ found.before) := by
  obtain ⟨rest, hrest, -⟩ := Option.bind_eq_some_iff.mp h
  obtain ⟨lead, rfl, rfl⟩ := Text.dropBytes?_eq_some_iff.mp hrest
  rw [Marker.firstFrom?_append] at h
  obtain ⟨found, hfound, rfl⟩ := Option.map_eq_some_iff.mp h
  obtain ⟨hsource, hname⟩ := Marker.eq_of_first? hfound
  refine ⟨lead, found, ?_, rfl, ?_, hname, rfl⟩
  · rw [List.append_assoc, ← hsource]
  · rw [← hsource]
    exact hfound

/-- A marker that opens no block is passed. -/
theorem firstFrom?_eq_of_not_opensBlock (hpassed : Marker.firstFrom? source offset = some passed)
    (hopens : ¬ passed.opensBlock source offset sigil) :
    firstFrom? source offset sigil = firstFrom? source passed.span.stop sigil := by
  have hoffset := (Marker.standsIn_of_firstFrom? hpassed).2
  obtain ⟨lead, found, rfl, rfl, hfirst, hname, rfl⟩ := exists_eq_append_of_firstFrom? hpassed
  have hbody : bodyAfter? sigil found = none := by
    cases hbody : bodyAfter? sigil found with
    | none => rfl
    | some stretches =>
        obtain ⟨hsigil, hsplit⟩ := bodyAfter?_eq_some_iff.mp hbody
        have hclosing := find?_isClosedBy hname (lead ++ found.before) found.after
        rw [hsplit] at hclosing
        exact absurd (PlacedMarker.opensBlock_iff.mpr ⟨hoffset, hsigil, _, hclosing⟩) hopens
  have hstop := firstFrom?_append sigil (lead ++ found.before ++ found.marker.text) found.after
  rw [List.append_assoc (lead ++ found.before)] at hstop
  show _ = firstFrom? _ (Text.utf8Size (lead ++ found.before ++ found.marker.text)) sigil
  rw [hstop, List.append_assoc lead, firstFrom?_append, first?_of_first?_eq_some hfirst, hbody,
    Option.map_map]
  congr 1
  funext inner
  simp [Nat.add_assoc]

/-- The block of the first marker is taken when that marker opens one. -/
theorem exists_firstFrom?_of_opensBlock (hopening : Marker.firstFrom? source offset = some opening)
    (hopens : opening.opensBlock source offset sigil) :
    ∃ closing found, (placedMarkers source).find? opening.isClosedBy = some closing ∧
      firstFrom? source offset sigil = some found ∧ IsBetween source opening closing found := by
  obtain ⟨-, hsigil, closing, hclosing⟩ := PlacedMarker.opensBlock_iff.mp hopens
  obtain ⟨lead, found, rfl, rfl, hfirst, hname, rfl⟩ := exists_eq_append_of_firstFrom? hopening
  have hfind := hclosing
  rw [find?_isClosedBy hname] at hfind
  obtain ⟨⟨body, after⟩, hsplit, rfl⟩ := Option.map_eq_some_iff.mp hfind
  have hbody : bodyAfter? sigil found = some (body, after) :=
    bodyAfter?_eq_some_iff.mpr ⟨hsigil, hsplit⟩
  have hmarker : ⟨sigil, found.marker.name⟩ = found.marker := by rw [← hsigil]; rfl
  let block : Block := ⟨found.marker.name, body⟩
  have hblock : firstFrom? (lead ++ found.before ++ (found.marker.text ++ found.after))
      (Text.utf8Size lead) sigil = some (block, ⟨Text.utf8Size (lead ++ found.before),
        Text.utf8Size (lead ++ (found.before ++ block.text sigil))⟩) := by
    rw [List.append_assoc lead, firstFrom?_append, first?_of_first?_eq_some hfirst, hbody]
    rfl
  have hsource : found.after = body ++ (closingText found.marker.name ++ after) := by
    rw [Text.append_of_splitAtFirst? hsplit, List.append_assoc]
  refine ⟨_, _, hclosing, hblock, rfl, ?_, ⟨lead ++ found.before, after, ?_, ?_⟩, ?_⟩
  · simp [Marker.placedBehind, block, text, closingText, hmarker]
  · rw [hsource]
    simp [Marker.placedBehind, block]
  · simp [Marker.placedBehind, block, text, hmarker]
  · exact Text.not_isInfix_of_splitAtFirst? (closingText_ne_nil _) hsplit

/-- The first marker from a boundary on is the first one that opens a block, if it opens one. -/
theorem find?_opensBlock_of_opensBlock (hoffset : source.IsBoundary offset)
    (hopening : Marker.firstFrom? source offset = some opening)
    (hopens : opening.opensBlock source offset sigil) :
    (placedMarkers source).find? (PlacedMarker.opensBlock source offset sigil) = some opening := by
  obtain ⟨hstands, -, hleast⟩ := (Marker.firstFrom?_eq_some_iff hoffset).mp hopening
  rw [find?_placedMarkers_eq_some_iff]
  refine ⟨⟨hstands, hopens⟩, ?_⟩
  intro other hother hagain
  have hle := (PlacedMarker.opensBlock_iff.mp hagain).1
  exact hleast ⟨hle, Text.isMarkerStart_iff.mpr ⟨other, hother, rfl⟩⟩

/-- Otherwise the first one that opens a block stands behind it. -/
theorem find?_opensBlock_of_not_opensBlock (hoffset : source.IsBoundary offset)
    (hpassed : Marker.firstFrom? source offset = some passed)
    (hopens : ¬ passed.opensBlock source offset sigil) :
    (placedMarkers source).find? (PlacedMarker.opensBlock source offset sigil) =
      (placedMarkers source).find? (PlacedMarker.opensBlock source passed.span.stop sigil) := by
  obtain ⟨hstands, ⟨hfrom, -⟩, hleast⟩ := (Marker.firstFrom?_eq_some_iff hoffset).mp hpassed
  have hlt := hstands.start_lt_stop
  apply List.find?_congr
  intro other hother
  have hother := mem_placedMarkers_iff.mp hother
  rw [Bool.eq_iff_iff, PlacedMarker.opensBlock_iff, PlacedMarker.opensBlock_iff]
  constructor
  · rintro ⟨hle, hblock⟩
    have hlater := hleast ⟨hle, Text.isMarkerStart_iff.mpr ⟨other, hother, rfl⟩⟩
    rcases hstands.eq_or_stop_le hother hlater with rfl | hstop
    · exact absurd (PlacedMarker.opensBlock_iff.mpr ⟨hle, hblock⟩) hopens
    · exact ⟨hstop, hblock⟩
  · rintro ⟨hle, hblock⟩
    exact ⟨by omega, hblock⟩

end Steps

/-! ## The first marker that opens a block -/

section Exact

variable {opening : PlacedMarker}

theorem exists_firstFrom?_of_find? (hoffset : source.IsBoundary offset)
    (h : (placedMarkers source).find? (PlacedMarker.opensBlock source offset sigil) =
      some opening) :
    ∃ closing found, (placedMarkers source).find? opening.isClosedBy = some closing ∧
      firstFrom? source offset sigil = some found ∧ IsBetween source opening closing found := by
  induction offset using Marker.markersFrom.induct source with
  | case1 offset hnone =>
      obtain ⟨⟨hstands, hopens⟩, -⟩ := find?_placedMarkers_eq_some_iff.mp h
      have hle := (PlacedMarker.opensBlock_iff.mp hopens).1
      have hall := (Marker.firstFrom?_eq_none_iff hoffset).mp hnone
      exact absurd (Text.isMarkerStart_iff.mpr ⟨opening, hstands, rfl⟩) (hall _ hle)
  | case2 offset first hfirst ih =>
      by_cases hopens : first.opensBlock source offset sigil
      · rw [find?_opensBlock_of_opensBlock hoffset hfirst hopens] at h
        obtain rfl : first = opening := Option.some.inj h
        exact exists_firstFrom?_of_opensBlock hfirst hopens
      · have hstop := (Marker.standsIn_of_firstFrom? hfirst).1.isBoundary_stop
        rw [find?_opensBlock_of_not_opensBlock hoffset hfirst hopens] at h
        rw [firstFrom?_eq_of_not_opensBlock hfirst hopens]
        exact ih hstop h

theorem firstFrom?_eq_none_iff (hoffset : source.IsBoundary offset) :
    firstFrom? source offset sigil = none ↔
      ∀ opening ∈ placedMarkers source, ¬ opening.opensBlock source offset sigil := by
  rw [← List.find?_eq_none]
  constructor
  · intro hnone
    cases hfind : (placedMarkers source).find? (PlacedMarker.opensBlock source offset sigil) with
    | none => rfl
    | some opening =>
        obtain ⟨closing, found, -, hfound, -⟩ := exists_firstFrom?_of_find? hoffset hfind
        rw [hnone] at hfound
        exact absurd hfound.symm (Option.some_ne_none found)
  · intro hnone
    induction offset using Marker.markersFrom.induct source with
    | case1 offset hmarker => exact firstFrom?_eq_none_of_marker hmarker
    | case2 offset first hfirst ih =>
        by_cases hopens : first.opensBlock source offset sigil
        · rw [find?_opensBlock_of_opensBlock hoffset hfirst hopens] at hnone
          exact absurd hnone (Option.some_ne_none first)
        · have hstop := (Marker.standsIn_of_firstFrom? hfirst).1.isBoundary_stop
          rw [find?_opensBlock_of_not_opensBlock hoffset hfirst hopens] at hnone
          rw [firstFrom?_eq_of_not_opensBlock hfirst hopens]
          exact ih hstop hnone

end Exact

/-- **The block that is found is that of the first marker that opens one.**  It ends with the first
marker of the text that closes the opening one.  Nothing is found only if no marker opens a block,
and a marker that opens none is passed. -/
theorem firstFrom?_exact (hoffset : source.IsBoundary offset) (sigil : Sigil) :
    (∀ opening, (placedMarkers source).find? (PlacedMarker.opensBlock source offset sigil) =
        some opening →
      ∃ closing found, (placedMarkers source).find? opening.isClosedBy = some closing ∧
        firstFrom? source offset sigil = some found ∧ IsBetween source opening closing found) ∧
    (firstFrom? source offset sigil = none ↔
      ∀ opening ∈ placedMarkers source, ¬ opening.opensBlock source offset sigil) ∧
    (∀ passed, Marker.firstFrom? source offset = some passed →
      ¬ passed.opensBlock source offset sigil →
      firstFrom? source offset sigil = firstFrom? source passed.span.stop sigil) := by
  refine ⟨?_, firstFrom?_eq_none_iff hoffset, ?_⟩
  · intro opening hopening
    exact exists_firstFrom?_of_find? hoffset hopening
  · intro passed hpassed hopens
    exact firstFrom?_eq_of_not_opensBlock hpassed hopens

/-- A marker that nothing closes, and a block with a brace too many before its closing marker. -/
def unfinished : Text :=
  (Marker.mk .hash ['A']).text ++ Block.text .hash ⟨['ß'], ['x', '{']⟩

/-- The opening marker of the block. -/
def unfinishedOpening : PlacedMarker := ⟨⟨.hash, ['ß']⟩, ⟨6, 13⟩⟩

theorem firstFrom?_unfinished : unfinished.IsBoundary 0 ∧
    ∃ found, firstFrom? unfinished 0 .hash = some found ∧ found.1.name = ['ß'] ∧
      found.2 = ⟨6, 22⟩ := by
  have hoffset : unfinished.IsBoundary 0 := ⟨[], unfinished, rfl, rfl⟩
  have hmarkers : placedMarkers unfinished = [⟨⟨.hash, ['A']⟩, ⟨0, 6⟩⟩, unfinishedOpening,
      ⟨⟨.slash, ['ß']⟩, ⟨15, 22⟩⟩] := by
    have htokens : tokens unfinished = [.literal [], .mark ⟨.hash, ['A']⟩, .literal [],
        .mark ⟨.hash, ['ß']⟩, .literal ['x', '{'], .mark ⟨.slash, ['ß']⟩, .literal []] := by
      show tokens ([] ++ ((Marker.mk .hash ['A']).text ++ ([] ++ ((Marker.mk .hash ['ß']).text ++
        (['x', '{'] ++ ((Marker.mk .slash ['ß']).text ++ [])))))) = _
      iterate 3 rw [tokens_literal_append (by decide) (by decide)]
      rw [tokens_nil]
    rw [placedMarkers, htokens]
    decide
  have hopens : (placedMarkers unfinished).find?
      (PlacedMarker.opensBlock unfinished 0 .hash) = some unfinishedOpening := by
    unfold PlacedMarker.opensBlock
    rw [hmarkers]
    decide
  obtain ⟨closing, found, hclosing, hfound, hbetween⟩ :=
    (firstFrom?_exact hoffset .hash).1 _ hopens
  have hlast : closing = ⟨⟨.slash, ['ß']⟩, ⟨15, 22⟩⟩ := by
    rw [hmarkers] at hclosing
    exact Option.some.inj (hclosing.symm.trans (by decide))
  refine ⟨hoffset, found, hfound, hbetween.name_eq, ?_⟩
  rw [hbetween.span_eq, hlast]
  rfl

end Block

end Invoicing
