import Invoicing.Proofs.Marker.Tokens
import Mathlib.Order.Bounds.Defs

/-!
# The places of markers

A marker stands in a text at a span when the span cuts the written form of the marker out of
the text (`PlacedMarker.StandsIn`).  The definition does not say how to search.  The scanner
does: it starts again behind every brace that opens no marker, and behind every marker that it
has found, and so it might pass over a marker that starts inside what it has skipped.

It does not.  Main statement: `Marker.markersFrom_exact`.  From any position between two
characters the scanner finds the marker that stands first from there on, with its span, and
searching again from the end of each marker lists all markers of the text in their order.

## Strategy

Braces stand at the ends of a marker only, so of two markers that stand in a text one ends
before the other one starts (`PlacedMarker.StandsIn.eq_or_stop_le`).  What the scanner jumps
over when it goes on behind a marker therefore holds no further one.
-/

namespace Invoicing

namespace Text

/-! ## Positions in a text -/

/-- A position between two characters, or at an end of the text. -/
def IsBoundary (source : Text) (offset : Nat) : Prop :=
  ∃ before after, source = before ++ after ∧ offset = utf8Size before

/-- A position from which the text reads as a marker: two braces, at most one sign, a name of
at least one character, and two braces. -/
def IsMarkerStart (source : Text) (start : Nat) : Prop :=
  ∃ before marker after, Marker.IsName marker.name ∧
    source = before ++ (Marker.text marker ++ after) ∧ start = utf8Size before

theorem eq_nil_of_utf8Size_eq_zero {text : Text} (h : utf8Size text = 0) : text = [] := by
  cases text with
  | nil => rfl
  | cons head rest =>
      have hpos := head.utf8Size_pos
      rw [utf8Size_cons] at h
      omega

/-- Of two ways to cut a text the one with the smaller position cuts earlier. -/
theorem exists_eq_append_of_utf8Size_le {before after other rest : Text}
    (h : before ++ after = other ++ rest) (hle : utf8Size before ≤ utf8Size other) :
    ∃ middle, other = before ++ middle ∧ after = middle ++ rest := by
  rcases List.append_eq_append_iff.mp h with hlater | ⟨middle, hbefore, hrest⟩
  · exact hlater
  · have hsize : utf8Size middle = 0 := by
      rw [hbefore, utf8Size_append] at hle
      omega
    have hmiddle : middle = [] := eq_nil_of_utf8Size_eq_zero hsize
    subst hmiddle
    exact ⟨[], by simpa using hbefore.symm, by simpa using hrest.symm⟩

theorem dropBytes?_eq_some_iff {source rest : Text} {offset : Nat} :
    dropBytes? offset source = some rest ↔
      ∃ before, source = before ++ rest ∧ offset = utf8Size before := by
  constructor
  · intro h
    fun_induction dropBytes? offset source with
    | case1 source =>
        obtain rfl : source = rest := by simpa using h
        exact ⟨[], rfl, rfl⟩
    | case2 offset => simp at h
    | case3 offset head tail hle ih =>
        obtain ⟨before, htail, hoffset⟩ := ih h
        refine ⟨head :: before, by rw [htail, List.cons_append], ?_⟩
        rw [utf8Size_cons, ← hoffset]
        omega
    | case4 offset head tail hle => simp at h
  · rintro ⟨before, rfl, rfl⟩
    exact dropBytes?_utf8Size before rest

end Text

/-! ## Markers that stand in a text -/

/-- The marker is properly named, and its span cuts it out of the text. -/
def PlacedMarker.StandsIn (placed : PlacedMarker) (source : Text) : Prop :=
  Marker.IsName placed.marker.name ∧ ∃ before after,
    source = before ++ (placed.marker.text ++ after) ∧
      placed.span = ⟨Text.utf8Size before, Text.utf8Size (before ++ placed.marker.text)⟩

/-- A marker with the span that it takes behind a text. -/
def Marker.placedBehind (marker : Marker) (before : Text) : PlacedMarker :=
  ⟨marker, ⟨Text.utf8Size before, Text.utf8Size (before ++ marker.text)⟩⟩

theorem Marker.standsIn_placedBehind {marker : Marker} (hname : IsName marker.name)
    (before after : Text) :
    (marker.placedBehind before).StandsIn (before ++ (marker.text ++ after)) :=
  ⟨hname, before, after, rfl, rfl⟩

theorem Text.isMarkerStart_iff {source : Text} {start : Nat} :
    source.IsMarkerStart start ↔ ∃ placed : PlacedMarker, placed.StandsIn source ∧
      placed.span.start = start := by
  constructor
  · rintro ⟨before, marker, after, hname, hsource, hstart⟩
    let span : Span := ⟨Text.utf8Size before, Text.utf8Size (before ++ marker.text)⟩
    exact ⟨⟨marker, span⟩, ⟨hname, before, after, hsource, rfl⟩, hstart.symm⟩
  · rintro ⟨placed, ⟨hname, before, after, hsource, hspan⟩, hstart⟩
    exact ⟨before, placed.marker, after, hname, hsource, by rw [← hstart, hspan]⟩

theorem Marker.utf8Size_text_pos (marker : Marker) : 0 < Text.utf8Size marker.text := by
  have hbrace := Char.utf8Size_pos '{'
  rw [Marker.text_eq_cons, Text.utf8Size_cons]
  omega

namespace PlacedMarker

section StandsIn

variable {source : Text} {first second placed : PlacedMarker}

theorem StandsIn.start_lt_stop (h : placed.StandsIn source) :
    placed.span.start < placed.span.stop := by
  obtain ⟨-, before, after, -, hspan⟩ := h
  have hpos := placed.marker.utf8Size_text_pos
  rw [hspan]
  simp only [Text.utf8Size_append]
  omega

theorem StandsIn.stop_le (h : placed.StandsIn source) :
    placed.span.stop ≤ Text.utf8Size source := by
  obtain ⟨-, before, after, hsource, hspan⟩ := h
  rw [hsource, hspan]
  simp only [Text.utf8Size_append]
  omega

theorem StandsIn.isBoundary_stop (h : placed.StandsIn source) :
    source.IsBoundary placed.span.stop := by
  obtain ⟨-, before, after, hsource, hspan⟩ := h
  exact ⟨before ++ placed.marker.text, after, by rw [hsource, List.append_assoc], by rw [hspan]⟩

/-- A marker that stands between two positions is written in the stretch between them. -/
theorem StandsIn.isInfix_of_le {lead middle rest : Text}
    (h : placed.StandsIn (lead ++ (middle ++ rest)))
    (hstart : Text.utf8Size lead ≤ placed.span.start)
    (hstop : placed.span.stop ≤ Text.utf8Size (lead ++ middle)) :
    placed.marker.text <:+: middle := by
  obtain ⟨-, before, after, hsource, hspan⟩ := h
  rw [hspan] at hstart hstop
  obtain ⟨gap, rfl, hgap⟩ := Text.exists_eq_append_of_utf8Size_le hsource hstart
  have hle : Text.utf8Size (gap ++ placed.marker.text) ≤ Text.utf8Size middle := by
    simp only [Text.utf8Size_append] at hstop ⊢
    omega
  have hcut : (gap ++ placed.marker.text) ++ after = middle ++ rest := by
    rw [hgap, List.append_assoc]
  obtain ⟨tail, rfl, -⟩ := Text.exists_eq_append_of_utf8Size_le hcut hle
  exact List.infix_append gap placed.marker.text tail

/-- Two markers that stand in a text do not overlap. -/
theorem StandsIn.eq_or_stop_le (hfirst : first.StandsIn source) (hsecond : second.StandsIn source)
    (hle : first.span.start ≤ second.span.start) :
    first = second ∨ first.span.stop ≤ second.span.start := by
  obtain ⟨hname, before, after, hsource, hspan⟩ := hfirst
  obtain ⟨hother, lead, rest, hagain, hspan'⟩ := hsecond
  rw [hspan, hspan'] at hle
  obtain ⟨middle, rfl, hmiddle⟩ :=
    Text.exists_eq_append_of_utf8Size_le (hsource.symm.trans hagain) hle
  rcases Marker.eq_or_exists_eq_text_append hname hother hmiddle.symm with
    ⟨rfl, hsame, -⟩ | ⟨more, rfl⟩
  · left
    rw [PlacedMarker.mk.injEq]
    exact ⟨hsame.symm, by rw [hspan, hspan', List.append_nil, hsame]⟩
  · right
    rw [hspan, hspan']
    simp only [Text.utf8Size_append]
    omega

end StandsIn

end PlacedMarker

/-! ## The first marker from a position on -/

namespace Marker

section FirstFrom

variable {source : Text} {offset : Nat} {placed other : PlacedMarker}

theorem firstFrom?_append (lead rest : Text) :
    firstFrom? (lead ++ rest) (Text.utf8Size lead) = (first? rest).map fun found =>
      ⟨found.marker, ⟨Text.utf8Size (lead ++ found.before),
        Text.utf8Size (lead ++ found.before ++ found.marker.text)⟩⟩ := by
  simp only [firstFrom?, Text.dropBytes?_utf8Size, Option.bind_eq_bind, Option.bind_some,
    Text.utf8Size_append]
  cases first? rest <;> rfl

/-- A text that holds a marker has a first one, and it starts no later. -/
theorem exists_first?_eq_some (before : Text) {marker : Marker} (hname : IsName marker.name)
    (after : Text) :
    ∃ found, first? (before ++ (marker.text ++ after)) = some found ∧ found.before <+: before := by
  cases hbefore : first? before with
  | none => exact ⟨_, first?_append_text hbefore hname after, List.prefix_refl _⟩
  | some found =>
      refine ⟨_, first?_append hbefore _, ?_⟩
      rw [(eq_of_first? hbefore).1]
      exact List.prefix_append _ _

/-- A marker that stands in a text is the first one, or it stands behind the first one. -/
theorem eq_or_exists_of_first?_eq_some {left right : Text} {marker : Marker}
    {found : Occurrence} (hname : IsName marker.name)
    (h : first? (left ++ (marker.text ++ right)) = some found) :
    found = ⟨left, marker, right⟩ ∨ ∃ middle, found.after = middle ++ (marker.text ++ right) := by
  obtain ⟨earlier, hearlier, middle, hmiddle⟩ := exists_first?_eq_some left hname right
  obtain rfl : earlier = found := Option.some.inj (hearlier.symm.trans h)
  obtain ⟨hsource, hfound⟩ := eq_of_first? h
  have hrest : middle ++ (marker.text ++ right) = earlier.marker.text ++ earlier.after := by
    rw [← hmiddle, List.append_assoc] at hsource
    exact List.append_cancel_left hsource
  rcases eq_or_exists_eq_text_append hfound hname hrest with ⟨rfl, rfl, hafter⟩ | ⟨more, rfl⟩
  · left
    rw [Occurrence.mk.injEq]
    exact ⟨by rw [← hmiddle, List.append_nil], rfl, hafter.symm⟩
  · rw [List.append_assoc] at hrest
    exact Or.inr ⟨more, (List.append_cancel_left hrest).symm⟩

theorem standsIn_of_firstFrom? (h : firstFrom? source offset = some placed) :
    placed.StandsIn source ∧ offset ≤ placed.span.start := by
  obtain ⟨rest, hrest, -⟩ := Option.bind_eq_some_iff.mp h
  obtain ⟨lead, rfl, rfl⟩ := Text.dropBytes?_eq_some_iff.mp hrest
  rw [firstFrom?_append] at h
  obtain ⟨found, hfound, rfl⟩ := Option.map_eq_some_iff.mp h
  obtain ⟨hsource, hname⟩ := eq_of_first? hfound
  refine ⟨⟨hname, lead ++ found.before, found.after, ?_, rfl⟩, ?_⟩
  · rw [List.append_assoc, ← hsource]
  · rw [Text.utf8Size_append]
    exact Nat.le_add_right _ _

/-- When a marker stands behind a boundary, the scanner finds one that starts no later. -/
theorem exists_firstFrom?_eq_some (hoffset : source.IsBoundary offset)
    (hother : other.StandsIn source) (hle : offset ≤ other.span.start) :
    ∃ placed, firstFrom? source offset = some placed ∧
      placed.span.start ≤ other.span.start := by
  obtain ⟨lead, rest, hlead, rfl⟩ := hoffset
  obtain ⟨hname, before, after, hsource, hspan⟩ := hother
  rw [hspan] at hle ⊢
  obtain ⟨middle, rfl, hrest⟩ :=
    Text.exists_eq_append_of_utf8Size_le (hlead.symm.trans hsource) hle
  obtain ⟨found, hfound, more, hmore⟩ := exists_first?_eq_some middle hname after
  rw [hlead, firstFrom?_append, hrest, hfound]
  refine ⟨_, rfl, ?_⟩
  rw [← hmore]
  simp only [Text.utf8Size_append]
  omega

theorem firstFrom?_eq_none_iff (hoffset : source.IsBoundary offset) :
    firstFrom? source offset = none ↔ ∀ start, offset ≤ start → ¬ source.IsMarkerStart start := by
  constructor
  · intro hnone start hle hstart
    obtain ⟨other, hother, rfl⟩ := Text.isMarkerStart_iff.mp hstart
    obtain ⟨placed, hplaced, -⟩ := exists_firstFrom?_eq_some hoffset hother hle
    rw [hnone] at hplaced
    exact Option.some_ne_none placed hplaced.symm
  · intro hnone
    cases hfirst : firstFrom? source offset with
    | none => rfl
    | some placed =>
        obtain ⟨hplaced, hle⟩ := standsIn_of_firstFrom? hfirst
        exact absurd (Text.isMarkerStart_iff.mpr ⟨placed, hplaced, rfl⟩) (hnone _ hle)

theorem firstFrom?_eq_some_iff (hoffset : source.IsBoundary offset) :
    firstFrom? source offset = some placed ↔ placed.StandsIn source ∧
      IsLeast {start | offset ≤ start ∧ source.IsMarkerStart start} placed.span.start := by
  constructor
  · intro h
    obtain ⟨hplaced, hle⟩ := standsIn_of_firstFrom? h
    refine ⟨hplaced, ⟨hle, Text.isMarkerStart_iff.mpr ⟨placed, hplaced, rfl⟩⟩, ?_⟩
    rintro start ⟨hstart, hmarker⟩
    obtain ⟨other, hother, rfl⟩ := Text.isMarkerStart_iff.mp hmarker
    obtain ⟨found, hfound, hearlier⟩ := exists_firstFrom?_eq_some hoffset hother hstart
    obtain rfl : placed = found := Option.some.inj (h.symm.trans hfound)
    exact hearlier
  · rintro ⟨hplaced, ⟨hle, -⟩, hleast⟩
    obtain ⟨found, hfound, hearlier⟩ := exists_firstFrom?_eq_some hoffset hplaced hle
    obtain ⟨hstands, hfrom⟩ := standsIn_of_firstFrom? hfound
    have hlater : placed.span.start ≤ found.span.start :=
      hleast ⟨hfrom, Text.isMarkerStart_iff.mpr ⟨found, hstands, rfl⟩⟩
    -- two markers that start at one place are the same
    rcases hstands.eq_or_stop_le hplaced hearlier with rfl | hstop
    · exact hfound
    · have hlt := hstands.start_lt_stop
      omega

end FirstFrom

/-! ## One marker after another -/

/-- The markers that are found by searching again from the end of the last one. -/
def markersFrom (source : Text) (offset : Nat) : List PlacedMarker :=
  match _hfirst : firstFrom? source offset with
  | none => []
  | some placed => placed :: markersFrom source placed.span.stop
termination_by Text.utf8Size source - offset
decreasing_by
  obtain ⟨hplaced, hle⟩ := standsIn_of_firstFrom? _hfirst
  have hlt := hplaced.start_lt_stop
  have hstop := hplaced.stop_le
  omega

section MarkersFrom

variable {source : Text} {offset : Nat} {placed : PlacedMarker}

/-- The tokens of a text give the markers that the search finds. -/
theorem placedMarkersFrom_eq_markersFrom (source : Text) (offset : Nat) :
    placedMarkersFrom source offset = markersFrom source offset := by
  fun_induction markersFrom source offset with
  | case1 offset hnone =>
      unfold placedMarkersFrom
      cases hrest : Text.dropBytes? offset source with
      | none => rfl
      | some rest =>
          obtain ⟨lead, rfl, rfl⟩ := Text.dropBytes?_eq_some_iff.mp hrest
          rw [firstFrom?_append, Option.map_eq_none_iff] at hnone
          simp [tokens_of_first?_eq_none hnone, placeMarkers]
  | case2 offset placed hfirst ih =>
      obtain ⟨rest, hrest, -⟩ := Option.bind_eq_some_iff.mp hfirst
      obtain ⟨lead, rfl, rfl⟩ := Text.dropBytes?_eq_some_iff.mp hrest
      rw [firstFrom?_append] at hfirst
      obtain ⟨found, hfound, rfl⟩ := Option.map_eq_some_iff.mp hfirst
      have hsource : lead ++ rest = lead ++ found.before ++ found.marker.text ++ found.after := by
        rw [(eq_of_first? hfound).1]
        simp
      have hafter := Text.dropBytes?_utf8Size (lead ++ found.before ++ found.marker.text) found.after
      rw [← ih]
      simp only [placedMarkersFrom, Text.dropBytes?_utf8Size, tokens_of_first?_eq_some hfound,
        placeMarkers]
      rw [hsource, hafter]
      simp only [Text.utf8Size_append]

theorem mem_markersFrom_iff (hoffset : source.IsBoundary offset) :
    placed ∈ markersFrom source offset ↔ placed.StandsIn source ∧ offset ≤ placed.span.start := by
  fun_induction markersFrom source offset with
  | case1 offset hnone =>
      have hall := (firstFrom?_eq_none_iff hoffset).mp hnone
      simp only [List.not_mem_nil, false_iff, not_and]
      intro hplaced hle
      exact hall _ hle (Text.isMarkerStart_iff.mpr ⟨placed, hplaced, rfl⟩)
  | case2 offset found hfirst ih =>
      obtain ⟨hfound, hfrom⟩ := standsIn_of_firstFrom? hfirst
      have hlt := hfound.start_lt_stop
      rw [List.mem_cons, ih hfound.isBoundary_stop]
      constructor
      · rintro (rfl | ⟨hplaced, hle⟩)
        · exact ⟨hfound, hfrom⟩
        · exact ⟨hplaced, by omega⟩
      · rintro ⟨hplaced, hle⟩
        have hleast := ((firstFrom?_eq_some_iff hoffset).mp hfirst).2.2
        have hearlier : found.span.start ≤ placed.span.start :=
          hleast ⟨hle, Text.isMarkerStart_iff.mpr ⟨placed, hplaced, rfl⟩⟩
        rcases hfound.eq_or_stop_le hplaced hearlier with rfl | hstop
        · exact Or.inl rfl
        · exact Or.inr ⟨hplaced, hstop⟩

theorem pairwise_markersFrom (hoffset : source.IsBoundary offset) :
    (markersFrom source offset).Pairwise fun earlier later =>
      earlier.span.stop ≤ later.span.start := by
  fun_induction markersFrom source offset with
  | case1 offset hnone => exact List.Pairwise.nil
  | case2 offset found hfirst ih =>
      have hstop := (standsIn_of_firstFrom? hfirst).1.isBoundary_stop
      refine List.pairwise_cons.mpr ⟨?_, ih hstop⟩
      intro later hlater
      exact ((mem_markersFrom_iff hstop).mp hlater).2

end MarkersFrom

/-- **The scanner finds the markers that stand in a text, and all of them.**  From a boundary
on it finds the one that starts first, and none only if there is none.  Markers do not overlap,
and searching again from the end of each lists every start of a marker once, in order; the
tokens of the text give the same list. -/
theorem markersFrom_exact (source : Text) :
    (∀ offset, source.IsBoundary offset →
      (∀ placed, firstFrom? source offset = some placed ↔ placed.StandsIn source ∧
        IsLeast {start | offset ≤ start ∧ source.IsMarkerStart start} placed.span.start) ∧
      (firstFrom? source offset = none ↔
        ∀ start, offset ≤ start → ¬ source.IsMarkerStart start)) ∧
    (∀ first second : PlacedMarker, first.StandsIn source → second.StandsIn source →
      first = second ∨ first.span.stop ≤ second.span.start ∨
        second.span.stop ≤ first.span.start) ∧
    (∀ placed, placed ∈ markersFrom source 0 ↔ placed.StandsIn source) ∧
    (∀ start, start ∈ (markersFrom source 0).map (·.span.start) ↔ source.IsMarkerStart start) ∧
    ((markersFrom source 0).map (·.span.start)).Pairwise (· < ·) ∧
    placedMarkers source = markersFrom source 0 := by
  have hzero : source.IsBoundary 0 := ⟨[], source, rfl, rfl⟩
  have hmem : ∀ placed, placed ∈ markersFrom source 0 ↔ placed.StandsIn source := by
    intro placed
    simp [mem_markersFrom_iff hzero]
  refine ⟨?_, ?_, hmem, ?_, ?_, ?_⟩
  · intro offset hoffset
    exact ⟨fun placed => firstFrom?_eq_some_iff hoffset, firstFrom?_eq_none_iff hoffset⟩
  · intro first second hfirst hsecond
    rcases Nat.le_total first.span.start second.span.start with hle | hle
    · exact (hfirst.eq_or_stop_le hsecond hle).imp_right Or.inl
    · rcases hsecond.eq_or_stop_le hfirst hle with rfl | hstop
      · exact Or.inl rfl
      · exact Or.inr (Or.inr hstop)
  · intro start
    simp only [List.mem_map, hmem, Text.isMarkerStart_iff]
  · rw [List.pairwise_map]
    refine (pairwise_markersFrom hzero).imp_of_mem ?_
    intro earlier later hearlier _ hstop
    have hlt := ((hmem earlier).mp hearlier).start_lt_stop
    omega
  · rw [← placedMarkersFrom_eq_markersFrom]
    simp [placedMarkersFrom, placedMarkers]

/-- A brace too many before a marker, a name outside ASCII, and a marker that is not finished. -/
def crowded : Text :=
  ['ü', '{'] ++ ((Marker.mk .plain ['A']).text ++ ((Marker.mk .hash ['ß']).text ++ ['{', '{', 'B']))

/-- The value marker of that text. -/
def crowdedValue : PlacedMarker := ⟨⟨.plain, ['A']⟩, ⟨3, 8⟩⟩

/-- Its block marker. -/
def crowdedBlock : PlacedMarker := ⟨⟨.hash, ['ß']⟩, ⟨8, 15⟩⟩

theorem firstFrom?_crowded :
    (firstFrom? crowded 2 = some crowdedValue ∧
      IsLeast {start | 2 ≤ start ∧ crowded.IsMarkerStart start} 3) ∧
    (crowdedValue.span.stop ≤ crowdedBlock.span.start ∨
      crowdedBlock.span.stop ≤ crowdedValue.span.start) := by
  have hboundary : crowded.IsBoundary 2 := ⟨['ü'], _, rfl, by decide⟩
  have hvalue : crowdedValue.StandsIn crowded := ⟨by decide, ['ü', '{'], _, rfl, by decide⟩
  have hblock : crowdedBlock.StandsIn crowded :=
    ⟨by decide, ['ü', '{'] ++ (Marker.mk .plain ['A']).text, ['{', '{', 'B'], rfl, by decide⟩
  have hfirst : firstFrom? crowded 2 = some crowdedValue := by decide +kernel
  obtain ⟨hfrom, hapart, -⟩ := markersFrom_exact crowded
  exact ⟨⟨hfirst, (((hfrom 2 hboundary).1 _).mp hfirst).2⟩,
    (hapart _ _ hvalue hblock).resolve_left (by decide)⟩

end Marker

/-! ## The markers of a whole text -/

section PlacedMarkers

variable {source : Text} {placed : PlacedMarker}

theorem placedMarkers_eq_markersFrom (source : Text) :
    placedMarkers source = Marker.markersFrom source 0 := by
  rw [← Marker.placedMarkersFrom_eq_markersFrom]
  simp [placedMarkersFrom, placedMarkers]

theorem mem_placedMarkers_iff : placed ∈ placedMarkers source ↔ placed.StandsIn source := by
  have hzero : source.IsBoundary 0 := ⟨[], source, rfl, rfl⟩
  rw [placedMarkers_eq_markersFrom, Marker.mem_markersFrom_iff hzero]
  exact and_iff_left (Nat.zero_le _)

/-- Of two markers of a text the earlier one ends before the later one starts. -/
theorem pairwise_placedMarkers (source : Text) :
    (placedMarkers source).Pairwise fun earlier later => earlier.span.stop ≤ later.span.start := by
  rw [placedMarkers_eq_markersFrom]
  exact Marker.pairwise_markersFrom ⟨[], source, rfl, rfl⟩

theorem nodup_placedMarkers (source : Text) : (placedMarkers source).Nodup := by
  refine (pairwise_placedMarkers source).imp_of_mem ?_
  rintro earlier later hearlier - hstop rfl
  have hlt := (mem_placedMarkers_iff.mp hearlier).start_lt_stop
  omega

/-- The first marker with a property is the one with the property that starts first. -/
theorem find?_placedMarkers_eq_some_iff {property : PlacedMarker → Bool} :
    (placedMarkers source).find? property = some placed ↔
      (placed.StandsIn source ∧ property placed) ∧
        ∀ other : PlacedMarker, other.StandsIn source → property other →
          placed.span.start ≤ other.span.start := by
  have hforward : ∀ {placed}, (placedMarkers source).find? property = some placed →
      (placed.StandsIn source ∧ property placed) ∧
        ∀ other : PlacedMarker, other.StandsIn source → property other →
          placed.span.start ≤ other.span.start := by
    intro placed hfind
    obtain ⟨hproperty, before, after, hmarkers, hbefore⟩ := List.find?_eq_some_iff_append.mp hfind
    have hplaced := mem_placedMarkers_iff.mp (List.mem_of_find?_eq_some hfind)
    refine ⟨⟨hplaced, hproperty⟩, ?_⟩
    intro other hother hagain
    have hpairwise := pairwise_placedMarkers source
    rw [← mem_placedMarkers_iff, hmarkers, List.mem_append, List.mem_cons] at hother
    rw [hmarkers] at hpairwise
    rcases hother with hearly | rfl | hlate
    · have hnot := hbefore other hearly
      simp [hagain] at hnot
    · exact Nat.le_refl _
    · have hstop := (List.pairwise_cons.mp (List.pairwise_append.mp hpairwise).2.1).1 other hlate
      have hlt := hplaced.start_lt_stop
      omega
  refine ⟨hforward, ?_⟩
  rintro ⟨⟨hplaced, hproperty⟩, hleast⟩
  cases hfind : (placedMarkers source).find? property with
  | none =>
      have hnone := List.find?_eq_none.mp hfind placed (mem_placedMarkers_iff.mpr hplaced)
      exact absurd hproperty hnone
  | some found =>
      obtain ⟨⟨hfound, hagain⟩, hfirst⟩ := hforward hfind
      have hle := hfirst placed hplaced hproperty
      have hge := hleast found hfound hagain
      have hlt := hfound.start_lt_stop
      -- two markers that start at one place are the same
      rcases hfound.eq_or_stop_le hplaced hle with rfl | hstop
      · rfl
      · omega

end PlacedMarkers

end Invoicing
