import Invoicing.Proofs.Marker.Places
import Invoicing.Proofs.Template.Pairing
import Mathlib.Data.List.Nodup
import Mathlib.Data.List.Perm.Subperm
import Mathlib.Order.Bounds.Defs

/-!
# Every marker is accounted for

An opening marker takes the first closing marker of its name that is left, in the order of the
text.  Could another choice leave fewer markers single?  It could not.

Main statement: `Template.accountsFor_analyze`.  The markers are listed by what they ask for, no marker
is reported twice, and of every name as many opening markers are reported as have to stay without
a closing one, however they are paired.

## Strategy

A pairing pairs every opening marker with a later closing one, so cut the markers anywhere: a pair
that opens in front of the cut uses up one of the opening markers there, and one that opens behind
it uses up one of the closing markers there (`Template.IsMatching.length_le`).  No pairing has more
pairs than these markers, at whichever cut.

The pairing of the analysis has as many, at a cut that depends on the name
(`Template.exists_cut`).  The cut is found by induction on the steps of the pairing.  A pair whose
closing marker stands in front of the cut is counted there.  If it stands behind the cut, the
pairing has as many pairs as there are closing markers in all, and the cut is made at the start.
-/

namespace Invoicing.Template

/-- Whether a marker opens a block of a name. -/
def isOpeningOf (name : Text) (placed : PlacedMarker) : Bool :=
  isOpening placed && placed.marker.name == name

/-- Whether a pair is one of a name. -/
def Pair.isOf (name : Text) (pair : Pair) : Bool := pair.opening.marker.name == name

/-! ## Counting the markers of a name -/

section Counting

variable {name other : Text} {opening closing value : PlacedMarker}

theorem isOpeningOf_of_isOpening (h : isOpening opening) :
    isOpeningOf name opening = (opening.marker.name == name) := by
  rw [isOpeningOf, h, Bool.true_and]

theorem isClosingOf_of_slash (h : closing.marker.sigil = .slash) :
    isClosingOf name closing = (closing.marker.name == name) := by
  rw [isClosingOf, h, beq_self_eq_true, Bool.true_and]

theorem isClosingOf_of_isOpening (h : isOpening opening) : isClosingOf name opening = false := by
  rcases Bool.or_eq_true_iff.mp h with hsigil | hsigil <;>
    simp [isClosingOf, beq_iff_eq.mp hsigil]

theorem isOpeningOf_of_slash (h : closing.marker.sigil = .slash) :
    isOpeningOf name closing = false := by
  simp [isOpeningOf, isOpening, h]

theorem isOpeningOf_of_isClosingOf (h : isClosingOf other closing) :
    isOpeningOf name closing = false :=
  isOpeningOf_of_slash (sigil_eq_of_isClosingOf h)

theorem isClosingOf_of_isClosingOf (h : isClosingOf other closing) :
    isClosingOf name closing = (other == name) := by
  rw [isClosingOf_of_slash (sigil_eq_of_isClosingOf h), name_eq_of_isClosingOf h]

theorem Pair.isOf_mk (opening closing : PlacedMarker) :
    Pair.isOf name ⟨opening, closing⟩ = (opening.marker.name == name) := by
  rw [Pair.isOf]

theorem isOpeningOf_of_plain (h : value.marker.sigil = .plain) :
    isOpeningOf name value = false := by
  simp [isOpeningOf, isOpening, h]

theorem isClosingOf_of_plain (h : value.marker.sigil = .plain) :
    isClosingOf name value = false := by
  simp [isClosingOf, h]

/-- Every opening marker of a name is paired or left. -/
theorem countP_isOpeningOf (name : Text) (markers : List PlacedMarker) :
    markers.countP (isOpeningOf name) = (pairUp markers).pairs.countP (Pair.isOf name) +
      (pairUp markers).unclosed.countP (·.marker.name == name) := by
  induction markers using pairUp_induction with
  | nil => simp
  | paired opening before closing after hopening hclosing _ hpairUp ih =>
      rw [List.countP_append] at ih
      rw [hpairUp]
      simp only [List.countP_cons, List.countP_append, isOpeningOf_of_isOpening hopening,
        isOpeningOf_of_isClosingOf hclosing, Pair.isOf_mk, Bool.false_eq_true, if_false]
      omega
  | unclosed opening rest hopening _ hpairUp ih =>
      rw [hpairUp]
      simp only [List.countP_cons, isOpeningOf_of_isOpening hopening, ih]
      omega
  | stray closing rest hslash hpairUp ih =>
      rw [hpairUp, List.countP_cons, isOpeningOf_of_slash hslash, ih]
      rfl
  | plain value rest hplain hpairUp ih =>
      rw [hpairUp, List.countP_cons, isOpeningOf_of_plain hplain, ih]
      rfl

/-- Every closing marker of a name is paired or left. -/
theorem countP_isClosingOf (name : Text) (markers : List PlacedMarker) :
    markers.countP (isClosingOf name) = (pairUp markers).pairs.countP (Pair.isOf name) +
      (pairUp markers).stray.countP (·.marker.name == name) := by
  induction markers using pairUp_induction with
  | nil => simp
  | paired opening before closing after hopening hclosing _ hpairUp ih =>
      rw [List.countP_append] at ih
      rw [hpairUp]
      simp only [List.countP_cons, List.countP_append, isClosingOf_of_isOpening hopening,
        isClosingOf_of_isClosingOf hclosing, Pair.isOf_mk, Bool.false_eq_true, if_false]
      omega
  | unclosed opening rest hopening _ hpairUp ih =>
      rw [hpairUp, List.countP_cons, isClosingOf_of_isOpening hopening, ih]
      rfl
  | stray closing rest hslash hpairUp ih =>
      rw [hpairUp]
      simp only [List.countP_cons, isClosingOf_of_slash hslash, ih]
      omega
  | plain value rest hplain hpairUp ih =>
      rw [hpairUp, List.countP_cons, isClosingOf_of_plain hplain, ih]
      rfl

end Counting

/-! ## The pairs -/

/-- The opening marker of a pair stands before the closing one. -/
theorem rel_of_mem_pairs {IsBefore : PlacedMarker → PlacedMarker → Prop}
    {markers : List PlacedMarker} (hmarkers : markers.Pairwise IsBefore) {pair : Pair}
    (h : pair ∈ (pairUp markers).pairs) :
    isOpening pair.opening ∧ isClosingOf pair.opening.marker.name pair.closing ∧
      IsBefore pair.opening pair.closing := by
  induction markers using pairUp_induction with
  | nil => simp at h
  | paired opening before closing after hopening hclosing _ hpairUp ih =>
      obtain ⟨hfirst, hrest⟩ := List.pairwise_cons.mp hmarkers
      rw [hpairUp] at h
      rcases List.mem_cons.mp h with rfl | h
      · exact ⟨hopening, hclosing, hfirst closing (by simp)⟩
      · exact ih (hrest.sublist ((List.sublist_cons_self _ _).append_left _)) h
  | unclosed opening rest _ _ hpairUp ih =>
      rw [hpairUp] at h
      exact ih (List.pairwise_cons.mp hmarkers).2 h
  | stray closing rest _ hpairUp ih =>
      rw [hpairUp] at h
      exact ih (List.pairwise_cons.mp hmarkers).2 h
  | plain value rest _ hpairUp ih =>
      rw [hpairUp] at h
      exact ih (List.pairwise_cons.mp hmarkers).2 h

/-! ## The reports -/

theorem sublist_crossings (earlier pairs : List Pair) :
    ((crossings earlier pairs).map Prod.fst).Sublist pairs := by
  induction pairs generalizing earlier with
  | nil => simp [crossings]
  | cons inner rest ih =>
      rw [crossings]
      cases earlier.find? inner.crosses with
      | some outer => exact (ih _).cons_cons inner
      | none => exact (ih _).cons inner

/-- The markers that are reported, in the order of the kinds of report. -/
def Pairing.reported (pairing : Pairing) : List PlacedMarker :=
  pairing.unclosed ++ (pairing.stray ++
    ((crossings [] pairing.pairs).map Prod.fst).map Pair.opening)

theorem perm_placed_issues (pairing : Pairing) :
    (pairing.issues.map Issue.placed).Perm pairing.reported := by
  refine ((List.mergeSort_perm _ _).map _).trans (List.Perm.of_eq ?_)
  simp [Pairing.reported, Function.comp_def]

theorem sublist_opening_flatMap (pairs : List Pair) :
    (pairs.map Pair.opening).Sublist (pairs.flatMap fun pair => [pair.opening, pair.closing]) := by
  induction pairs with
  | nil => simp
  | cons pair rest ih => exact (ih.cons pair.closing).cons_cons pair.opening

theorem sublist_closing_flatMap (pairs : List Pair) :
    (pairs.map Pair.closing).Sublist (pairs.flatMap fun pair => [pair.opening, pair.closing]) := by
  induction pairs with
  | nil => simp
  | cons pair rest ih => exact (ih.cons_cons pair.closing).cons pair.opening

/-- A pairing reports some of its markers, none of them twice. -/
theorem subperm_reported (pairing : Pairing) : pairing.reported.Subperm pairing.markers := by
  have hcrossing : (((crossings [] pairing.pairs).map Prod.fst).map Pair.opening).Sublist
      (pairing.pairs.flatMap fun pair => [pair.opening, pair.closing]) :=
    ((sublist_crossings [] pairing.pairs).map _).trans (sublist_opening_flatMap _)
  have hsublist := (List.Sublist.refl (pairing.unclosed ++ pairing.stray)).append hcrossing
  rw [List.append_assoc] at hsublist
  exact hsublist.subperm.trans List.perm_append_comm.subperm

theorem pairwise_issues (pairing : Pairing) : pairing.issues.Pairwise fun first second =>
    first.placed.span.start ≤ second.placed.span.start := by
  refine (List.pairwise_mergeSort ?_ ?_ _).imp fun h => of_decide_eq_true h
  · intro first second third hfirst hsecond
    simp only [decide_eq_true_eq] at hfirst hsecond ⊢
    omega
  · intro first second
    simp only [Bool.or_eq_true, decide_eq_true_eq]
    omega

/-- How many markers of a name are reported for one reason. -/
def countIssues (kind : IssueKind) (name : Text) (issues : List Issue) : ℕ :=
  issues.countP fun issue => issue.kind == kind && issue.placed.marker.name == name

theorem countIssues_unclosed (name : Text) (pairing : Pairing) :
    countIssues .unclosedSection name pairing.issues =
      pairing.unclosed.countP (·.marker.name == name) := by
  rw [countIssues, Pairing.issues, (List.mergeSort_perm _ _).countP_eq]
  simp [Function.comp_def]

theorem countIssues_stray (name : Text) (pairing : Pairing) :
    countIssues .strayClose name pairing.issues =
      pairing.stray.countP (·.marker.name == name) := by
  have hunclosed : (IssueKind.unclosedSection == .strayClose) = false := rfl
  have hoverlapping : ∀ outer, (IssueKind.overlappingSection outer == .strayClose) = false :=
    fun _ => rfl
  rw [countIssues, Pairing.issues, (List.mergeSort_perm _ _).countP_eq]
  simp [Function.comp_def, hunclosed, hoverlapping]

/-! ## All ways to pair the markers of a name -/

/-- The markers stand in the order of a text. -/
abbrev StartsAscend (markers : List PlacedMarker) : Prop :=
  markers.Pairwise fun earlier later => earlier.span.start < later.span.start

/-- Some opening markers of a name, each with a later closing marker of its own. -/
structure IsMatching (name : Text) (markers : List PlacedMarker) (matching : List Pair) : Prop where
  /-- The first markers are opening ones of the name. -/
  opening : ∀ pair ∈ matching, pair.opening ∈ markers ∧ isOpeningOf name pair.opening
  /-- The second markers are closing ones of the name. -/
  closing : ∀ pair ∈ matching, pair.closing ∈ markers ∧ isClosingOf name pair.closing
  /-- The second markers stand behind the first ones. -/
  later : ∀ pair ∈ matching, pair.opening.span.start < pair.closing.span.start
  /-- No opening marker is used twice. -/
  nodup_opening : (matching.map Pair.opening).Nodup
  /-- No closing marker is used twice. -/
  nodup_closing : (matching.map Pair.closing).Nodup

section Matching

variable {name : Text} {matching : List Pair} {markers before after : List PlacedMarker}

theorem length_le_countP {property : PlacedMarker → Bool} {some all : List PlacedMarker}
    (hnodup : some.Nodup) (h : ∀ placed ∈ some, placed ∈ all ∧ property placed) :
    some.length ≤ all.countP property := by
  rw [List.countP_eq_length_filter]
  refine (List.subperm_of_subset hnodup fun placed hplaced => ?_).length_le
  exact List.mem_filter.mpr (h placed hplaced)

/-- Wherever the markers are cut, a pair uses up an opening marker in front of the cut or a closing
one behind it. -/
theorem IsMatching.length_le (h : IsMatching name (before ++ after) matching)
    (hsorted : StartsAscend (before ++ after)) :
    matching.length ≤ before.countP (isOpeningOf name) + after.countP (isClosingOf name) := by
  let early := matching.filter (·.opening ∈ before)
  let late := matching.filter (·.opening ∉ before)
  have hlength : matching.length = early.length + late.length := by
    rw [List.length_eq_length_filter_add (l := matching) (·.opening ∈ before)]
    simp [early, late]
  have hearly : early.length ≤ before.countP (isOpeningOf name) := by
    rw [← List.length_map Pair.opening]
    refine length_le_countP (h.nodup_opening.sublist (List.filter_sublist.map _)) ?_
    intro placed hplaced
    obtain ⟨pair, hpair, rfl⟩ := List.mem_map.mp hplaced
    obtain ⟨hpair, hbefore⟩ := List.mem_filter.mp hpair
    exact ⟨of_decide_eq_true hbefore, (h.opening pair hpair).2⟩
  have hlate : late.length ≤ after.countP (isClosingOf name) := by
    rw [← List.length_map Pair.closing]
    refine length_le_countP (h.nodup_closing.sublist (List.filter_sublist.map _)) ?_
    intro placed hplaced
    obtain ⟨pair, hpair, rfl⟩ := List.mem_map.mp hplaced
    obtain ⟨hpair, hbehind⟩ := List.mem_filter.mp hpair
    have hopening := (List.mem_append.mp (h.opening pair hpair).1).resolve_left
      (of_decide_eq_true hbehind)
    refine ⟨(List.mem_append.mp (h.closing pair hpair).1).resolve_left fun hbefore => ?_,
      (h.closing pair hpair).2⟩
    have hearlier := (List.pairwise_append.mp hsorted).2.2 _ hbefore _ hopening
    have hlater := h.later pair hpair
    omega
  omega

/-- At some cut the pairing has a pair for every one of these markers. -/
theorem exists_cut (name : Text) (markers : List PlacedMarker) :
    ∃ before after, markers = before ++ after ∧ (pairUp markers).pairs.countP (Pair.isOf name) =
      before.countP (isOpeningOf name) + after.countP (isClosingOf name) := by
  induction markers using pairUp_induction with
  | nil => exact ⟨[], [], by simp⟩
  | paired opening before closing after hopening hclosing hbefore hpairUp ih =>
      obtain ⟨front, back, hcut, hcount⟩ := ih
      rw [hpairUp]
      rcases List.append_eq_append_iff.mp hcut with ⟨middle, rfl, rfl⟩ | ⟨middle, rfl, rfl⟩
      · -- the whole pair stands in front of the cut
        refine ⟨opening :: (before ++ closing :: middle), back, by simp, ?_⟩
        rw [List.countP_append] at hcount
        simp only [List.countP_cons, List.countP_append, isOpeningOf_of_isOpening hopening,
          isOpeningOf_of_isClosingOf hclosing, Pair.isOf_mk, Bool.false_eq_true, if_false]
        omega
      · by_cases hname : opening.marker.name = name
        · -- all closing markers stand behind the cut, and each of them is paired
          subst hname
          have hnone : (front ++ middle).countP (isClosingOf opening.marker.name) = 0 :=
            List.countP_eq_zero.mpr hbefore
          have hall := countP_isClosingOf opening.marker.name (front ++ middle ++ after)
          refine ⟨[], _, (List.nil_append _).symm, ?_⟩
          simp only [List.countP_append] at hall hnone hcount
          simp only [List.countP_cons, List.countP_append, isClosingOf_of_isOpening hopening,
            isClosingOf_of_isClosingOf hclosing, Pair.isOf_mk, beq_self_eq_true, if_true,
            Bool.false_eq_true, if_false, List.countP_nil]
          omega
        · refine ⟨opening :: front, middle ++ closing :: after, by simp, ?_⟩
          rw [List.countP_append] at hcount
          simp only [List.countP_cons, List.countP_append, isOpeningOf_of_isOpening hopening,
            isClosingOf_of_isClosingOf hclosing, Pair.isOf_mk, beq_eq_false_iff_ne.mpr hname,
            Bool.false_eq_true, if_false]
          omega
  | unclosed opening rest hopening hrest hpairUp ih =>
      rw [hpairUp]
      by_cases hname : opening.marker.name = name
      · refine ⟨[], opening :: rest, rfl, ?_⟩
        have hnone : rest.countP (isClosingOf name) = 0 :=
          List.countP_eq_zero.mpr (hname ▸ hrest)
        have hall := countP_isClosingOf name rest
        simp only [List.countP_cons, isClosingOf_of_isOpening hopening, List.countP_nil,
          Bool.false_eq_true, if_false]
        omega
      · obtain ⟨front, back, rfl, hcount⟩ := ih
        refine ⟨opening :: front, back, rfl, ?_⟩
        simp only [List.countP_cons, isOpeningOf_of_isOpening hopening,
          beq_eq_false_iff_ne.mpr hname, Bool.false_eq_true, if_false]
        exact hcount
  | stray closing rest hslash hpairUp ih =>
      obtain ⟨front, back, rfl, hcount⟩ := ih
      refine ⟨closing :: front, back, rfl, ?_⟩
      rw [hpairUp, List.countP_cons, isOpeningOf_of_slash hslash]
      exact hcount
  | plain value rest hplain hpairUp ih =>
      obtain ⟨front, back, rfl, hcount⟩ := ih
      refine ⟨value :: front, back, rfl, ?_⟩
      rw [hpairUp, List.countP_cons, isOpeningOf_of_plain hplain]
      exact hcount

theorem StartsAscend.nodup (hsorted : StartsAscend markers) : markers.Nodup :=
  hsorted.imp fun hlt heq => absurd (congrArg (·.span.start) heq) hlt.ne

theorem nodup_markers_pairUp (h : markers.Nodup) : (pairUp markers).markers.Nodup :=
  (perm_markers_pairUp markers).nodup_iff.mpr (h.filter _)

/-- The pairs of a name are a matching. -/
theorem isMatching_pairUp (name : Text) (hsorted : StartsAscend markers) :
    IsMatching name markers ((pairUp markers).pairs.filter (Pair.isOf name)) := by
  have hmarkers : markers.Nodup := hsorted.nodup
  have hpairs := (nodup_markers_pairUp hmarkers).sublist (List.sublist_append_left _ _)
  have hname : ∀ pair ∈ (pairUp markers).pairs.filter (Pair.isOf name),
      pair ∈ (pairUp markers).pairs ∧ pair.opening.marker.name = name := by
    intro pair hpair
    exact (List.mem_filter.mp hpair).imp_right beq_iff_eq.mp
  refine ⟨fun pair hpair => ?_, fun pair hpair => ?_, fun pair hpair => ?_, ?_, ?_⟩
  · obtain ⟨hmem, hpair⟩ := hname pair hpair
    have hopening := (rel_of_mem_pairs hsorted hmem).1
    exact ⟨(mem_of_mem_pairUp hmem).1, by simp [isOpeningOf, hopening, hpair]⟩
  · obtain ⟨hmem, hpair⟩ := hname pair hpair
    have hclosing := (rel_of_mem_pairs hsorted hmem).2.1
    exact ⟨(mem_of_mem_pairUp hmem).2, hpair ▸ hclosing⟩
  · exact (rel_of_mem_pairs hsorted (hname pair hpair).1).2.2
  · exact hpairs.sublist ((List.filter_sublist.map _).trans (sublist_opening_flatMap _))
  · exact hpairs.sublist ((List.filter_sublist.map _).trans (sublist_closing_flatMap _))

/-- **The pairing leaves as few opening markers as any.** -/
theorem isLeast_unclosed (name : Text) (hsorted : StartsAscend markers) :
    IsLeast {single | ∃ matching, IsMatching name markers matching ∧
        single + matching.length = markers.countP (isOpeningOf name)}
      ((pairUp markers).unclosed.countP (·.marker.name == name)) := by
  have hopening := countP_isOpeningOf name markers
  constructor
  · refine ⟨_, isMatching_pairUp name hsorted, ?_⟩
    rw [← List.countP_eq_length_filter]
    omega
  · rintro single ⟨matching, hmatching, hsingle⟩
    obtain ⟨before, after, hcut, hcount⟩ := exists_cut name markers
    rw [hcut] at hmatching hsorted
    have hlength := hmatching.length_le hsorted
    omega

end Matching

/-! ## The analysis of a text -/

/-- An analysis accounts for the markers of a text. -/
structure Analysis.AccountsFor (analysis : Analysis) (markers : List PlacedMarker) : Prop where
  /-- The value markers are listed in their order. -/
  values : analysis.values = markers.filter (·.marker.sigil == .plain)
  /-- So are the `#` markers. -/
  sections : analysis.sections = markers.filter (·.marker.sigil == .hash)
  /-- So are the `^` markers. -/
  inverted : analysis.inverted = markers.filter (·.marker.sigil == .caret)
  /-- With the closing markers these are all markers, each once. -/
  perm : (analysis.values ++ (analysis.sections ++ (analysis.inverted ++
    markers.filter (·.marker.sigil == .slash)))).Perm markers
  /-- Every report is about a marker of the text. -/
  placed_mem : ∀ issue ∈ analysis.issues, issue.placed ∈ markers
  /-- No marker is reported twice. -/
  nodup_placed : (analysis.issues.map Issue.placed).Nodup
  /-- The reports stand in the order of their markers. -/
  pairwise_start : analysis.issues.Pairwise fun first second =>
    first.placed.span.start < second.placed.span.start
  /-- Of each name as many opening markers as closing ones are not reported as single. -/
  paired : ∀ name,
    countIssues .unclosedSection name analysis.issues ≤ markers.countP (isOpeningOf name) ∧
    countIssues .strayClose name analysis.issues ≤ markers.countP (isClosingOf name) ∧
    markers.countP (isOpeningOf name) - countIssues .unclosedSection name analysis.issues =
      markers.countP (isClosingOf name) - countIssues .strayClose name analysis.issues
  /-- No way to pair the markers of a name leaves fewer opening ones single. -/
  isLeast : ∀ name, IsLeast {single | ∃ matching, IsMatching name markers matching ∧
      single + matching.length = markers.countP (isOpeningOf name)}
    (countIssues .unclosedSection name analysis.issues)

/-- The markers by what they ask for. -/
theorem perm_filter_sigil (markers : List PlacedMarker) :
    (markers.filter (·.marker.sigil == .plain) ++ (markers.filter (·.marker.sigil == .hash) ++
      (markers.filter (·.marker.sigil == .caret) ++
        markers.filter (·.marker.sigil == .slash)))).Perm markers := by
  induction markers with
  | nil => simp
  | cons head rest ih =>
      have hcons := ih.cons head
      cases hsigil : head.marker.sigil with
      | plain => simpa [hsigil] using ih
      | hash =>
          simp only [List.filter_cons, hsigil]
          exact List.perm_middle.trans hcons
      | caret =>
          simp only [List.filter_cons, hsigil]
          rw [← List.append_assoc] at hcons ⊢
          exact List.perm_middle.trans hcons
      | slash =>
          simp only [List.filter_cons, hsigil]
          rw [← List.append_assoc, ← List.append_assoc] at hcons ⊢
          exact List.perm_middle.trans hcons

/-- **The analysis accounts for every marker**, and reports no more than it has to. -/
theorem accountsFor_analyze (source : Text) :
    (analyze source).AccountsFor (Marker.markersFrom source 0) := by
  rw [← placedMarkers_eq_markersFrom]
  have hsorted : StartsAscend (placedMarkers source) := by
    refine (pairwise_placedMarkers source).imp_of_mem fun hearlier _ hstop => ?_
    have hlt := (mem_placedMarkers_iff.mp hearlier).start_lt_stop
    omega
  have hsubperm : ((analyze source).issues.map Issue.placed).Subperm (placedMarkers source) :=
    (perm_placed_issues _).subperm.trans ((subperm_reported _).trans
      ((perm_markers_pairUp _).subperm.trans List.filter_sublist.subperm))
  have hmem : ∀ issue ∈ (analyze source).issues, issue.placed ∈ placedMarkers source :=
    fun issue hissue => hsubperm.subset (List.mem_map_of_mem hissue)
  have hstarts : ((analyze source).issues.map (·.placed.span.start)).Nodup := by
    obtain ⟨reported, hperm, hsublist⟩ := hsubperm
    have hreported : (reported.map (·.span.start)).Nodup :=
      List.pairwise_map.mpr ((hsorted.sublist hsublist).imp ne_of_lt)
    simpa [Function.comp_def] using (hperm.map (·.span.start)).nodup_iff.mp hreported
  have hnodup : ((analyze source).issues.map Issue.placed).Nodup :=
    List.Nodup.of_map (·.span.start) (by simpa [Function.comp_def] using hstarts)
  refine ⟨rfl, rfl, rfl, perm_filter_sigil _, hmem, hnodup, ?_, fun name => ?_, fun name => ?_⟩
  · exact ((pairwise_issues _).and (List.pairwise_map.mp hstarts)).imp fun h =>
      lt_of_le_of_ne h.1 h.2
  · have hopening := countP_isOpeningOf name (placedMarkers source)
    have hclosing := countP_isClosingOf name (placedMarkers source)
    rw [← countIssues_unclosed] at hopening
    rw [← countIssues_stray] at hclosing
    simp only [analyze]
    omega
  · exact countIssues_unclosed name (pairUp (placedMarkers source)) ▸ isLeast_unclosed name hsorted

end Invoicing.Template
