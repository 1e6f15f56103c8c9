import Invoicing.Proofs.Marker.Blocks
import Invoicing.Proofs.Template.Pairing

/-!
# Which blocks are reported as unclosed

The analysis tells an author which opening markers find no closing marker.  The sweep over the
`#` blocks finds its blocks otherwise: it looks for the first closing marker behind an opening
marker, whether another one could have it or not, and it goes on behind the whole block
(`Block.blocksFrom`; these are the blocks that are replaced, by `Block.replaceBlocks_congr`).

The two disagree (`Template.not_blocksFrom_unreported`).  In the analysis an opening marker of
either sign, and also one inside a block that the sweep skips, takes a closing marker away from
the later ones of its name.  How far they disagree is settled exactly
(`Template.reportsUnclosed_iff_of_mem_blocksFrom`): a block of the sweep is reported when at least
as many opening markers of its name are waiting in front of it as closing markers follow.

## Strategy

The opening markers of one name are served in their order, and so are its closing markers.  So
only the number of those that wait counts, and it can be followed from marker to marker
(`waiting`).  The pairing instead takes out the closing marker of the first opening one, wherever
it is.  The induction is on the pairing, and the invariant is that taking out the first closing
marker is as good as one fewer waiting (`waiting_of_takeClosing?_eq_some`).
-/

namespace Invoicing

namespace Template

/-! ## Waiting for a closing marker -/

/-- How many opening markers of a name are waiting after one more marker. -/
def waitingAfter (name : Text) (count : ℕ) (placed : PlacedMarker) : ℕ :=
  if isOpening placed && placed.marker.name == name then count + 1
  else if isClosingOf name placed then count - 1
  else count

/-- How many opening markers of a name wait for a closing one at the end of a stretch of markers,
when so many do at its beginning. -/
def waiting (name : Text) (count : ℕ) (markers : List PlacedMarker) : ℕ :=
  markers.foldl (waitingAfter name) count

section Waiting

variable {name other : Text} {count : ℕ} {head opening closing : PlacedMarker}
variable {markers others rest before after : List PlacedMarker}

theorem waiting_cons (name : Text) (count : ℕ) (head : PlacedMarker) (rest : List PlacedMarker) :
    waiting name count (head :: rest) = waiting name (waitingAfter name count head) rest := rfl

theorem waitingAfter_of_isOpening (hopening : isOpening head) (hname : head.marker.name = name) :
    waitingAfter name count head = count + 1 := by
  simp [waitingAfter, hopening, hname]

theorem waitingAfter_of_isClosingOf (hclosing : isClosingOf name head) :
    waitingAfter name count head = count - 1 := by
  simp [waitingAfter, not_isOpening_of_isClosingOf hclosing, hclosing]

/-- The markers of other names change nothing. -/
theorem waitingAfter_of_name_ne (hname : head.marker.name ≠ name) :
    waitingAfter name count head = count := by
  simp [waitingAfter, isClosingOf, hname]

/-- Nothing waits before the first opening marker. -/
theorem waitingAfter_zero_of_not_isOpening (hopening : ¬ isOpening head) :
    waitingAfter name 0 head = 0 := by
  simp [waitingAfter, hopening]

theorem waitingAfter_succ (hclosing : ¬ isClosingOf name head) :
    waitingAfter name (count + 1) head = waitingAfter name count head + 1 := by
  unfold waitingAfter
  rw [if_neg hclosing, if_neg hclosing]
  split <;> rfl

theorem waiting_append (name : Text) (count : ℕ) (first second : List PlacedMarker) :
    waiting name count (first ++ second) = waiting name (waiting name count first) second :=
  List.foldl_append

/-- Without a closing marker of the name all keep waiting. -/
theorem waiting_succ (h : ∀ placed ∈ markers, ¬ isClosingOf name placed) :
    waiting name (count + 1) markers = waiting name count markers + 1 := by
  induction markers generalizing count with
  | nil => rfl
  | cons head rest ih =>
      obtain ⟨hhead, hrest⟩ := List.forall_mem_cons.mp h
      rw [waiting_cons, waiting_cons, waitingAfter_succ hhead, ih hrest]

/-- The first closing marker of the name serves one of those that wait. -/
theorem waiting_of_takeClosing?_eq_some (h : takeClosing? name markers = some (closing, others)) :
    waiting name (count + 1) markers = waiting name count others := by
  obtain ⟨hclosing, before, after, rfl, rfl, hbefore⟩ := eq_of_takeClosing? h
  rw [waiting_append, waiting_append, waiting_cons, waiting_succ hbefore,
    waitingAfter_of_isClosingOf hclosing, Nat.add_sub_cancel]

/-- A closing marker of another name is not missed, neither by those that wait … -/
theorem waiting_of_takeClosing?_of_ne (hother : other ≠ name)
    (h : takeClosing? other markers = some (closing, others)) :
    waiting name count markers = waiting name count others := by
  obtain ⟨hclosing, before, after, rfl, rfl, -⟩ := eq_of_takeClosing? h
  have hname : closing.marker.name ≠ name := (name_eq_of_isClosingOf hclosing).trans_ne hother
  rw [waiting_append, waiting_append, waiting_cons, waitingAfter_of_name_ne hname]

/-- … nor among the closing markers of the name. -/
theorem countP_of_takeClosing?_of_ne (hother : other ≠ name)
    (h : takeClosing? other markers = some (closing, others)) :
    markers.countP (isClosingOf name) = others.countP (isClosingOf name) := by
  obtain ⟨hclosing, before, after, rfl, rfl, -⟩ := eq_of_takeClosing? h
  have hneg : ¬ isClosingOf name closing := by
    intro hpos
    exact hother ((name_eq_of_isClosingOf hclosing).symm.trans (name_eq_of_isClosingOf hpos))
  rw [List.countP_append, List.countP_append, List.countP_cons_of_neg hneg]

theorem countP_of_takeClosing? (h : takeClosing? name markers = some (closing, others)) :
    markers.countP (isClosingOf name) = others.countP (isClosingOf name) + 1 := by
  obtain ⟨hclosing, before, after, rfl, rfl, -⟩ := eq_of_takeClosing? h
  rw [List.countP_append, List.countP_append, List.countP_cons_of_pos hclosing, Nat.add_assoc]

end Waiting

/-! ## The opening markers that stay -/

section Unclosed

variable {name : Text} {count : ℕ} {head opening closing : PlacedMarker}
variable {markers others rest before after : List PlacedMarker}

theorem unclosed_pairUp_of_not_isOpening (hhead : ¬ isOpening head) :
    (pairUp (head :: rest)).unclosed = (pairUp rest).unclosed := by
  rw [pairUp_of_not_isOpening hhead]
  split <;> rfl

/-- The first opening marker stays when no closing one follows. -/
theorem mem_unclosed_pairUp_cons_iff (hopening : isOpening opening) (hnew : opening ∉ after) :
    opening ∈ (pairUp (opening :: after)).unclosed ↔
      after.countP (isClosingOf opening.marker.name) = 0 := by
  cases htake : takeClosing? opening.marker.name after with
  | none =>
      rw [pairUp_of_takeClosing?_eq_none hopening htake, List.countP_eq_zero]
      rw [takeClosing?_eq_none_iff] at htake
      simp only [List.mem_cons_self, true_iff]
      exact htake
  | some taken =>
      obtain ⟨closing, others⟩ := taken
      have hcount := countP_of_takeClosing? htake
      have hgone : opening ∉ (pairUp others).unclosed := fun hmem =>
        hnew (subset_of_takeClosing? htake (mem_of_mem_unclosed hmem))
      rw [pairUp_of_takeClosing?_eq_some hopening htake]
      simp only [hgone, false_iff]
      omega

/-- An opening marker that is served before the end of the stretch need not be counted. -/
theorem waiting_waitingAfter_of_takeClosing?_eq_some (hhead : isOpening head)
    (h : takeClosing? head.marker.name markers = some (closing, others)) :
    waiting name (waitingAfter name count head) markers = waiting name count others := by
  by_cases hname : head.marker.name = name
  · rw [waitingAfter_of_isOpening hhead hname]
    exact waiting_of_takeClosing?_eq_some (hname ▸ h)
  · rw [waitingAfter_of_name_ne hname]
    exact waiting_of_takeClosing?_of_ne hname h

/-- An opening marker that is not served in the first stretch takes a closing marker away from the
second one, or there is none to take. -/
theorem countP_le_waiting_waitingAfter_iff (hhead : isOpening head)
    (hbefore : takeClosing? head.marker.name before = none) :
    after.countP (isClosingOf name) ≤ waiting name (waitingAfter name count head) before ↔
      (match takeClosing? head.marker.name after with
        | some (_, others) => others
        | none => after).countP (isClosingOf name) ≤ waiting name count before := by
  by_cases hname : head.marker.name = name
  · subst hname
    rw [waitingAfter_of_isOpening hhead rfl,
      waiting_succ (takeClosing?_eq_none_iff.mp hbefore)]
    cases hafter : takeClosing? head.marker.name after with
    | some taken =>
        have hcount := countP_of_takeClosing? hafter
        simp only
        omega
    | none =>
        have hcount : after.countP (isClosingOf head.marker.name) = 0 :=
          List.countP_eq_zero.mpr (takeClosing?_eq_none_iff.mp hafter)
        simp only
        omega
  · rw [waitingAfter_of_name_ne hname]
    cases hafter : takeClosing? head.marker.name after with
    | some taken => rw [countP_of_takeClosing?_of_ne hname hafter]
    | none => rfl

/-- **An opening marker stays without a closing one when at least as many are waiting before it as
closing markers follow.** -/
theorem mem_unclosed_pairUp_iff {before after : List PlacedMarker} (hopening : isOpening opening)
    (hnodup : (before ++ opening :: after).Nodup) :
    opening ∈ (pairUp (before ++ opening :: after)).unclosed ↔
      after.countP (isClosingOf opening.marker.name) ≤ waiting opening.marker.name 0 before := by
  have hself : ∀ {name}, ¬ isClosingOf name opening := fun hclosing =>
    not_isOpening_of_isClosingOf hclosing hopening
  match before with
  | [] =>
      rw [List.nil_append, mem_unclosed_pairUp_cons_iff hopening (List.nodup_cons.mp hnodup).1]
      exact Nat.le_zero.symm
  | head :: before =>
      obtain ⟨hnew, hrest⟩ := List.nodup_cons.mp hnodup
      rw [List.cons_append, waiting_cons]
      by_cases hhead : isOpening head
      · cases hbefore : takeClosing? head.marker.name before with
        | some taken =>
            obtain ⟨closing, kept⟩ := taken
            have hwhole : takeClosing? head.marker.name (before ++ opening :: after) =
                some (closing, kept ++ opening :: after) := by
              rw [takeClosing?_append, hbefore]
            have hlength := length_of_takeClosing? hbefore
            rw [pairUp_of_takeClosing?_eq_some hhead hwhole,
              waiting_waitingAfter_of_takeClosing?_eq_some hhead hbefore]
            exact mem_unclosed_pairUp_iff hopening
              (hrest.sublist (sublist_of_takeClosing? hwhole))
        | none =>
            rw [countP_le_waiting_waitingAfter_iff hhead hbefore]
            cases hafter : takeClosing? head.marker.name after with
            | some taken =>
                obtain ⟨closing, kept⟩ := taken
                have hwhole : takeClosing? head.marker.name (before ++ opening :: after) =
                    some (closing, before ++ opening :: kept) := by
                  rw [takeClosing?_append, hbefore]
                  simp [takeClosing?, hself, hafter]
                rw [pairUp_of_takeClosing?_eq_some hhead hwhole]
                exact mem_unclosed_pairUp_iff hopening
                  (hrest.sublist (sublist_of_takeClosing? hwhole))
            | none =>
                have hwhole : takeClosing? head.marker.name (before ++ opening :: after) =
                    none := by
                  rw [takeClosing?_append, hbefore]
                  simp [takeClosing?, hself, hafter]
                have hne : opening ≠ head := by
                  rintro rfl
                  exact hnew (by simp)
                rw [pairUp_of_takeClosing?_eq_none hhead hwhole, List.mem_cons, or_iff_right hne]
                exact mem_unclosed_pairUp_iff hopening hrest
      · rw [unclosed_pairUp_of_not_isOpening hhead, waitingAfter_zero_of_not_isOpening hhead]
        exact mem_unclosed_pairUp_iff hopening hrest
termination_by before.length

end Unclosed

end Template

/-! ## The blocks of a sweep -/

namespace Block

/-- The blocks of a sweep: they are found by searching again from the end of the last one. -/
def blocksFrom (sigil : Sigil) (source : Text) (offset : ℕ) : List (Block × Span) :=
  match _hfirst : firstFrom? source offset sigil with
  | none => []
  | some (block, span) => (block, span) :: blocksFrom sigil source span.stop
termination_by Text.utf8Size source - offset
decreasing_by
  have hspan := start_lt_stop_of_firstFrom? _hfirst
  omega

theorem blocksFrom_of_firstFrom?_eq_none {sigil : Sigil} {source : Text} {offset : ℕ}
    (h : firstFrom? source offset sigil = none) : blocksFrom sigil source offset = [] := by
  rw [blocksFrom]
  split <;> simp_all

theorem blocksFrom_of_firstFrom?_eq_some {sigil : Sigil} {source : Text} {offset : ℕ}
    {block : Block} {span : Span} (h : firstFrom? source offset sigil = some (block, span)) :
    blocksFrom sigil source offset = (block, span) :: blocksFrom sigil source span.stop := by
  rw [blocksFrom]
  split <;> simp_all

theorem exists_firstFrom?_of_mem_blocksFrom {sigil : Sigil} {source : Text} {offset : ℕ}
    {placed : Block × Span} (h : placed ∈ blocksFrom sigil source offset) :
    ∃ start, firstFrom? source start sigil = some placed := by
  fun_induction blocksFrom sigil source offset with
  | case1 offset hnone => simp at h
  | case2 offset block span hfirst ih =>
      rcases List.mem_cons.mp h with rfl | h
      · exact ⟨offset, hfirst⟩
      · exact ih h

/-- A sweep replaces these blocks and no others. -/
theorem replaceBlocks_congr {sigil : Sigil} {first second : Block → Text} (lead rest : Text)
    (h : ∀ placed ∈ blocksFrom sigil (lead ++ rest) (Text.utf8Size lead),
      first placed.1 = second placed.1) :
    replaceBlocks sigil first rest = replaceBlocks sigil second rest := by
  fun_induction replaceBlocks sigil first rest generalizing lead with
  | case1 rest hnone => rw [replaceBlocks_of_first?_eq_none hnone]
  | case2 rest found hfirst ih =>
      have hplaced := firstFrom?_append sigil lead rest
      rw [hfirst, Option.map_some] at hplaced
      rw [blocksFrom_of_firstFrom?_eq_some hplaced] at h
      obtain ⟨hblock, hafter⟩ := List.forall_mem_cons.mp h
      have hsource : lead ++ rest =
          (lead ++ (found.before ++ found.block.text sigil)) ++ found.after := by
        rw [(eq_of_first? hfirst).1]
        simp
      rw [hsource] at hafter
      rw [replaceBlocks_of_first?_eq_some hfirst, ih _ hafter, ← hblock]

end Block

namespace Template

/-! ## Which blocks are reported -/

/-- The analysis reports the opening marker at a position as unclosed. -/
def ReportsUnclosed (source : Text) (start : ℕ) : Prop :=
  ∃ issue ∈ (analyze source).issues, issue.kind = .unclosedSection ∧
    issue.placed.span.start = start

section Reports

variable {source : Text} {start : ℕ}

theorem mem_issues_iff_of_unclosed {pairing : Pairing} {placed : PlacedMarker} :
    ⟨.unclosedSection, placed⟩ ∈ pairing.issues ↔ placed ∈ pairing.unclosed := by
  simp [Pairing.issues]

theorem reportsUnclosed_iff : ReportsUnclosed source start ↔
    ∃ placed ∈ (pairUp (placedMarkers source)).unclosed, placed.span.start = start := by
  constructor
  · rintro ⟨⟨kind, placed⟩, hissue, rfl, hstart⟩
    exact ⟨placed, mem_issues_iff_of_unclosed.mp hissue, hstart⟩
  · rintro ⟨placed, hplaced, hstart⟩
    exact ⟨⟨_, placed⟩, mem_issues_iff_of_unclosed.mpr hplaced, rfl, hstart⟩

/-- A marker is reported exactly when the pairing leaves it. -/
theorem reportsUnclosed_iff_mem {opening : PlacedMarker} (hopening : opening ∈ placedMarkers source) :
    ReportsUnclosed source opening.span.start ↔
      opening ∈ (pairUp (placedMarkers source)).unclosed := by
  rw [reportsUnclosed_iff]
  constructor
  · rintro ⟨placed, hplaced, hstart⟩
    have hstands := mem_placedMarkers_iff.mp (mem_of_mem_unclosed hplaced)
    have hlt := hstands.start_lt_stop
    rcases hstands.eq_or_stop_le (mem_placedMarkers_iff.mp hopening) hstart.le with rfl | hstop
    · exact hplaced
    · omega
  · intro hmem
    exact ⟨opening, hmem, rfl⟩

end Reports

/-- **A block of the sweep is reported as unclosed when at least as many markers of its name are
waiting before it as closing markers follow.**  At least one follows. -/
theorem reportsUnclosed_iff_of_mem_blocksFrom {source : Text} {block : Block} {span : Span}
    (h : (block, span) ∈ Block.blocksFrom .hash source 0) :
    ∃ before opening after, placedMarkers source = before ++ opening :: after ∧
      opening.marker = ⟨.hash, block.name⟩ ∧ opening.span.start = span.start ∧
      0 < after.countP (isClosingOf block.name) ∧
      (ReportsUnclosed source span.start ↔
        after.countP (isClosingOf block.name) ≤ waiting block.name 0 before) := by
  obtain ⟨offset, hfirst⟩ := Block.exists_firstFrom?_of_mem_blocksFrom h
  obtain ⟨opening, closing, hopening, hclosing, hmarker, hslash, hstart, hbetween, -, -⟩ :=
    Block.exists_markers_of_firstFrom? hfirst
  have hmemOpening := mem_placedMarkers_iff.mpr hopening
  have hmemClosing := mem_placedMarkers_iff.mpr hclosing
  obtain ⟨before, after, hmarkers⟩ := List.append_of_mem hmemOpening
  have hlt := hopening.start_lt_stop
  have hlate := hclosing.start_lt_stop
  have hafter : closing ∈ after := by
    have hpairwise := pairwise_placedMarkers source
    rw [hmarkers] at hmemClosing hpairwise
    rcases List.mem_append.mp hmemClosing with hearly | hrest
    · have hstop := (List.pairwise_append.mp hpairwise).2.2 closing hearly opening (by simp)
      omega
    · rcases List.mem_cons.mp hrest with rfl | hafter
      · omega
      · exact hafter
  have hname : opening.marker.name = block.name := by rw [hmarker]
  have hopens : isOpening opening := by simp [isOpening, hmarker]
  have hnodup := nodup_placedMarkers source
  rw [hmarkers] at hnodup
  refine ⟨before, opening, after, hmarkers, hmarker, hstart, ?_, ?_⟩
  · exact List.countP_pos_iff.mpr ⟨closing, hafter, by simp [isClosingOf, hslash]⟩
  · rw [← hstart, reportsUnclosed_iff_mem hmemOpening, hmarkers, ← hname]
    exact mem_unclosed_pairUp_iff hopens hnodup

/-! ### A closing marker that two blocks could have -/

/-- A `^` marker without a closing one, in front of a `#` block of the same name. -/
def contested : Text := (Marker.mk .caret ['A']).text ++ Block.text .hash ⟨['A'], ['x']⟩

/-- The `#` block. -/
def contestedBlock : Block × Span := (⟨['A'], ['x']⟩, ⟨6, 19⟩)

/-- Its opening marker. -/
def contestedOpening : PlacedMarker := ⟨⟨.hash, ['A']⟩, ⟨6, 12⟩⟩

theorem contestedBlock_mem : contestedBlock ∈ Block.blocksFrom .hash contested 0 := by
  have hname : Marker.IsName ['A'] := by decide
  have hblock := @Block.first?_block_append .hash ⟨['A'], ['x']⟩ hname (by decide) []
  rw [List.append_nil] at hblock
  have hfirst : Block.first? .hash contested =
      some ⟨(Marker.mk .caret ['A']).text, ⟨['A'], ['x']⟩, []⟩ := by
    rw [contested, Block.first?_text_append_of_bodyAfter? hname
      (Block.bodyAfter?_eq_none (by decide)), hblock]
    rfl
  have hplaced : Block.firstFrom? contested 0 .hash = some contestedBlock := by
    rw [Block.firstFrom?, Text.dropBytes?_zero, Option.bind_eq_bind, Option.bind_some, hfirst]
    decide
  rw [Block.blocksFrom_of_firstFrom?_eq_some hplaced]
  exact List.mem_cons_self ..

theorem placedMarkers_contested : placedMarkers contested =
    [⟨⟨.caret, ['A']⟩, ⟨0, 6⟩⟩] ++ contestedOpening :: [⟨⟨.slash, ['A']⟩, ⟨13, 19⟩⟩] := by
  have htokens : tokens contested = [.literal [], .mark ⟨.caret, ['A']⟩, .literal [],
      .mark ⟨.hash, ['A']⟩, .literal ['x'], .mark ⟨.slash, ['A']⟩, .literal []] := by
    show tokens ([] ++ ((Marker.mk .caret ['A']).text ++ ([] ++ ((Marker.mk .hash ['A']).text ++
      (['x'] ++ ((Marker.mk .slash ['A']).text ++ [])))))) = _
    iterate 3 rw [tokens_literal_append (by decide) (by decide)]
    rw [tokens_nil]
  rw [placedMarkers, htokens]
  decide

theorem not_blocksFrom_unreported :
    ¬ ∀ (source : Text) (block : Block) (span : Span),
      (block, span) ∈ Block.blocksFrom .hash source 0 → ¬ ReportsUnclosed source span.start := by
  intro hclaim
  have hmem : contestedOpening ∈ (pairUp (placedMarkers contested)).unclosed := by
    rw [placedMarkers_contested, mem_unclosed_pairUp_iff (by decide) (by decide)]
    decide
  exact hclaim contested _ _ contestedBlock_mem (reportsUnclosed_iff.mpr ⟨_, hmem, rfl⟩)

theorem reportsUnclosed_contested : contestedBlock ∈ Block.blocksFrom .hash contested 0 ∧
    ∃ before opening after, placedMarkers contested = before ++ opening :: after ∧
      opening.marker = ⟨.hash, ['A']⟩ ∧ opening.span.start = 6 ∧
      0 < after.countP (isClosingOf ['A']) ∧
      (ReportsUnclosed contested 6 ↔
        after.countP (isClosingOf ['A']) ≤ waiting ['A'] 0 before) :=
  ⟨contestedBlock_mem, reportsUnclosed_iff_of_mem_blocksFrom contestedBlock_mem⟩

end Template

end Invoicing
