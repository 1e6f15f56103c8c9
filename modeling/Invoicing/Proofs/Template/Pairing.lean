import Invoicing.Template.Pairing
import Mathlib.Data.List.Basic

/-!
# Pairing the markers of two stretches

The analysis pairs the markers of a whole text from left to right, and a pair may take
its two markers from anywhere.  When no pair reaches from one stretch of the markers into
the next, the pairing of the whole is the pairings of the two stretches side by side
(`pairUp_append`).  That is how a template is taken apart: in a clean one no pair reaches
out of the body of a block (`Pairing.IsClean`).  So a block with what follows it is clean
exactly when its body and what follows are clean by themselves (`Pair.Encloses.isClean_iff`).
-/

namespace Invoicing.Template

/-! ## Taking a closing marker -/

section TakeClosing

variable {name : Text} {closing : PlacedMarker} {first second markers others : List PlacedMarker}

theorem eq_of_isClosingOf {placed : PlacedMarker} (h : isClosingOf name placed) :
    placed.marker = ⟨.slash, name⟩ := by
  obtain ⟨⟨sigil, other⟩, span⟩ := placed
  simpa [isClosingOf] using h

theorem sigil_eq_of_isClosingOf {placed : PlacedMarker} (h : isClosingOf name placed) :
    placed.marker.sigil = .slash := by
  rw [eq_of_isClosingOf h]

theorem name_eq_of_isClosingOf {placed : PlacedMarker} (h : isClosingOf name placed) :
    placed.marker.name = name := by
  rw [eq_of_isClosingOf h]

theorem not_isOpening_of_isClosingOf {placed : PlacedMarker} (h : isClosingOf name placed) :
    ¬ isOpening placed := by
  simp [isOpening, sigil_eq_of_isClosingOf h]

theorem takeClosing?_append (name : Text) (first second : List PlacedMarker) :
    takeClosing? name (first ++ second) =
      match takeClosing? name first with
      | some (closing, others) => some (closing, others ++ second)
      | none =>
          (takeClosing? name second).map fun (closing, others) => (closing, first ++ others) := by
  induction first with
  | nil => cases hsecond : takeClosing? name second <;> simp [takeClosing?, hsecond]
  | cons head rest ih =>
      by_cases hhead : isClosingOf name head
      · simp [takeClosing?, hhead]
      · simp only [List.cons_append, takeClosing?, hhead, ih, if_false, Bool.false_eq_true]
        cases takeClosing? name rest with
        | none => simp [Function.comp_def]
        | some taken => rfl

theorem takeClosing?_eq_none_iff :
    takeClosing? name markers = none ↔ ∀ placed ∈ markers, ¬ isClosingOf name placed := by
  induction markers with
  | nil => simp [takeClosing?]
  | cons head rest ih =>
      by_cases hhead : isClosingOf name head
      · simp [takeClosing?, hhead]
      · simp [takeClosing?, hhead, ih]

/-- The first closing marker of a name is taken. -/
theorem takeClosing?_append_cons (hfirst : ∀ placed ∈ first, ¬ isClosingOf name placed)
    (hclosing : isClosingOf name closing) :
    takeClosing? name (first ++ closing :: second) = some (closing, first ++ second) := by
  rw [takeClosing?_append, takeClosing?_eq_none_iff.mpr hfirst]
  simp [takeClosing?, hclosing]

/-- The marker that is taken is the first closing one of its name. -/
theorem eq_of_takeClosing? (h : takeClosing? name markers = some (closing, others)) :
    isClosingOf name closing ∧ ∃ before after, markers = before ++ closing :: after ∧
      others = before ++ after ∧ ∀ placed ∈ before, ¬ isClosingOf name placed := by
  induction markers generalizing others with
  | nil => simp [takeClosing?] at h
  | cons head rest ih =>
      by_cases hhead : isClosingOf name head
      · obtain ⟨rfl, rfl⟩ : head = closing ∧ rest = others := by simpa [takeClosing?, hhead] using h
        exact ⟨hhead, [], rest, rfl, rfl, by simp⟩
      · simp only [takeClosing?, hhead, if_false, Bool.false_eq_true, Option.map_eq_some_iff,
          Prod.mk.injEq] at h
        obtain ⟨⟨taken, later⟩, htake, rfl, rfl⟩ := h
        obtain ⟨hclosing, before, after, rfl, rfl, hbefore⟩ := ih htake
        exact ⟨hclosing, head :: before, after, rfl, rfl, List.forall_mem_cons.mpr ⟨hhead, hbefore⟩⟩

theorem mem_of_takeClosing? (h : takeClosing? name markers = some (closing, others)) :
    closing ∈ markers := by
  obtain ⟨-, before, after, rfl, -, -⟩ := eq_of_takeClosing? h
  exact List.mem_append_right _ (List.mem_cons_self ..)

theorem sublist_of_takeClosing? (h : takeClosing? name markers = some (closing, others)) :
    others.Sublist markers := by
  obtain ⟨-, before, after, rfl, rfl, -⟩ := eq_of_takeClosing? h
  exact (List.sublist_cons_self closing after).append_left before

theorem subset_of_takeClosing? (h : takeClosing? name markers = some (closing, others)) :
    others ⊆ markers :=
  (sublist_of_takeClosing? h).subset

end TakeClosing

/-! ## One marker at a time -/

section PairUp

variable {head closing : PlacedMarker} {rest others : List PlacedMarker}

@[simp] theorem pairUp_nil : pairUp [] = ⟨[], [], []⟩ := by
  rw [pairUp]

theorem pairUp_of_takeClosing?_eq_some (hopening : isOpening head)
    (h : takeClosing? head.marker.name rest = some (closing, others)) :
    pairUp (head :: rest) =
      { pairUp others with pairs := ⟨head, closing⟩ :: (pairUp others).pairs } := by
  rw [pairUp, if_pos hopening]
  split <;> simp_all

theorem pairUp_of_takeClosing?_eq_none (hopening : isOpening head)
    (h : takeClosing? head.marker.name rest = none) :
    pairUp (head :: rest) = { pairUp rest with unclosed := head :: (pairUp rest).unclosed } := by
  rw [pairUp, if_pos hopening]
  split <;> simp_all

theorem pairUp_of_not_isOpening (hopening : ¬ isOpening head) :
    pairUp (head :: rest) =
      if head.marker.sigil == .slash then
        { pairUp rest with stray := head :: (pairUp rest).stray }
      else pairUp rest := by
  rw [pairUp, if_neg hopening]

theorem pairs_pairUp_of_not_isOpening (hopening : ¬ isOpening head) :
    (pairUp (head :: rest)).pairs = (pairUp rest).pairs := by
  rw [pairUp_of_not_isOpening hopening]
  split <;> rfl

/-- A marker opens a block, closes one or asks for a value. -/
theorem isOpening_or_slash_or_plain (placed : PlacedMarker) :
    isOpening placed ∨ placed.marker.sigil = .slash ∨ placed.marker.sigil = .plain := by
  cases hsigil : placed.marker.sigil <;> simp [isOpening, hsigil]

/-- The steps of the pairing, one case for what becomes of the first marker. -/
theorem pairUp_induction {motive : List PlacedMarker → Prop} (nil : motive [])
    (paired : ∀ opening before closing after, isOpening opening →
      isClosingOf opening.marker.name closing →
      (∀ placed ∈ before, ¬ isClosingOf opening.marker.name placed) →
      pairUp (opening :: (before ++ closing :: after)) =
        { pairUp (before ++ after) with
          pairs := ⟨opening, closing⟩ :: (pairUp (before ++ after)).pairs } →
      motive (before ++ after) → motive (opening :: (before ++ closing :: after)))
    (unclosed : ∀ opening rest, isOpening opening →
      (∀ placed ∈ rest, ¬ isClosingOf opening.marker.name placed) →
      pairUp (opening :: rest) =
        { pairUp rest with unclosed := opening :: (pairUp rest).unclosed } →
      motive rest → motive (opening :: rest))
    (stray : ∀ closing rest, closing.marker.sigil = .slash →
      pairUp (closing :: rest) = { pairUp rest with stray := closing :: (pairUp rest).stray } →
      motive rest → motive (closing :: rest))
    (plain : ∀ value rest, value.marker.sigil = .plain → pairUp (value :: rest) = pairUp rest →
      motive rest → motive (value :: rest))
    (markers : List PlacedMarker) : motive markers := by
  induction markers using pairUp.induct with
  | case1 => exact nil
  | case2 head rest hopening closing others htake ih =>
      have hpairUp := pairUp_of_takeClosing?_eq_some hopening htake
      obtain ⟨hclosing, before, after, rfl, rfl, hbefore⟩ := eq_of_takeClosing? htake
      exact paired head before closing after hopening hclosing hbefore hpairUp ih
  | case3 head rest hopening htake ih =>
      exact unclosed head rest hopening (takeClosing?_eq_none_iff.mp htake)
        (pairUp_of_takeClosing?_eq_none hopening htake) ih
  | case4 head rest hopening hslash ih =>
      have hpairUp : pairUp (head :: rest) = _ := pairUp_of_not_isOpening hopening
      rw [if_pos hslash] at hpairUp
      exact stray head rest (beq_iff_eq.mp hslash) hpairUp ih
  | case5 head rest hopening hslash ih =>
      have hpairUp : pairUp (head :: rest) = _ := pairUp_of_not_isOpening hopening
      rw [if_neg hslash] at hpairUp
      have hplain := ((isOpening_or_slash_or_plain head).resolve_left hopening).resolve_left
        fun h => hslash (beq_iff_eq.mpr h)
      exact plain head rest hplain hpairUp ih

end PairUp

/-! ## No marker is used twice -/

/-- The markers of a pairing, those of each pair together. -/
def Pairing.markers (pairing : Pairing) : List PlacedMarker :=
  pairing.pairs.flatMap (fun pair => [pair.opening, pair.closing]) ++
    (pairing.unclosed ++ pairing.stray)

/-- Whether a marker opens or closes a block. -/
def isBlockMarker (placed : PlacedMarker) : Bool := placed.marker.sigil != .plain

theorem isBlockMarker_of_isOpening {opening : PlacedMarker} (h : isOpening opening) :
    isBlockMarker opening := by
  rcases Bool.or_eq_true_iff.mp h with hsigil | hsigil <;>
    simp [isBlockMarker, beq_iff_eq.mp hsigil]

theorem isBlockMarker_of_slash {closing : PlacedMarker} (h : closing.marker.sigil = .slash) :
    isBlockMarker closing := by
  simp [isBlockMarker, h]

/-- A pairing uses every block marker once. -/
theorem perm_markers_pairUp (markers : List PlacedMarker) :
    (pairUp markers).markers.Perm (markers.filter isBlockMarker) := by
  induction markers using pairUp_induction with
  | nil => simp [Pairing.markers]
  | paired opening before closing after hopening hclosing _ hpairUp ih =>
      have hslash : closing.marker.sigil = .slash := sigil_eq_of_isClosingOf hclosing
      rw [List.filter_append] at ih
      rw [hpairUp, List.filter_cons_of_pos (isBlockMarker_of_isOpening hopening),
        List.filter_append, List.filter_cons_of_pos (isBlockMarker_of_slash hslash)]
      exact ((ih.cons closing).trans List.perm_middle.symm).cons opening
  | unclosed opening rest hopening _ hpairUp ih =>
      rw [hpairUp, List.filter_cons_of_pos (isBlockMarker_of_isOpening hopening)]
      exact List.perm_middle.trans (ih.cons opening)
  | stray closing rest hslash hpairUp ih =>
      rw [Pairing.markers, ← List.append_assoc] at ih
      rw [hpairUp, List.filter_cons_of_pos (isBlockMarker_of_slash hslash), Pairing.markers,
        ← List.append_assoc]
      exact List.perm_middle.trans (ih.cons closing)
  | plain value rest hplain hpairUp ih =>
      rw [hpairUp]
      simpa [isBlockMarker, hplain] using ih

theorem mem_of_mem_markers_pairUp {markers : List PlacedMarker} {placed : PlacedMarker}
    (h : placed ∈ (pairUp markers).markers) : placed ∈ markers :=
  List.mem_of_mem_filter ((perm_markers_pairUp markers).mem_iff.mp h)

/-- A pair is made of two of the markers. -/
theorem mem_of_mem_pairUp {markers : List PlacedMarker} {pair : Pair}
    (h : pair ∈ (pairUp markers).pairs) : pair.opening ∈ markers ∧ pair.closing ∈ markers := by
  have hmarkers : ∀ placed ∈ [pair.opening, pair.closing], placed ∈ markers := fun placed hplaced =>
    mem_of_mem_markers_pairUp (List.mem_append_left _ (List.mem_flatMap.mpr ⟨pair, h, hplaced⟩))
  exact ⟨hmarkers _ (by simp), hmarkers _ (by simp)⟩

theorem mem_of_mem_unclosed {markers : List PlacedMarker} {opening : PlacedMarker}
    (h : opening ∈ (pairUp markers).unclosed) : opening ∈ markers :=
  mem_of_mem_markers_pairUp (List.mem_append_right _ (List.mem_append_left _ h))

/-! ## Two stretches side by side -/

/-- Two pairings side by side. -/
def Pairing.append (first second : Pairing) : Pairing where
  pairs := first.pairs ++ second.pairs
  unclosed := first.unclosed ++ second.unclosed
  stray := first.stray ++ second.stray

/-- When no pair reaches from the first stretch into the second, they are paired apart. -/
theorem pairUp_append {IsEarly : PlacedMarker → Prop} {first second : List PlacedMarker}
    (hfirst : ∀ placed ∈ first, IsEarly placed) (hsecond : ∀ placed ∈ second, ¬ IsEarly placed)
    (hpairs : ∀ pair ∈ (pairUp (first ++ second)).pairs,
      IsEarly pair.opening → IsEarly pair.closing) :
    pairUp (first ++ second) = (pairUp first).append (pairUp second) := by
  induction first using pairUp.induct with
  | case1 => simp [Pairing.append]
  | case2 head rest hopening closing others htake ih =>
      have hwhole : takeClosing? head.marker.name (rest ++ second) =
          some (closing, others ++ second) := by
        rw [takeClosing?_append, htake]
      rw [List.cons_append, pairUp_of_takeClosing?_eq_some hopening hwhole] at hpairs ⊢
      have hothers : ∀ placed ∈ others, IsEarly placed := fun placed hplaced =>
        hfirst placed (List.mem_cons_of_mem _ (subset_of_takeClosing? htake hplaced))
      rw [pairUp_of_takeClosing?_eq_some hopening htake,
        ih hothers fun pair hpair => hpairs pair (List.mem_cons_of_mem _ hpair)]
      rfl
  | case3 head rest hopening htake ih =>
      have hrest := (List.forall_mem_cons.mp hfirst).2
      cases hlate : takeClosing? head.marker.name second with
      | some taken =>
          -- the pair would reach into the second stretch
          obtain ⟨closing, others⟩ := taken
          have hwhole : takeClosing? head.marker.name (rest ++ second) =
              some (closing, rest ++ others) := by
            rw [takeClosing?_append, htake, hlate]
            rfl
          rw [List.cons_append, pairUp_of_takeClosing?_eq_some hopening hwhole] at hpairs
          have hclosing : IsEarly closing :=
            hpairs _ (List.mem_cons_self ..) (hfirst head (List.mem_cons_self ..))
          exact absurd hclosing (hsecond closing (mem_of_takeClosing? hlate))
      | none =>
          have hwhole : takeClosing? head.marker.name (rest ++ second) = none := by
            rw [takeClosing?_append, htake, hlate]
            rfl
          rw [List.cons_append, pairUp_of_takeClosing?_eq_none hopening hwhole] at hpairs ⊢
          rw [pairUp_of_takeClosing?_eq_none hopening htake, ih hrest hpairs]
          rfl
  | case4 head rest hopening hslash ih =>
      have hrest := (List.forall_mem_cons.mp hfirst).2
      rw [List.cons_append, pairs_pairUp_of_not_isOpening hopening] at hpairs
      rw [List.cons_append, pairUp_of_not_isOpening hopening, pairUp_of_not_isOpening hopening,
        if_pos hslash, if_pos hslash, ih hrest hpairs]
      rfl
  | case5 head rest hopening hslash ih =>
      have hrest := (List.forall_mem_cons.mp hfirst).2
      rw [List.cons_append, pairs_pairUp_of_not_isOpening hopening] at hpairs
      rw [List.cons_append, pairUp_of_not_isOpening hopening, pairUp_of_not_isOpening hopening,
        if_neg hslash, if_neg hslash, ih hrest hpairs]

/-- When the first stretch closes all its blocks itself, the two are paired apart. -/
theorem pairUp_append_of_unclosed_eq_nil {first second : List PlacedMarker}
    (hfirst : (pairUp first).unclosed = []) :
    pairUp (first ++ second) = (pairUp first).append (pairUp second) := by
  induction first using pairUp.induct with
  | case1 => simp [Pairing.append]
  | case2 head rest hopening closing others htake ih =>
      have hwhole : takeClosing? head.marker.name (rest ++ second) =
          some (closing, others ++ second) := by
        rw [takeClosing?_append, htake]
      rw [pairUp_of_takeClosing?_eq_some hopening htake] at hfirst ⊢
      rw [List.cons_append, pairUp_of_takeClosing?_eq_some hopening hwhole, ih hfirst]
      rfl
  | case3 head rest hopening htake ih =>
      rw [pairUp_of_takeClosing?_eq_none hopening htake] at hfirst
      exact absurd hfirst (List.cons_ne_nil _ _)
  | case4 head rest hopening hslash ih =>
      rw [pairUp_of_not_isOpening hopening, if_pos hslash] at hfirst ⊢
      rw [List.cons_append, pairUp_of_not_isOpening hopening, if_pos hslash, ih hfirst]
      rfl
  | case5 head rest hopening hslash ih =>
      rw [pairUp_of_not_isOpening hopening, if_neg hslash] at hfirst ⊢
      rw [List.cons_append, pairUp_of_not_isOpening hopening, if_neg hslash, ih hfirst]

/-! ## Clean pairings -/

/-- Every marker is paired, and no pair crosses another one. -/
structure Pairing.IsClean (pairing : Pairing) : Prop where
  /-- No opening marker is left. -/
  unclosed : pairing.unclosed = []
  /-- No closing marker is left. -/
  stray : pairing.stray = []
  /-- A block that opens inside another one closes inside it. -/
  pairwise : pairing.pairs.Pairwise fun outer inner => ¬ inner.crosses outer

theorem Pairing.isClean_append_iff {first second : Pairing} :
    (first.append second).IsClean ↔ first.IsClean ∧ second.IsClean ∧
      ∀ outer ∈ first.pairs, ∀ inner ∈ second.pairs, ¬ inner.crosses outer := by
  constructor
  · rintro ⟨hunclosed, hstray, hpairwise⟩
    obtain ⟨hfirst, hsecond, hacross⟩ := List.pairwise_append.mp hpairwise
    obtain ⟨hunclosedFirst, hunclosedSecond⟩ := List.append_eq_nil_iff.mp hunclosed
    obtain ⟨hstrayFirst, hstraySecond⟩ := List.append_eq_nil_iff.mp hstray
    exact ⟨⟨hunclosedFirst, hstrayFirst, hfirst⟩, ⟨hunclosedSecond, hstraySecond, hsecond⟩, hacross⟩
  · rintro ⟨hfirst, hsecond, hacross⟩
    exact ⟨List.append_eq_nil_iff.mpr ⟨hfirst.unclosed, hsecond.unclosed⟩,
      List.append_eq_nil_iff.mpr ⟨hfirst.stray, hsecond.stray⟩,
      List.pairwise_append.mpr ⟨hfirst.pairwise, hsecond.pairwise, hacross⟩⟩

/-! ## The markers of a block -/

/-- What opens behind a block does not cross it. -/
theorem Pair.not_crosses_of_le_start {inner outer : Pair}
    (hopen : outer.closing.span.start ≤ inner.opening.span.start) : ¬ inner.crosses outer := by
  intro hcrosses
  simp only [crosses, Bool.and_eq_true, decide_eq_true_eq] at hcrosses
  omega

/-- What closes inside a block does not cross it. -/
theorem Pair.not_crosses_of_start_lt {inner outer : Pair}
    (hclose : inner.closing.span.start < outer.closing.span.stop) : ¬ inner.crosses outer := by
  intro hcrosses
  simp only [crosses, Bool.and_eq_true, decide_eq_true_eq] at hcrosses
  omega

/-- The two markers of a block stand around the markers of its body, and the closing one is the
first of its name. -/
structure Pair.Encloses (pair : Pair) (body after : List PlacedMarker) : Prop where
  /-- The first marker opens a block. -/
  opens : isOpening pair.opening
  /-- The second marker closes blocks of that name. -/
  closes : isClosingOf pair.opening.marker.name pair.closing
  /-- No marker between them does. -/
  first : ∀ placed ∈ body, ¬ isClosingOf pair.opening.marker.name placed
  /-- The closing marker takes room. -/
  span : pair.closing.span.start < pair.closing.span.stop
  /-- The body stands between the two markers. -/
  between : ∀ placed ∈ body, pair.opening.span.start < placed.span.start ∧
    placed.span.start < pair.closing.span.start
  /-- What follows stands behind them. -/
  behind : ∀ placed ∈ after, pair.closing.span.stop ≤ placed.span.start

section Encloses

variable {pair : Pair} {body after : List PlacedMarker}

theorem Pair.Encloses.pairUp_eq (h : pair.Encloses body after) :
    pairUp (pair.opening :: (body ++ pair.closing :: after)) =
      { pairUp (body ++ after) with pairs := pair :: (pairUp (body ++ after)).pairs } :=
  pairUp_of_takeClosing?_eq_some h.opens (takeClosing?_append_cons h.first h.closes)

/-- When nothing crosses the block, its body and what follows it are paired apart. -/
theorem Pair.Encloses.pairUp_append (h : pair.Encloses body after)
    (hcrosses : ∀ inner ∈ (pairUp (body ++ after)).pairs, ¬ inner.crosses pair) :
    pairUp (body ++ after) = (pairUp body).append (pairUp after) := by
  refine Template.pairUp_append (fun placed hplaced => (h.between placed hplaced).2) ?_ ?_
  · intro placed hplaced
    have hlate := h.behind placed hplaced
    have hspan := h.span
    omega
  · -- a pair that opens in the body closes before the closing marker of the block
    intro inner hinner hearly
    obtain ⟨hfirst, hlast⟩ := mem_of_mem_pairUp hinner
    have hspan := h.span
    have hstart : pair.opening.span.start < inner.opening.span.start := by
      rcases List.mem_append.mp hfirst with hfirst | hfirst
      · exact (h.between _ hfirst).1
      · have hlate := h.behind _ hfirst
        omega
    rcases List.mem_append.mp hlast with hlast | hlast
    · exact (h.between _ hlast).2
    · have hlate : inner.crosses pair := by
        simp [Pair.crosses, hstart, hearly, h.behind _ hlast]
      exact absurd hlate (hcrosses inner hinner)

/-- A block is clean exactly when its body and what follows it are. -/
theorem Pair.Encloses.isClean_iff (h : pair.Encloses body after) :
    (pairUp (pair.opening :: (body ++ pair.closing :: after))).IsClean ↔
      (pairUp body).IsClean ∧ (pairUp after).IsClean := by
  rw [h.pairUp_eq]
  constructor
  · rintro ⟨hunclosed, hstray, hpairwise⟩
    obtain ⟨hinside, hpairwise⟩ := List.pairwise_cons.mp hpairwise
    have hclean : ((pairUp body).append (pairUp after)).IsClean := by
      rw [← h.pairUp_append hinside]
      exact ⟨hunclosed, hstray, hpairwise⟩
    obtain ⟨hbody, hafter, -⟩ := Pairing.isClean_append_iff.mp hclean
    exact ⟨hbody, hafter⟩
  · rintro ⟨hbody, hafter⟩
    have hspan := h.span
    have hopen : ∀ inner ∈ (pairUp after).pairs,
        pair.closing.span.stop ≤ inner.opening.span.start := fun inner hinner =>
      h.behind _ (mem_of_mem_pairUp hinner).1
    have hclose : ∀ inner ∈ (pairUp body).pairs,
        inner.closing.span.start < pair.closing.span.start := fun inner hinner =>
      (h.between _ (mem_of_mem_pairUp hinner).2).2
    have hacross : ∀ outer ∈ (pairUp body).pairs, ∀ inner ∈ (pairUp after).pairs,
        ¬ inner.crosses outer := by
      intro outer houter inner hinner
      have hlate := hopen inner hinner
      have hearly := hclose outer houter
      exact Pair.not_crosses_of_le_start (by omega)
    have hinside : ∀ inner ∈ (pairUp body).pairs ++ (pairUp after).pairs,
        ¬ inner.crosses pair := by
      intro inner hinner
      rcases List.mem_append.mp hinner with hinner | hinner
      · have hearly := hclose inner hinner
        exact Pair.not_crosses_of_start_lt (by omega)
      · have hlate := hopen inner hinner
        exact Pair.not_crosses_of_le_start (by omega)
    rw [pairUp_append_of_unclosed_eq_nil hbody.unclosed]
    obtain ⟨hunclosed, hstray, hpairwise⟩ :=
      Pairing.isClean_append_iff.mpr ⟨hbody, hafter, hacross⟩
    exact ⟨hunclosed, hstray, List.pairwise_cons.mpr ⟨hinside, hpairwise⟩⟩

end Encloses

/-! ## What the analysis reports -/

theorem crossings_eq_nil_iff {earlier pairs : List Pair} :
    crossings earlier pairs = [] ↔ (∀ inner ∈ pairs, ∀ outer ∈ earlier, ¬ inner.crosses outer) ∧
      pairs.Pairwise fun outer inner => ¬ inner.crosses outer := by
  induction pairs generalizing earlier with
  | nil => simp [crossings]
  | cons inner rest ih =>
      rw [crossings]
      cases hfind : earlier.find? inner.crosses with
      | some outer =>
          have hmem := List.mem_of_find?_eq_some hfind
          have hcrosses := List.find?_some hfind
          simp only [reduceCtorEq, false_iff]
          intro h
          exact h.1 inner (List.mem_cons_self ..) outer hmem hcrosses
      | none =>
          have hinner := List.find?_eq_none.mp hfind
          simp only [ih, List.mem_append, List.mem_cons, List.not_mem_nil, or_false,
            List.pairwise_cons]
          constructor
          · rintro ⟨hrest, hpairwise⟩
            refine ⟨?_, fun later hlater => hrest later hlater inner (Or.inr rfl), hpairwise⟩
            rintro later (rfl | hlater) outer houter
            · exact hinner outer houter
            · exact hrest later hlater outer (Or.inl houter)
          · rintro ⟨hall, hlater, hpairwise⟩
            refine ⟨?_, hpairwise⟩
            rintro later hmem outer (houter | rfl)
            · exact hall later (Or.inr hmem) outer houter
            · exact hlater later hmem

theorem Pairing.issues_eq_nil_iff {pairing : Pairing} : pairing.issues = [] ↔ pairing.IsClean := by
  have hlength : pairing.issues.length = pairing.unclosed.length +
      (pairing.stray.length + (crossings [] pairing.pairs).length) := by
    simp [issues]
  rw [← List.length_eq_zero_iff, hlength]
  constructor
  · intro h
    have hcrossings : crossings [] pairing.pairs = [] := List.length_eq_zero_iff.mp (by omega)
    exact ⟨List.length_eq_zero_iff.mp (by omega), List.length_eq_zero_iff.mp (by omega),
      (crossings_eq_nil_iff.mp hcrossings).2⟩
  · intro h
    have hcrossings : crossings [] pairing.pairs = [] :=
      crossings_eq_nil_iff.mpr ⟨by simp, h.pairwise⟩
    simp [h.unclosed, h.stray, hcrossings]

/-- The analysis reports nothing exactly when the pairing is clean. -/
theorem isClean_analyze_iff {source : Text} :
    (analyze source).isClean ↔ (pairUp (placedMarkers source)).IsClean := by
  rw [Analysis.isClean, List.isEmpty_iff]
  exact Pairing.issues_eq_nil_iff

end Invoicing.Template
