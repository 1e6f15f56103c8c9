import Invoicing.Marker.Scan
import Invoicing.Text.Sorted

/-!
# Which markers pair up

An author wants to know of block markers that rendering will leave as literal text.
Every opening marker, in the order of the text, takes the first closing marker of its
name after it that no earlier one has taken.  What stays single is reported, and so
is a block that opens inside another one and closes after it.
-/

namespace Invoicing.Template

/-- Whether a marker opens a block. -/
def isOpening (placed : PlacedMarker) : Bool :=
  placed.marker.sigil == .hash || placed.marker.sigil == .caret

/-- Whether a marker closes blocks of a name. -/
def isClosingOf (name : Text) (placed : PlacedMarker) : Bool :=
  placed.marker.sigil == .slash && placed.marker.name == name

/-- An opening marker with the closing marker that it takes. -/
structure Pair where
  /-- The opening marker. -/
  opening : PlacedMarker
  /-- The closing marker. -/
  closing : PlacedMarker
  deriving DecidableEq, Repr

/-- The pairs of a list of markers, and the markers that stay single. -/
structure Pairing where
  /-- The pairs in the order of their opening markers. -/
  pairs : List Pair
  /-- The opening markers that find no closing marker. -/
  unclosed : List PlacedMarker
  /-- The closing markers that no opening marker takes. -/
  stray : List PlacedMarker
  deriving DecidableEq, Repr

/-- The first closing marker of a name, and the markers without it. -/
def takeClosing? (name : Text) : List PlacedMarker → Option (PlacedMarker × List PlacedMarker)
  | [] => none
  | head :: rest =>
      if isClosingOf name head then some (head, rest)
      else (takeClosing? name rest).map fun (closing, others) => (closing, head :: others)

theorem length_of_takeClosing? {name : Text} {markers others : List PlacedMarker}
    {closing : PlacedMarker} (h : takeClosing? name markers = some (closing, others)) :
    markers.length = others.length + 1 := by
  induction markers generalizing others with
  | nil => simp [takeClosing?] at h
  | cons head rest ih =>
      simp only [takeClosing?] at h
      split at h
      · simp only [Option.some.injEq, Prod.mk.injEq] at h
        simp [h.2]
      · simp only [Option.map_eq_some_iff, Prod.mk.injEq] at h
        obtain ⟨⟨closing', others'⟩, htake, rfl, rfl⟩ := h
        simp [ih htake]

/-- Pairs the markers of a list.  A closing marker that is reached has been taken by
no opening marker before it, so it stays single. -/
def pairUp : List PlacedMarker → Pairing
  | [] => ⟨[], [], []⟩
  | head :: rest =>
      if isOpening head then
        match _htake : takeClosing? head.marker.name rest with
        | some (closing, others) =>
            let pairing := pairUp others
            { pairing with pairs := ⟨head, closing⟩ :: pairing.pairs }
        | none =>
            let pairing := pairUp rest
            { pairing with unclosed := head :: pairing.unclosed }
      else
        let pairing := pairUp rest
        if head.marker.sigil == .slash then { pairing with stray := head :: pairing.stray }
        else pairing
termination_by markers => markers.length
decreasing_by
  · have := length_of_takeClosing? _htake; simp only [List.length_cons]; omega
  · simp
  · simp

/-- Whether a block opens inside another one and closes after it. -/
def Pair.crosses (inner outer : Pair) : Bool :=
  outer.opening.span.start < inner.opening.span.start &&
    inner.opening.span.start < outer.closing.span.start &&
    outer.closing.span.stop ≤ inner.closing.span.start

/-- Every pair that crosses a pair before it, with the first such one. -/
def crossings : List Pair → List Pair → List (Pair × Pair)
  | _, [] => []
  | earlier, inner :: rest =>
      let later := crossings (earlier ++ [inner]) rest
      match earlier.find? inner.crosses with
      | some outer => (inner, outer) :: later
      | none => later

/-! ### Reports -/

/-- What is wrong with a marker. -/
inductive IssueKind where
  /-- An opening marker without a closing marker. -/
  | unclosedSection
  /-- A closing marker without an opening marker. -/
  | strayClose
  /-- The opening marker of a block that closes after the block named here. -/
  | overlappingSection (outer : Text)
  deriving DecidableEq, Repr

/-- A marker that will not be rendered as its author means it. -/
structure Issue where
  /-- What is wrong. -/
  kind : IssueKind
  /-- The marker. -/
  placed : PlacedMarker
  deriving DecidableEq, Repr

namespace Issue

/-- The short name of the kind of an issue. -/
def label (issue : Issue) : Text :=
  match issue.kind with
  | .unclosedSection => "unclosed_section".toList
  | .strayClose => "stray_close".toList
  | .overlappingSection _ => "overlapping_section".toList

/-- What is wrong, in words. -/
def message (issue : Issue) : Text :=
  let name := issue.placed.marker.name
  match issue.kind with
  | .unclosedSection =>
      "section `".toList ++ (name ++ "` is never closed and will render literally".toList)
  | .strayClose => issue.placed.marker.text ++ " has no matching open marker".toList
  | .overlappingSection outer =>
      "section `".toList ++ (name ++ ("` opens inside `".toList ++ (outer ++
        "` but closes after it; part of it will render literally".toList)))

end Issue

/-- The issues of a pairing in the order of their places. -/
def Pairing.issues (pairing : Pairing) : List Issue :=
  let all := pairing.unclosed.map (⟨.unclosedSection, ·⟩) ++
    (pairing.stray.map (⟨.strayClose, ·⟩) ++
      (crossings [] pairing.pairs).map fun (inner, outer) =>
        ⟨.overlappingSection outer.opening.marker.name, inner.opening⟩)
  all.mergeSort fun first second => first.placed.span.start ≤ second.placed.span.start

/-- What a template text asks for, and what is wrong with it. -/
structure Analysis where
  /-- The plain markers. -/
  values : List PlacedMarker
  /-- The `#` markers. -/
  sections : List PlacedMarker
  /-- The `^` markers. -/
  inverted : List PlacedMarker
  /-- The issues in the order of their places. -/
  issues : List Issue
  deriving DecidableEq, Repr

/-- The analysis of a template text. -/
def analyze (source : Text) : Analysis :=
  let markers := placedMarkers source
  let ofSigil (sigil : Sigil) := markers.filter (·.marker.sigil == sigil)
  { values := ofSigil .plain
    sections := ofSigil .hash
    inverted := ofSigil .caret
    issues := (pairUp markers).issues }

namespace Analysis

/-- The names that the template looks up, each once and in ascending order. -/
def names (analysis : Analysis) : List Text :=
  Text.sortedDistinct <|
    (analysis.values ++ (analysis.sections ++ analysis.inverted)).map (·.marker.name)

/-- No name is listed twice, and the names ascend. -/
theorem pairwise_names (analysis : Analysis) : analysis.names.Pairwise (· < ·) :=
  Text.pairwise_sortedDistinct _

/-- Whether there is nothing to report. -/
def isClean (analysis : Analysis) : Bool := analysis.issues.isEmpty

end Analysis

end Invoicing.Template
