import Invoicing.Marker.Basic

/-!
# Markers in a text

`Marker.first?` finds the first marker of a text, whatever malformed braces stand
before it, and `tokens` cuts the whole text into literal stretches and markers.
Each marker is then given its span, in octets of the UTF-8 form.

Main statements: nothing is lost (`Marker.eq_of_first?`, `flatMap_text_tokens`).
-/

namespace Invoicing

/-- A marker found in a text, with the text around it. -/
structure Marker.Occurrence where
  /-- The text before the marker. -/
  before : Text
  /-- The marker. -/
  marker : Marker
  /-- The text after the marker. -/
  after : Text
  deriving DecidableEq, Repr

/-- The first marker of a text. -/
def Marker.first? : Text → Option Marker.Occurrence
  | [] => none
  | head :: rest =>
      match Marker.read? (head :: rest) with
      | some (marker, after) => some ⟨[], marker, after⟩
      | none => (first? rest).map fun found => { found with before := head :: found.before }

/-- The text around a found marker and the marker make up the whole. -/
theorem Marker.eq_of_first? {source : Text} {found : Marker.Occurrence}
    (h : Marker.first? source = some found) :
    source = found.before ++ (found.marker.text ++ found.after) ∧
      Marker.IsName found.marker.name := by
  induction source generalizing found with
  | nil => simp [Marker.first?] at h
  | cons head rest ih =>
      simp only [Marker.first?] at h
      split at h
      · next marker after hread =>
          obtain ⟨hsource, hname⟩ := Marker.eq_text_append_of_read? hread
          obtain rfl : _ = found := by simpa using h
          exact ⟨by simpa using hsource, hname⟩
      · simp only [Option.map_eq_some_iff] at h
        obtain ⟨inner, hinner, rfl⟩ := h
        obtain ⟨hsource, hname⟩ := ih hinner
        exact ⟨by simp [← hsource], hname⟩

/-- What follows a marker is shorter than the whole. -/
theorem Marker.length_after_lt_of_first? {source : Text} {found : Marker.Occurrence}
    (h : Marker.first? source = some found) : found.after.length < source.length := by
  rw [(Marker.eq_of_first? h).1]
  simp [Marker.text, Marker.opening]
  omega

/-- A piece of a template: literal text or a marker. -/
inductive Token where
  /-- Text without a marker in it. -/
  | literal (text : Text)
  /-- A marker. -/
  | mark (marker : Marker)
  deriving DecidableEq, Repr

/-- A token as it is written. -/
def Token.text : Token → Text
  | .literal text => text
  | .mark marker => marker.text

/-- A text cut into literal stretches and markers. -/
def tokens (source : Text) : List Token :=
  match _hfirst : Marker.first? source with
  | none => [.literal source]
  | some found => .literal found.before :: .mark found.marker :: tokens found.after
termination_by source.length
decreasing_by exact Marker.length_after_lt_of_first? _hfirst

theorem tokens_of_first?_eq_none {source : Text} (h : Marker.first? source = none) :
    tokens source = [.literal source] := by
  rw [tokens]
  split <;> simp_all

theorem tokens_of_first?_eq_some {source : Text} {found : Marker.Occurrence}
    (h : Marker.first? source = some found) :
    tokens source = .literal found.before :: .mark found.marker :: tokens found.after := by
  rw [tokens]
  split <;> simp_all

/-- The tokens of a text, written one after another, are the text. -/
theorem flatMap_text_tokens (source : Text) : (tokens source).flatMap Token.text = source := by
  fun_induction tokens source with
  | case1 source h => simp [Token.text]
  | case2 source found h ih =>
      simp only [List.flatMap_cons, Token.text, ih]
      exact (Marker.eq_of_first? h).1.symm

/-! ### Positions -/

/-- A stretch of a text, in octets of its UTF-8 form. -/
structure Span where
  /-- The first octet. -/
  start : Nat
  /-- One past the last octet. -/
  stop : Nat
  deriving DecidableEq, Repr

/-- A marker with the stretch that it takes, braces included. -/
structure PlacedMarker where
  /-- The marker. -/
  marker : Marker
  /-- Where it stands. -/
  span : Span
  deriving DecidableEq, Repr

/-- The first marker at or after a position; none when the position lies outside the
text or inside a character. -/
def Marker.firstFrom? (source : Text) (offset : Nat) : Option PlacedMarker := do
  let rest ← Text.dropBytes? offset source
  let found ← Marker.first? rest
  let start := offset + Text.utf8Size found.before
  return ⟨found.marker, ⟨start, start + Text.utf8Size found.marker.text⟩⟩

/-- The markers of a list of tokens that starts at an offset. -/
def placeMarkers (offset : Nat) : List Token → List PlacedMarker
  | [] => []
  | .literal text :: rest => placeMarkers (offset + Text.utf8Size text) rest
  | .mark marker :: rest =>
      let stop := offset + Text.utf8Size marker.text
      ⟨marker, ⟨offset, stop⟩⟩ :: placeMarkers stop rest

/-- The markers of a text in order. -/
def placedMarkers (source : Text) : List PlacedMarker := placeMarkers 0 (tokens source)

/-- The markers of a text from a position on; none when the position lies outside
the text or inside a character. -/
def placedMarkersFrom (source : Text) (offset : Nat) : List PlacedMarker :=
  match Text.dropBytes? offset source with
  | some rest => placeMarkers offset (tokens rest)
  | none => []

end Invoicing
