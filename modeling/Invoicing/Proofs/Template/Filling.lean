import Invoicing.Proofs.Template.Reading
import Invoicing.Template.Passes

/-!
# Which stretches the value pass replaces

The analysis of a template lists its plain markers with their spans.  The value pass never sees
that list.  It goes through the text once and puts the values in as it comes to them, so that one
may ask whether it replaces just those stretches: it might read a value again, find a marker in a
value and what follows it, or lose a character between two markers.

It replaces just those.  Main statement: `fillValues_eq_replaceSpans`.  The output is the text with
the listed spans cut out and the values in their places, whatever the values hold.

`Text.replaceSpans` counts octets and knows nothing of markers.  The tokens of the text connect the
two: literals and block markers stand between the spans (`Text.replaceSpans_append`), a plain marker
is one of them (`Text.replaceSpans_cons_append`).
-/

namespace Invoicing

namespace Text

/-! ## Replacing spans -/

/-- A text cut at a UTF-8 position; a character on the position goes to the second part. -/
def splitAtByte : ℕ → Text → Text × Text
  | _, [] => ([], [])
  | offset, head :: rest =>
      if head.utf8Size ≤ offset then
        let (before, after) := splitAtByte (offset - head.utf8Size) rest
        (head :: before, after)
      else ([], head :: rest)

/-- A text whose spans are replaced, one after another.  The text starts at an offset. -/
def replaceSpans (offset : ℕ) (source : Text) : List (Span × Text) → Text
  | [] => source
  | (span, replacement) :: later =>
      let (before, rest) := source.splitAtByte (span.start - offset)
      let (_, after) := rest.splitAtByte (span.stop - span.start)
      before ++ (replacement ++ replaceSpans span.stop after later)

@[simp] theorem splitAtByte_zero (text : Text) : splitAtByte 0 text = ([], text) := by
  cases text with
  | nil => rfl
  | cons head rest =>
      have hpos : ¬ head.utf8Size ≤ 0 := Nat.not_le.mpr head.utf8Size_pos
      rw [splitAtByte, if_neg hpos]

/-- Characters before the position go to the first part. -/
theorem splitAtByte_append (before rest : Text) (offset : ℕ) :
    splitAtByte (utf8Size before + offset) (before ++ rest) =
      (before ++ (splitAtByte offset rest).1, (splitAtByte offset rest).2) := by
  induction before with
  | nil => simp
  | cons head tail ih =>
      have hle : head.utf8Size ≤ utf8Size (head :: tail) + offset := by
        rw [utf8Size_cons, Nat.add_assoc]
        exact Nat.le_add_right _ _
      have hrest : utf8Size (head :: tail) + offset - head.utf8Size = utf8Size tail + offset := by
        rw [utf8Size_cons, Nat.add_assoc, Nat.add_sub_cancel_left]
      rw [List.cons_append, splitAtByte, if_pos hle, hrest, ih]
      rfl

theorem splitAtByte_utf8Size (before rest : Text) :
    splitAtByte (utf8Size before) (before ++ rest) = (before, rest) := by
  have hsplit := splitAtByte_append before rest 0
  rwa [Nat.add_zero, splitAtByte_zero, List.append_nil] at hsplit

/-- What stands before all spans is copied. -/
theorem replaceSpans_append {offset : ℕ} {spans : List (Span × Text)} (before rest : Text)
    (h : ∀ entry ∈ spans, offset + utf8Size before ≤ entry.1.start) :
    replaceSpans offset (before ++ rest) spans =
      before ++ replaceSpans (offset + utf8Size before) rest spans := by
  cases spans with
  | nil => rfl
  | cons entry later =>
      obtain ⟨span, replacement⟩ := entry
      have hle : offset + utf8Size before ≤ span.start := h _ (List.mem_cons_self ..)
      have hstart : span.start - offset =
          utf8Size before + (span.start - (offset + utf8Size before)) := by
        omega
      simp only [replaceSpans]
      rw [hstart, splitAtByte_append]
      simp only [List.append_assoc]

/-- A span at the start of the text gives way to its replacement. -/
theorem replaceSpans_cons_append (offset : ℕ) (piece rest replacement : Text)
    (later : List (Span × Text)) :
    replaceSpans offset (piece ++ rest)
        ((⟨offset, offset + utf8Size piece⟩, replacement) :: later) =
      replacement ++ replaceSpans (offset + utf8Size piece) rest later := by
  have hcut := splitAtByte_utf8Size piece rest
  simp only [replaceSpans, Nat.sub_self, splitAtByte_zero, Nat.add_sub_cancel_left, hcut,
    List.nil_append]

end Text

namespace Template

/-! ## The spans of plain markers -/

/-- The spans of the plain markers in a list of tokens, each with the value for its name. -/
def valueSpans (value : Text → Text) (offset : ℕ) (parts : List Token) : List (Span × Text) :=
  ((placeMarkers offset parts).filter (·.marker.sigil == .plain)).map fun placed =>
    (placed.span, value placed.marker.name)

section Spans

variable {value : Text → Text}

theorem le_start_of_mem_valueSpans {offset : ℕ} {parts : List Token} {entry : Span × Text}
    (h : entry ∈ valueSpans value offset parts) : offset ≤ entry.1.start := by
  obtain ⟨placed, hplaced, rfl⟩ := List.mem_map.mp h
  exact le_start_of_mem_placeMarkers (List.mem_of_mem_filter hplaced)

/-- Replacing the spans of plain markers is replacing the plain markers, token by token. -/
theorem replaceSpans_valueSpans (offset : ℕ) (parts : List Token) :
    Text.replaceSpans offset (parts.flatMap Token.text) (valueSpans value offset parts) =
      parts.flatMap fun
        | .literal content => content
        | .mark marker => if marker.sigil = .plain then value marker.name else marker.text := by
  induction parts generalizing offset with
  | nil => rfl
  | cons token rest ih =>
      rw [List.flatMap_cons, List.flatMap_cons]
      cases token with
      | literal content =>
          have hspans : valueSpans value offset (.literal content :: rest) =
              valueSpans value (offset + Text.utf8Size content) rest := rfl
          rw [hspans, Token.text, Text.replaceSpans_append _ _ fun _ => le_start_of_mem_valueSpans,
            ih]
      | mark marker =>
          by_cases hplain : marker.sigil = .plain
          · have hspans : valueSpans value offset (.mark marker :: rest) =
                (⟨offset, offset + Text.utf8Size marker.text⟩, value marker.name) ::
                  valueSpans value (offset + Text.utf8Size marker.text) rest := by
              simp [valueSpans, placeMarkers, hplain]
            rw [hspans, Token.text, Text.replaceSpans_cons_append, ih]
            simp only [hplain, if_true]
          · have hspans : valueSpans value offset (.mark marker :: rest) =
                valueSpans value (offset + Text.utf8Size marker.text) rest := by
              simp [valueSpans, placeMarkers, hplain]
            rw [hspans, Token.text,
              Text.replaceSpans_append _ _ fun _ => le_start_of_mem_valueSpans, ih]
            simp only [hplain, if_false]

end Spans

/-- **The value pass replaces the listed spans and nothing else.**  The spans are those of the plain
markers that stand in the text, in order and apart from one another; the output is the text with
the values in their places, whatever the values hold. -/
theorem fillValues_eq_replaceSpans (scope : Scope) (source : Text) :
    fillValues scope source =
      source.replaceSpans 0 ((analyze source).values.map fun placed =>
        (placed.span, ((scope.lookup? placed.marker.name).map Binding.toText).getD [])) ∧
    (∀ placed, placed ∈ (analyze source).values ↔
      placed.StandsIn source ∧ placed.marker.sigil = .plain) ∧
    (analyze source).values.Pairwise fun earlier later =>
      earlier.span.stop ≤ later.span.start := by
  refine ⟨?_, ?_, ?_⟩
  · have hreplaced := @replaceSpans_valueSpans scope.toText 0 (tokens source)
    rw [flatMap_text_tokens] at hreplaced
    exact hreplaced.symm
  · intro placed
    show placed ∈ (placedMarkers source).filter _ ↔ _
    rw [List.mem_filter, mem_placedMarkers_iff, beq_iff_eq]
  · exact (pairwise_placedMarkers source).filter _

/-- A value that makes a marker with the braces around it is not read again. -/
example : fillValues (.ofContext (.ofList [("A".toList, .ofText "\x7bB".toList)]))
    "\x7b\x7b\x7bA\x7d\x7d\x7d\x7d\x7b\x7b#A\x7d\x7d".toList =
      "\x7b\x7bB\x7d\x7d\x7b\x7b#A\x7d\x7d".toList := by
  decide +kernel

end Template

end Invoicing
