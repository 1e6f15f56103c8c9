/-!
# Text and its UTF-8 positions

A text is the list of its characters, so that laws about scanning and joining
texts are laws about lists.  Positions that leave the library count octets of
the UTF-8 form; `utf8Size` measures a text that way and `dropBytes?` finds a
position again.
-/

namespace Invoicing

/-- A text, character by character. -/
abbrev Text := List Char

namespace Text

/-- The number of octets in the UTF-8 form of a text. -/
def utf8Size : Text → Nat
  | [] => 0
  | head :: rest => head.utf8Size + utf8Size rest

@[simp] theorem utf8Size_nil : utf8Size [] = 0 := rfl

@[simp] theorem utf8Size_cons (head : Char) (rest : Text) :
    utf8Size (head :: rest) = head.utf8Size + utf8Size rest := rfl

@[simp] theorem utf8Size_append (first second : Text) :
    utf8Size (first ++ second) = utf8Size first + utf8Size second := by
  induction first with
  | nil => simp
  | cons head rest ih => simp [ih, Nat.add_assoc]

/-- The text from a UTF-8 position on.  A position past the end, or inside a
character, has none. -/
def dropBytes? : Nat → Text → Option Text
  | 0, text => some text
  | _ + 1, [] => none
  | offset + 1, head :: rest =>
      if head.utf8Size ≤ offset + 1 then dropBytes? (offset + 1 - head.utf8Size) rest else none

@[simp] theorem dropBytes?_zero (text : Text) : dropBytes? 0 text = some text := by
  simp [dropBytes?]

/-- Every position between two characters is found. -/
theorem dropBytes?_utf8Size (before after : Text) :
    dropBytes? (utf8Size before) (before ++ after) = some after := by
  induction before with
  | nil => simp
  | cons head rest ih =>
      have hpos := head.utf8Size_pos
      obtain ⟨offset, hoffset⟩ : ∃ offset, utf8Size (head :: rest) = offset + 1 :=
        ⟨head.utf8Size + utf8Size rest - 1, by simp; omega⟩
      have hle : head.utf8Size ≤ offset + 1 := by simp at hoffset; omega
      have hrest : offset + 1 - head.utf8Size = utf8Size rest := by simp at hoffset; omega
      rw [hoffset]
      simp [dropBytes?, hle, hrest, ih]

/-- The texts before and after the first occurrence of a pattern. -/
def splitAtFirst? (pattern : Text) : Text → Option (Text × Text)
  | [] => if pattern.isEmpty then some ([], []) else none
  | head :: rest =>
      if pattern.isPrefixOf (head :: rest) then
        some ([], (head :: rest).drop pattern.length)
      else
        (splitAtFirst? pattern rest).map fun (before, after) => (head :: before, after)

/-- A text is what stands before the first occurrence, the pattern, and what follows. -/
theorem append_of_splitAtFirst? {pattern text before after : Text}
    (h : splitAtFirst? pattern text = some (before, after)) :
    text = before ++ pattern ++ after := by
  induction text generalizing before with
  | nil =>
      simp only [splitAtFirst?] at h
      split at h
      · next hempty => simp_all
      · simp at h
  | cons head rest ih =>
      simp only [splitAtFirst?] at h
      split at h
      · next hprefix =>
          obtain ⟨rfl, rfl⟩ : [] = before ∧ (head :: rest).drop pattern.length = after := by
            simpa using h
          have := List.prefix_iff_eq_append.1 (List.isPrefixOf_iff_prefix.1 hprefix)
          simpa using this.symm
      · simp only [Option.map_eq_some_iff, Prod.mk.injEq] at h
        obtain ⟨⟨before', after'⟩, hsplit, hbefore, hafter⟩ := h
        subst hbefore hafter
        rw [ih hsplit]
        simp

theorem splitAtFirst?_eq_none_iff {pattern text : Text} (hpattern : pattern ≠ []) :
    splitAtFirst? pattern text = none ↔ ¬ pattern <:+: text := by
  induction text with
  | nil => simp [splitAtFirst?, hpattern]
  | cons head rest ih =>
      simp only [splitAtFirst?, List.infix_cons_iff, ← List.isPrefixOf_iff_prefix]
      split
      · next hstarts => simp [hstarts]
      · next hstarts => simp [hstarts, ih]

/-- The pattern does not stand anywhere in what comes before its first occurrence. -/
theorem not_isInfix_of_splitAtFirst? {pattern text before after : Text} (hpattern : pattern ≠ [])
    (h : splitAtFirst? pattern text = some (before, after)) : ¬ pattern <:+: before := by
  induction text generalizing before with
  | nil => simp [splitAtFirst?, hpattern] at h
  | cons head rest ih =>
      simp only [splitAtFirst?] at h
      split at h
      · obtain ⟨rfl, -⟩ : [] = before ∧ _ := by simpa using h
        simpa using hpattern
      · next hstarts =>
          simp only [Option.map_eq_some_iff, Prod.mk.injEq] at h
          obtain ⟨⟨earlier, later⟩, hsplit, rfl, rfl⟩ := h
          rw [List.infix_cons_iff, not_or]
          refine ⟨?_, ih hsplit⟩
          intro hbegins
          have hrest : head :: earlier <+: head :: rest := by
            rw [append_of_splitAtFirst? hsplit, List.append_assoc, ← List.cons_append]
            exact List.prefix_append _ _
          exact hstarts (List.isPrefixOf_iff_prefix.2 (hbegins.trans hrest))

/-- Splitting at a pattern leaves a text no longer than before. -/
theorem length_le_of_splitAtFirst? {pattern text before after : Text}
    (h : splitAtFirst? pattern text = some (before, after)) : after.length ≤ text.length := by
  rw [append_of_splitAtFirst? h]
  simp only [List.length_append]
  omega

end Text

end Invoicing
