import Invoicing.Text.CodePoints

/-!
# White space and blank texts

White space is the Unicode property White_Space.  A text is blank when it holds
nothing else, so the empty text is blank.
-/

namespace Invoicing.Text

/-- The code points with the property White_Space. -/
def whiteSpaceRanges : List (Nat × Nat) :=
  [(0x09, 0x0D), (0x20, 0x20), (0x85, 0x85), (0xA0, 0xA0), (0x1680, 0x1680), (0x2000, 0x200A),
    (0x2028, 0x2029), (0x202F, 0x202F), (0x205F, 0x205F), (0x3000, 0x3000)]

/-- Whether a character is white space. -/
def isWhiteSpace (char : Char) : Bool := inRanges whiteSpaceRanges char

/-- Whether a text holds white space only. -/
def isBlank (text : Text) : Bool := text.all isWhiteSpace

@[simp] theorem isBlank_nil : isBlank [] = true := rfl

/-- The text without the white space at its start. -/
def trimStart (text : Text) : Text := text.dropWhile isWhiteSpace

/-- The text without the white space at its end. -/
def trimEnd (text : Text) : Text := (text.reverse.dropWhile isWhiteSpace).reverse

/-- The text without the white space at its ends. -/
def trim (text : Text) : Text := trimEnd (trimStart text)

theorem trimStart_eq_nil_iff (text : Text) : trimStart text = [] ↔ isBlank text := by
  induction text with
  | nil => simp [trimStart]
  | cons head rest ih =>
      by_cases h : isWhiteSpace head <;> simp_all [trimStart, isBlank]

/-- A text is blank exactly when trimming leaves nothing. -/
theorem trim_eq_nil_iff (text : Text) : trim text = [] ↔ isBlank text := by
  have htrim : trim text = [] ↔ isBlank (trimStart text) := by
    have := trimStart_eq_nil_iff (trimStart text).reverse
    rw [isBlank, List.all_reverse] at this
    exact Iff.trans List.reverse_eq_nil_iff this
  rw [htrim]
  clear htrim
  induction text with
  | nil => simp [trimStart]
  | cons head rest ih =>
      by_cases h : isWhiteSpace head <;> simp_all [trimStart, isBlank]

end Invoicing.Text
