import Invoicing.Text.Alphanumeric

/-!
# Markers

A template is plain text with markers in it.  A marker is two opening braces, at
most one of the signs `#`, `^` and `/`, a name, and two closing braces, with
nothing else between them: `{{Name}}`, `{{#Name}}`, `{{^Name}}`, `{{/Name}}`.  A
name is one or more letters, digits or underscores.

Main statement: a text starts with a marker exactly when `Marker.read?` reads one
(`Marker.read?_eq_some_iff`), so a marker has one written form.
-/

namespace Invoicing

/-- The sign after the opening braces, which says what a marker asks for. -/
inductive Sigil where
  /-- No sign, `{{Name}}`: the value stands here. -/
  | plain
  /-- `{{#Name}}` opens a block that is kept for a truthy value and repeated for a
  sequence. -/
  | hash
  /-- `{{^Name}}` opens a block that is kept when the value is absent or falsy. -/
  | caret
  /-- `{{/Name}}` closes a block. -/
  | slash
  deriving DecidableEq, Repr

namespace Sigil

/-- The sign as it is written. -/
def text : Sigil → Text
  | plain => []
  | hash => ['#']
  | caret => ['^']
  | slash => ['/']

/-- The sign at the start of a text, and the text after it. -/
def read : Text → Sigil × Text
  | '#' :: rest => (hash, rest)
  | '^' :: rest => (caret, rest)
  | '/' :: rest => (slash, rest)
  | text => (plain, text)

/-- Reading a sign loses nothing. -/
theorem text_append_read (text : Text) : (read text).1.text ++ (read text).2 = text := by
  unfold read
  split <;> rfl

end Sigil

/-- A marker of a template. -/
structure Marker where
  /-- What the marker asks for. -/
  sigil : Sigil
  /-- The name that the marker carries. -/
  name : Text
  deriving DecidableEq, Repr

namespace Marker

/-- Whether a character may stand in a name. -/
def isNameChar (char : Char) : Bool := Text.isAlphanumeric char || char == '_'

/-- A name is not empty and holds name characters only. -/
def IsName (name : Text) : Prop := name ≠ [] ∧ ∀ char ∈ name, isNameChar char

-- the characters of the name are tried, not all characters that there are
instance (name : Text) : Decidable (IsName name) :=
  have : Decidable (∀ char ∈ name, isNameChar char) := List.decidableBAll _ name
  instDecidableAnd

/-- The braces before a marker's sign. -/
def opening : Text := ['{', '{']

/-- The braces after a marker's name. -/
def closing : Text := ['}', '}']

/-- A marker as it is written. -/
def text (marker : Marker) : Text :=
  opening ++ (marker.sigil.text ++ (marker.name ++ closing))

/-- The marker that a text starts with, and the text after it. -/
def read? : Text → Option (Marker × Text)
  | '{' :: '{' :: inner =>
      let (sigil, body) := Sigil.read inner
      let name := body.takeWhile isNameChar
      match name.isEmpty, body.dropWhile isNameChar with
      | false, '}' :: '}' :: after => some (⟨sigil, name⟩, after)
      | _, _ => none
  | _ => none

/-! ### Signs and braces are no name characters -/

theorem isNameChar_hash : isNameChar '#' = false := by decide
theorem isNameChar_caret : isNameChar '^' = false := by decide
theorem isNameChar_slash : isNameChar '/' = false := by decide
theorem isNameChar_openBrace : isNameChar '{' = false := by decide
theorem isNameChar_closeBrace : isNameChar '}' = false := by decide

/-- A sign in front of a name is read as that sign. -/
theorem read_sigil_append (sigil : Sigil) {name : Text} (hname : IsName name) (rest : Text) :
    Sigil.read (sigil.text ++ (name ++ rest)) = (sigil, name ++ rest) := by
  cases sigil with
  | hash => rfl
  | caret => rfl
  | slash => rfl
  | plain =>
      obtain ⟨hne, hall⟩ := hname
      match name, hne with
      | head :: tail, _ =>
          have hhead : isNameChar head := hall head (by simp)
          simp only [Sigil.text, List.nil_append, List.cons_append]
          unfold Sigil.read
          split
          · next h => simp_all [isNameChar_hash]
          · next h => simp_all [isNameChar_caret]
          · next h => simp_all [isNameChar_slash]
          · rfl

/-! ### A marker has one written form -/

/-- Every marker with a proper name is read back from its written form. -/
theorem read?_text_append {marker : Marker} (hname : IsName marker.name) (rest : Text) :
    read? (marker.text ++ rest) = some (marker, rest) := by
  have hstop : ∀ tail : Text, (marker.name ++ '}' :: tail).takeWhile isNameChar = marker.name ∧
      (marker.name ++ '}' :: tail).dropWhile isNameChar = '}' :: tail := by
    intro tail
    rw [List.takeWhile_append_of_pos hname.2, List.dropWhile_append_of_pos hname.2]
    simp [isNameChar_closeBrace]
  have hempty : marker.name.isEmpty = false := by
    simpa using hname.1
  simp only [text, opening, closing, List.cons_append, List.nil_append, List.append_assoc, read?]
  rw [read_sigil_append marker.sigil hname]
  simp [hstop, hempty]

/-- What is read as a marker is the written form of that marker, and its name is proper. -/
theorem eq_text_append_of_read? {source rest : Text} {marker : Marker}
    (h : read? source = some (marker, rest)) :
    source = marker.text ++ rest ∧ IsName marker.name := by
  unfold read? at h
  split at h
  · next inner =>
      simp only at h
      split at h
      · next after hempty hdrop =>
          simp only [Option.some.injEq, Prod.mk.injEq] at h
          obtain ⟨rfl, rfl⟩ := h
          have hbody := List.takeWhile_append_dropWhile (p := isNameChar) (l := (Sigil.read inner).2)
          rw [hdrop] at hbody
          refine ⟨?_, by simpa using hempty, ?_⟩
          · simp only [text, opening, closing, List.cons_append, List.nil_append,
              List.append_assoc, hbody, Sigil.text_append_read]
          · intro char hchar
            have := List.all_takeWhile (p := isNameChar) (l := (Sigil.read inner).2)
            exact List.all_eq_true.1 this char hchar
      · simp at h
  · simp at h

theorem read?_eq_some_iff {source rest : Text} {marker : Marker} :
    read? source = some (marker, rest) ↔ source = marker.text ++ rest ∧ IsName marker.name := by
  constructor
  · exact eq_text_append_of_read?
  · rintro ⟨rfl, hname⟩
    exact read?_text_append hname rest

end Marker

end Invoicing
