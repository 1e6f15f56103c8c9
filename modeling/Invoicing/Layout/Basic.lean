import Invoicing.Layout.Classic
import Invoicing.Layout.Minimal
import Invoicing.Layout.Modern
import Invoicing.Layout.Professional
import Invoicing.Text.Blank

/-!
# The bundled layouts

An invoice comes in one of four layouts, each of them a template that needs nothing
but the names bound for an invoice.  A layout can be chosen by its name in any case.
-/

namespace Invoicing

/-- A bundled layout. -/
inductive Layout where
  /-- A header band with a table of totals. -/
  | professional
  /-- A coloured banner and cards. -/
  | modern
  /-- A bordered table under a ruled heading. -/
  | classic
  /-- A single column without tables. -/
  | minimal
  deriving DecidableEq, Repr

/-- The text that should name a layout and does not. -/
structure UnknownLayout where
  /-- The text as it was given. -/
  given : Text
  deriving DecidableEq, Repr

/-- The error as it is reported. -/
def UnknownLayout.message (error : UnknownLayout) : Text :=
  "template error: unknown template kind \"".toList ++ (error.given ++
    "\" (expected one of: professional, modern, classic, minimal)".toList)

namespace Layout

/-- All layouts in the order in which they are offered. -/
def all : List Layout := [professional, modern, classic, minimal]

/-- The name of a layout. -/
def name : Layout → Text
  | professional => "professional".toList
  | modern => "modern".toList
  | classic => "classic".toList
  | minimal => "minimal".toList

/-- The name of a layout as a title. -/
def title : Layout → Text
  | professional => "Professional".toList
  | modern => "Modern".toList
  | classic => "Classic".toList
  | minimal => "Minimal".toList

/-- The template of a layout. -/
def outline : Layout → Outline
  | professional => professionalOutline
  | modern => modernOutline
  | classic => classicOutline
  | minimal => minimalOutline

/-- The template text of a layout. -/
def body (layout : Layout) : Text := Outline.source layout.outline

/-- The layout with a name. -/
def ofName? (name : Text) : Option Layout := all.find? fun layout => layout.name == name

/-- The layout that a user names; white space around the name and the case of ASCII
letters do not count. -/
def choose (given : Text) : Except UnknownLayout Layout :=
  match ofName? ((Text.trim given).map Char.toLower) with
  | some layout => .ok layout
  | none => .error ⟨given⟩

end Layout

end Invoicing
