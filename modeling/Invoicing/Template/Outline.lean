import Invoicing.Template.Passes

/-!
# Outlines: templates without nested blocks

An outline is the structure of a template whose blocks hold no further blocks.  It is
written as a template text by `Outline.source`, and `Outline.evaluate` says directly,
in one step, what that template shows in a scope.
-/

namespace Invoicing

/-- A piece of a template outside block markers. -/
inductive Piece where
  /-- Literal text. -/
  | text (content : Text)
  /-- The value of a name. -/
  | value (name : Text)
  deriving DecidableEq, Repr

/-- A part of an outline. -/
inductive Node where
  /-- Literal text or a value. -/
  | piece (piece : Piece)
  /-- A `#` block: kept for a truthy value, repeated for a sequence. -/
  | positive (name : Text) (body : List Piece)
  /-- A `^` block: kept when the value is absent or falsy. -/
  | negative (name : Text) (body : List Piece)
  deriving DecidableEq, Repr

/-- A template without nested blocks. -/
abbrev Outline := List Node

namespace Piece

/-- The piece as it is written in a template. -/
def source : Piece → Text
  | text content => content
  | value name => (Marker.mk .plain name).text

/-- What the piece shows. -/
def evaluate (scope : Scope) : Piece → Text
  | text content => content
  | value name => scope.toText name

/-- Pieces one after another, as they are written. -/
def sourceAll (pieces : List Piece) : Text := pieces.flatMap source

/-- What pieces one after another show. -/
def evaluateAll (scope : Scope) (pieces : List Piece) : Text := pieces.flatMap (evaluate scope)

end Piece

namespace Node

/-- The part as it is written in a template. -/
def source : Node → Text
  | piece part => part.source
  | positive name body => Block.text .hash ⟨name, Piece.sourceAll body⟩
  | negative name body => Block.text .caret ⟨name, Piece.sourceAll body⟩

/-- What the part shows. -/
def evaluate (scope : Scope) : Node → Text
  | piece part => part.evaluate scope
  | positive name body =>
      match scope.lookup? name with
      | none => []
      | some (.scalar held) => if held.isTruthy then Piece.evaluateAll scope body else []
      | some (.sequence items) =>
          items.flatMap fun item => Piece.evaluateAll (scope.push item) body
  | negative name body =>
      if scope.isTruthy name then [] else Piece.evaluateAll scope body

end Node

namespace Outline

/-- The template text of an outline. -/
def source (outline : Outline) : Text := outline.flatMap Node.source

/-- What an outline shows. -/
def evaluate (scope : Scope) (outline : Outline) : Text := outline.flatMap (Node.evaluate scope)

/-- A literal text outside blocks. -/
def text (content : String) : Node := .piece (.text content.toList)

/-- The value of a name outside blocks. -/
def value (name : String) : Node := .piece (.value name.toList)

/-- A literal text inside a block. -/
def lit (content : String) : Piece := .text content.toList

/-- The value of a name inside a block. -/
def val (name : String) : Piece := .value name.toList

/-- A `#` block. -/
def whenTrue (name : String) (body : List Piece) : Node := .positive name.toList body

/-- A `^` block. -/
def whenFalse (name : String) (body : List Piece) : Node := .negative name.toList body

end Outline

end Invoicing
