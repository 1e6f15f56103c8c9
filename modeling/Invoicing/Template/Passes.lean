import Invoicing.Binding.Scope
import Invoicing.Marker.Block

/-!
# Rendering in three passes

A template is rendered by three passes over the whole text, always in this order and
each exactly once.

* `resolveSections` keeps or drops the blocks that depend on a single value: first
  all `#` blocks, then all `^` blocks of the result.  A `#` block over a sequence is
  left for the next pass.
* `expandLoops` repeats each remaining `#` block over its sequence, and drops it when
  its name is bound to no sequence.
* `fillValues` puts the values of plain markers in.

No pass looks again at what it has put in, and none fails: an unknown name gives
nothing, and a marker out of place stays as it is.
-/

namespace Invoicing.Template

/-- The text for a `#` block in the first pass. -/
def keepOrDrop (scope : Scope) (block : Block) : Text :=
  match scope.lookup? block.name with
  | some (.sequence _) => block.text .hash
  | some (.scalar value) => if value.isTruthy then block.body else []
  | none => []

/-- The blocks that depend on a single value, kept or dropped. -/
def resolveSections (scope : Scope) (source : Text) : Text :=
  replaceBlocks .caret (fun block => if scope.isTruthy block.name then [] else block.body)
    (replaceBlocks .hash (keepOrDrop scope) source)

/-- The values of plain markers, put in. -/
def fillValues (scope : Scope) (source : Text) : Text := replaceValues scope.toText source

/-- The text for a `#` block in the second pass.  Its body is rendered once for each
element, without a loop pass of its own. -/
def repeatBody (scope : Scope) (block : Block) : Text :=
  match scope.lookup? block.name with
  | some (.sequence items) =>
      items.flatMap fun item =>
        fillValues (scope.push item) (resolveSections (scope.push item) block.body)
  | _ => []

/-- The blocks that repeat over a sequence, written out. -/
def expandLoops (scope : Scope) (source : Text) : Text :=
  replaceBlocks .hash (repeatBody scope) source

/-- A template text rendered in a context. -/
def renderText (source : Text) (context : Context) : Text :=
  let scope := Scope.ofContext context
  fillValues scope (expandLoops scope (resolveSections scope source))

end Invoicing.Template
