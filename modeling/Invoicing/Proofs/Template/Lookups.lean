import Invoicing.Template.Passes
import Mathlib.Data.List.Basic

/-!
# Where a rendering looks names up

A rendering looks names up in its context and, in the body of a block over a sequence, in its
context with an element of that sequence laid over it (`Context.Opens`).

Main statement: `Template.renderTextBy_eq_renderText`.  The rendering stays the same if names are
looked up in any other way that agrees with these scopes, so it looks names up nowhere else.
-/

namespace Invoicing

/-- The scopes of a rendering in a context. -/
inductive Context.Opens (context : Context) : Scope → Prop
  /-- The context alone. -/
  | around : context.Opens (.ofContext context)
  /-- The context with an element of one of its sequences laid over it. -/
  | element {name : Text} {items : List Context} {item : Context}
      (hbound : (Scope.ofContext context).lookup? name = some (.sequence items))
      (hitem : item ∈ items) : context.Opens ((Scope.ofContext context).push item)

namespace Template

/-! ## The passes, with names looked up in some way -/

/-- The text for a `#` block in the first pass, by what its name is bound to. -/
def keepOrDropBy (found : Text → Option Binding) (block : Block) : Text :=
  match found block.name with
  | some (.sequence _) => block.text .hash
  | some (.scalar value) => if value.isTruthy then block.body else []
  | none => []

/-- The blocks that depend on a single value, kept or dropped. -/
def resolveSectionsBy (found : Text → Option Binding) (source : Text) : Text :=
  replaceBlocks .caret
    (fun block => if (found block.name).any Binding.isTruthy then [] else block.body)
    (replaceBlocks .hash (keepOrDropBy found) source)

/-- The values of plain markers, put in. -/
def fillValuesBy (found : Text → Option Binding) (source : Text) : Text :=
  replaceValues (fun name => ((found name).map Binding.toText).getD []) source

/-- The text for a `#` block in the second pass. -/
def repeatBodyBy (find : Scope → Text → Option Binding) (scope : Scope) (block : Block) : Text :=
  match find scope block.name with
  | some (.sequence items) =>
      items.flatMap fun item =>
        fillValuesBy (find (scope.push item)) (resolveSectionsBy (find (scope.push item)) block.body)
  | _ => []

/-- The rendering, with each name looked up by `find`. -/
def renderTextBy (find : Scope → Text → Option Binding) (source : Text) (context : Context) :
    Text :=
  let scope := Scope.ofContext context
  fillValuesBy (find scope)
    (replaceBlocks .hash (repeatBodyBy find scope) (resolveSectionsBy (find scope) source))

theorem resolveSectionsBy_lookup? (scope : Scope) :
    resolveSectionsBy scope.lookup? = resolveSections scope := rfl

theorem fillValuesBy_lookup? (scope : Scope) :
    fillValuesBy scope.lookup? = fillValues scope := rfl

/-! ## Other ways to look names up -/

variable {find : Scope → Text → Option Binding} {context : Context}

theorem repeatBodyBy_eq_repeatBody
    (h : ∀ scope, context.Opens scope → find scope = scope.lookup?) :
    repeatBodyBy find (.ofContext context) = repeatBody (.ofContext context) := by
  funext block
  rw [repeatBodyBy, repeatBody, h _ .around]
  cases hbound : (Scope.ofContext context).lookup? block.name with
  | none => rfl
  | some binding =>
      cases binding with
      | scalar value => rfl
      | sequence items =>
          refine List.flatMap_congr fun item hitem => ?_
          rw [h _ (.element hbound hitem), fillValuesBy_lookup?, resolveSectionsBy_lookup?]

/-- **A rendering looks names up in the scopes that it opens, and nowhere else.** -/
theorem renderTextBy_eq_renderText
    (h : ∀ scope, context.Opens scope → find scope = scope.lookup?) (source : Text) :
    renderTextBy find source context = renderText source context := by
  rw [renderTextBy, renderText, repeatBodyBy_eq_repeatBody h, h _ .around, fillValuesBy_lookup?,
    resolveSectionsBy_lookup?, expandLoops]

end Template

end Invoicing
