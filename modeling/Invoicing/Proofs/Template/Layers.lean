import Invoicing.Template.Passes

/-!
# Contexts laid over one another

A block over a sequence lays each element over the context around it and copies nothing: a name is
looked up from the innermost context outwards.  One can also copy: start from the outermost context
and insert the bindings of one layer after another, so that later ones replace earlier ones.

Both give every pass the same.  Main statement: `passes_foldl_push`.

The passes see a scope through `Scope.lookup?` only, so it is enough that the two scopes find the
same under every name (`Scope.Agree`).  The loop pass makes new scopes while it runs; they agree
again, since it lays the same element over both (`Scope.Agree.push`).
-/

namespace Invoicing

namespace Scope

/-- Two scopes find the same under every name. -/
def Agree (first second : Scope) : Prop := ∀ name, first.lookup? name = second.lookup? name

variable {first second : Scope}

/-- Scopes still agree when one context is laid over both. -/
theorem Agree.push (h : Agree first second) (item : Context) :
    Agree (first.push item) (second.push item) := by
  intro name
  rw [lookup?_push, lookup?_push, h name]

theorem Agree.isTruthy_eq (h : Agree first second) : first.isTruthy = second.isTruthy := by
  funext name
  rw [isTruthy, isTruthy, h name]

theorem Agree.toText_eq (h : Agree first second) : first.toText = second.toText := by
  funext name
  rw [toText, toText, h name]

/-- Copying all layers of a scope is copying them one after another. -/
theorem flatten_foldl_push (scope : Scope) (layers : List Context) :
    (layers.foldl push scope).flatten = layers.foldl Context.overlay scope.flatten := by
  induction layers generalizing scope with
  | nil => rfl
  | cons item rest ih =>
      have hpush : (scope.push item).flatten = scope.flatten.overlay item := rfl
      rw [List.foldl_cons, List.foldl_cons, ih, hpush]

theorem agree_foldl_push (root : Context) (layers : List Context) :
    Agree (layers.foldl push (ofContext root)) (ofContext (layers.foldl Context.overlay root)) := by
  intro name
  rw [← lookup?_flatten, flatten_foldl_push, lookup?_ofContext]
  rfl

end Scope

namespace Template

/-! ## Passes in scopes that agree -/

section Agree

variable {first second : Scope}

theorem keepOrDrop_eq_of_agree (h : Scope.Agree first second) :
    keepOrDrop first = keepOrDrop second := by
  funext block
  rw [keepOrDrop, keepOrDrop, h block.name]

theorem resolveSections_eq_of_agree (h : Scope.Agree first second) :
    resolveSections first = resolveSections second := by
  funext source
  rw [resolveSections, resolveSections, keepOrDrop_eq_of_agree h, h.isTruthy_eq]

theorem fillValues_eq_of_agree (h : Scope.Agree first second) :
    fillValues first = fillValues second := by
  funext source
  rw [fillValues, fillValues, h.toText_eq]

/-- The bodies of a block are the same in both scopes, element by element. -/
theorem repeatBody_eq_of_agree (h : Scope.Agree first second) :
    repeatBody first = repeatBody second := by
  funext block
  have hitem : ∀ item : Context,
      fillValues (first.push item) (resolveSections (first.push item) block.body) =
        fillValues (second.push item) (resolveSections (second.push item) block.body) := by
    intro item
    have hpush : Scope.Agree (first.push item) (second.push item) := h.push item
    rw [resolveSections_eq_of_agree hpush, fillValues_eq_of_agree hpush]
  rw [repeatBody, repeatBody, h block.name]
  simp only [hitem]

theorem expandLoops_eq_of_agree (h : Scope.Agree first second) :
    expandLoops first = expandLoops second := by
  funext source
  rw [expandLoops, expandLoops, repeatBody_eq_of_agree h]

end Agree

/-- **Laying contexts over one another is copying them into one**, for what a name is bound to and
for each of the three passes. -/
theorem passes_foldl_push (root : Context) (layers : List Context) (source : Text) :
    let scope := layers.foldl Scope.push (.ofContext root)
    let copied := layers.foldl Context.overlay root
    (∀ name, scope.lookup? name = copied.get? name) ∧
      resolveSections scope source = resolveSections (.ofContext copied) source ∧
      expandLoops scope source = expandLoops (.ofContext copied) source ∧
      fillValues scope source = fillValues (.ofContext copied) source := by
  have hagree := Scope.agree_foldl_push root layers
  refine ⟨hagree, ?_, ?_, ?_⟩
  · rw [resolveSections_eq_of_agree hagree]
  · rw [expandLoops_eq_of_agree hagree]
  · rw [fillValues_eq_of_agree hagree]

end Template

end Invoicing
