import Invoicing.Binding.Basic

/-!
# Scopes

While a block repeats over a sequence, the names of the current element hide those of
the context around it.  A scope is that stack of contexts; a name is looked up from
the innermost one outwards.

Main statement: laying contexts over one another finds what copying them into one
context finds (`Scope.lookup?_flatten`).
-/

namespace Invoicing

/-- A context with others laid over it. -/
structure Scope where
  /-- The outermost context. -/
  root : Context
  /-- The contexts laid over it, the innermost first. -/
  overlays : List Context

namespace Scope

/-- The scope of a context alone. -/
def ofContext (root : Context) : Scope := ⟨root, []⟩

/-- The scope with one more context laid over it. -/
def push (scope : Scope) (item : Context) : Scope :=
  { scope with overlays := item :: scope.overlays }

/-- The number of contexts. -/
def depth (scope : Scope) : Nat := scope.overlays.length + 1

/-- What a name is bound to in the innermost context that binds it. -/
def lookup? (scope : Scope) (name : Text) : Option Binding :=
  (scope.overlays.findSome? (·.get? name)).or (scope.root.get? name)

@[simp] theorem lookup?_ofContext (root : Context) (name : Text) :
    (ofContext root).lookup? name = root.get? name := rfl

theorem lookup?_push (scope : Scope) (item : Context) (name : Text) :
    (scope.push item).lookup? name = (item.get? name).or (scope.lookup? name) := by
  simp only [lookup?, push, List.findSome?_cons]
  cases item.get? name <;> simp

/-- Whether a name is bound to something that counts as true. -/
def isTruthy (scope : Scope) (name : Text) : Bool := (scope.lookup? name).any Binding.isTruthy

/-- What stands in the output for a name; nothing for one that is not bound. -/
def toText (scope : Scope) (name : Text) : Text := ((scope.lookup? name).map Binding.toText).getD []

end Scope

/-- The context with all bindings of another one inserted. -/
def Context.overlay (context item : Context) : Context :=
  item.entries.foldr (fun (name, binding) merged => merged.insert name binding) context

theorem Context.get?_overlay (context item : Context) (name : Text) :
    (context.overlay item).get? name = (item.get? name).or (context.get? name) := by
  obtain ⟨entries⟩ := item
  induction entries with
  | nil => simp [Context.overlay, Context.get?]
  | cons entry rest ih =>
      obtain ⟨key, binding⟩ := entry
      have hstep : context.overlay ⟨(key, binding) :: rest⟩ =
          (context.overlay ⟨rest⟩).insert key binding := rfl
      rw [hstep, Context.get?_insert, ih]
      simp only [Context.get?, Text.lookup_cons_eq_ite]
      split <;> simp

/-- All contexts of a scope copied into one, from the outermost to the innermost. -/
def Scope.flatten (scope : Scope) : Context :=
  scope.overlays.foldr (fun item merged => merged.overlay item) scope.root

theorem Scope.lookup?_flatten (scope : Scope) (name : Text) :
    scope.flatten.get? name = scope.lookup? name := by
  obtain ⟨root, overlays⟩ := scope
  induction overlays with
  | nil => rfl
  | cons item rest ih =>
      have : (Scope.mk root (item :: rest)).lookup? name =
          (item.get? name).or ((Scope.mk root rest).lookup? name) :=
        Scope.lookup?_push ⟨root, rest⟩ item name
      rw [this, ← ih]
      simp [Scope.flatten, Context.get?_overlay]

end Invoicing
