import Invoicing.Decimal.Numeral
import Invoicing.Text.Blank
import Invoicing.Text.Sorted

/-!
# Bindings and contexts

A context binds names to values for one rendering.  A name is bound either to a
scalar or to a sequence of contexts; sequences are what blocks repeat over.  The
entries of a context stand in ascending order of their names, each name once.

Main statement: a binding that was inserted is found, and hides none but an older one
of its name (`Context.get?_insert`).
-/

namespace Invoicing

/-- A value that is not a sequence. -/
inductive Scalar where
  /-- A flag. -/
  | bool (flag : Bool)
  /-- A text. -/
  | text (text : Text)
  /-- A whole number. -/
  | whole (number : Int)
  /-- A decimal, which keeps its scale. -/
  | decimal (number : Decimal)
  /-- Nothing. -/
  | null
  deriving DecidableEq, Repr

mutual

/-- What a name is bound to. -/
inductive Binding where
  /-- A single value. -/
  | scalar (value : Scalar)
  /-- One context for each repetition of a block. -/
  | sequence (items : List Context)

/-- The names that are bound, with their bindings. -/
structure Context where
  /-- The bindings in ascending order of their names. -/
  entries : List (Text × Binding)

end

namespace Scalar

/-- A scalar counts as true unless it is false, blank, zero or nothing. -/
def isTruthy : Scalar → Bool
  | .null => false
  | .bool flag => flag
  | .text content => !Text.isBlank content
  | .whole number => number != 0
  | .decimal number => !number.isZero

/-- A scalar as it stands in the output; nothing is the empty text. -/
def toText : Scalar → Text
  | .null => []
  | .bool true => "true".toList
  | .bool false => "false".toList
  | .text content => content
  | .whole number => Text.ofInt number
  | .decimal number => number.text

/-- Whether two scalars are of one shape and value; decimals may differ in scale. -/
def same : Scalar → Scalar → Bool
  | .decimal first, .decimal second => first.sameValue second
  | first, second => first == second

end Scalar

namespace Binding

/-- The binding to a text. -/
def ofText (content : Text) : Binding := .scalar (.text content)

/-- The binding to a flag. -/
def ofBool (flag : Bool) : Binding := .scalar (.bool flag)

/-- The binding to a text, or to nothing. -/
def ofText? : Option Text → Binding
  | some content => ofText content
  | none => .scalar .null

/-- A sequence counts as true unless it is empty. -/
def isTruthy : Binding → Bool
  | .scalar value => value.isTruthy
  | .sequence items => !items.isEmpty

/-- A binding as it stands in the output; of a sequence only its length is shown. -/
def toText : Binding → Text
  | .scalar value => value.toText
  | .sequence items => "[sequence; ".toList ++ (Text.ofNat items.length ++ [']'])

end Binding

namespace Context

/-- The context that binds nothing. -/
def empty : Context := ⟨[]⟩

instance : Inhabited Context := ⟨empty⟩

/-- What a name is bound to here. -/
def get? (context : Context) (name : Text) : Option Binding := context.entries.lookup name

/-- Whether a name is bound here. -/
def contains (context : Context) (name : Text) : Bool := (context.get? name).isSome

/-- The bound names in ascending order. -/
def names (context : Context) : List Text := context.entries.map Prod.fst

/-- The number of bound names. -/
def size (context : Context) : Nat := context.entries.length

/-- Whether nothing is bound. -/
def isEmpty (context : Context) : Bool := context.entries.isEmpty

/-- Binds a name, in place of an older binding of it. -/
def insert (context : Context) (name : Text) (binding : Binding) : Context :=
  ⟨Text.insertEntry name binding context.entries⟩

/-- The context with these bindings; of two of one name the later one counts. -/
def ofList (bindings : List (Text × Binding)) : Context :=
  bindings.foldl (fun context (name, binding) => context.insert name binding) empty

@[simp] theorem get?_empty (name : Text) : empty.get? name = none := rfl

@[simp] theorem get?_insert (context : Context) (name other : Text) (binding : Binding) :
    (context.insert name binding).get? other =
      if other = name then some binding else context.get? other := by
  simp [get?, insert]

/-- Of a list that names each name once, every binding is found. -/
theorem get?_ofList {bindings : List (Text × Binding)} (h : (bindings.map Prod.fst).Nodup)
    (name : Text) : (ofList bindings).get? name = bindings.lookup name := by
  have hfold : ∀ context : Context,
      (bindings.foldl (fun context (name, binding) => context.insert name binding)
        context).get? name = (bindings.lookup name).or (context.get? name) := by
    induction bindings with
    | nil =>
        intro context
        rfl
    | cons entry rest ih =>
        obtain ⟨key, binding⟩ := entry
        obtain ⟨hkey, hrest⟩ := List.nodup_cons.1 h
        intro context
        rw [List.foldl_cons, ih hrest, get?_insert, Text.lookup_cons_eq_ite]
        split
        · next hname =>
            -- no later binding of the name hides this one
            have hnone : rest.lookup name = none := Text.lookup_eq_none_iff.2 (hname ▸ hkey)
            rw [hnone, Option.none_or, Option.some_or]
        · rfl
  have hempty := hfold empty
  rwa [get?_empty, Option.or_none] at hempty

/-- Binding a name keeps the names in ascending order. -/
theorem pairwise_names_insert {context : Context} (h : context.names.Pairwise (· < ·))
    (name : Text) (binding : Binding) : (context.insert name binding).names.Pairwise (· < ·) :=
  Text.pairwise_map_fst_insertEntry name binding h

/-- A context that is made from a list has its names in ascending order. -/
theorem pairwise_names_ofList (bindings : List (Text × Binding)) :
    (ofList bindings).names.Pairwise (· < ·) := by
  have hstep : ∀ context : Context, context.names.Pairwise (· < ·) →
      (bindings.foldl (fun context (name, binding) => context.insert name binding)
        context).names.Pairwise (· < ·) := by
    induction bindings with
    | nil =>
        intro context h
        exact h
    | cons entry rest ih =>
        intro context h
        exact ih _ (pairwise_names_insert h entry.1 entry.2)
  exact hstep empty List.Pairwise.nil

end Context

/-! ### Equality of contexts

Two contexts are the same when they bind the same names to the same values, where
decimals are compared by value. -/

mutual

/-- Whether two bindings are the same. -/
def Binding.same : Binding → Binding → Bool
  | .scalar first, .scalar second => first.same second
  | .sequence first, .sequence second => Context.sameItems first second
  | _, _ => false

/-- Whether two contexts are the same. -/
def Context.same : Context → Context → Bool
  | ⟨first⟩, ⟨second⟩ => Context.sameEntries first second

/-- Whether two lists of contexts are the same. -/
def Context.sameItems : List Context → List Context → Bool
  | [], [] => true
  | first :: firstRest, second :: secondRest =>
      Context.same first second && Context.sameItems firstRest secondRest
  | _, _ => false

/-- Whether two lists of bindings are the same. -/
def Context.sameEntries : List (Text × Binding) → List (Text × Binding) → Bool
  | [], [] => true
  | (firstName, first) :: firstRest, (secondName, second) :: secondRest =>
      firstName == secondName && Binding.same first second &&
        Context.sameEntries firstRest secondRest
  | _, _ => false

end

end Invoicing
