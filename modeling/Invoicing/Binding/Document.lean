import Invoicing.Binding.Basic
import Invoicing.Json.Basic
import Invoicing.Binary64.Shortest

/-!
# Contexts from JSON documents

An object is a context when each of its members is a scalar or an array of such
objects.  A whole number that fits 64 bits with a sign stays whole; every other
number becomes a decimal.  Members are converted in the order of their names and the
items of an array in theirs, so the first member that has no binding is the one that
the error is about.
-/

namespace Invoicing

/-- Why a document is not a context. -/
inductive BindingError where
  /-- The document is something other than an object. -/
  | rootNotObject (kind : Json.Kind)
  /-- The array of a field holds something other than objects. -/
  | itemNotObject (field : Text) (kind : Json.Kind)
  /-- A field is an object outside an array. -/
  | nestedObject (field : Text)
  /-- A field is a number that no decimal comes near. -/
  | numberOutOfRange (field : Text)
  deriving DecidableEq, Repr

namespace BindingError

/-- What is wrong, in words. -/
def reason : BindingError → Text
  | .rootNotObject kind =>
      "context root must be a JSON object, got ".toList ++ kind.phrase
  | .itemNotObject field kind =>
      "sequence field `".toList ++ (field ++ ("` must contain only objects, found ".toList ++
        kind.phrase))
  | .nestedObject field =>
      "field `".toList ++ (field ++
        "` is a nested object; only scalars and arrays of objects can be bound".toList)
  | .numberOutOfRange field =>
      "field `".toList ++ (field ++ "` holds a number outside the decimal range".toList)

/-- The error as it is reported. -/
def message (error : BindingError) : Text := "binding error: ".toList ++ error.reason

/-- Whether a failed conversion of a number lies under the error. -/
def hasCause : BindingError → Bool
  | .numberOutOfRange _ => true
  | _ => false

end BindingError

namespace Context

/-- The scalar for a number, or none outside the range of decimals. -/
def scalarOfNumber? : JsonNumber → Option Scalar
  | .whole number =>
      if -2 ^ 63 ≤ number ∧ number < 2 ^ 63 then some (.whole number)
      else (Decimal.of? number 0).map .decimal
  | .real number => (Decimal.read? (number.text .compact)).map .decimal

mutual

/-- The binding for a field. -/
def bindingOfJson (field : Text) : Json → Except BindingError Binding
  | .null => .ok (.scalar .null)
  | .bool flag => .ok (.scalar (.bool flag))
  | .string content => .ok (.scalar (.text content))
  | .number number =>
      match scalarOfNumber? number with
      | some value => .ok (.scalar value)
      | none => .error (.numberOutOfRange field)
  | .array items => do
      let contexts ← itemsOfJson field items
      return .sequence contexts
  | .object _ => .error (.nestedObject field)

/-- The contexts for the items of an array that a field holds. -/
def itemsOfJson (field : Text) : List Json → Except BindingError (List Context)
  | [] => .ok []
  | .object members :: rest => do
      let entries ← entriesOfJson members
      let contexts ← itemsOfJson field rest
      return ⟨entries⟩ :: contexts
  | item :: _ => .error (.itemNotObject field item.kind)

/-- The bindings for the members of an object. -/
def entriesOfJson : List (Text × Json) → Except BindingError (List (Text × Binding))
  | [] => .ok []
  | (name, value) :: rest => do
      let binding ← bindingOfJson name value
      let entries ← entriesOfJson rest
      return (name, binding) :: entries

end

/-- The context for a document. -/
def ofJson : Json → Except BindingError Context
  | .object members => do
      let entries ← entriesOfJson members
      return ⟨entries⟩
  | other => .error (.rootNotObject other.kind)

end Context

end Invoicing
