import Invoicing.Json.Basic

/-!
# Decoding the fields of records

A record is read from an object field by field.  A field is required, or has a value
that stands when it is missing; members that are no field do not count.
-/

namespace Invoicing.Json

/-- The text of a string. -/
def text? : Json → Option Text
  | .string content => some content
  | _ => none

/-- The flag of `true` or `false`. -/
def bool? : Json → Option Bool
  | .bool flag => some flag
  | _ => none

/-- The items of an array. -/
def items? : Json → Option (List Json)
  | .array items => some items
  | _ => none

/-- An octet, from a whole number. -/
def octet? : Json → Option UInt8
  | .number (.whole value) =>
      if 0 ≤ value ∧ value < 256 then some (UInt8.ofNat value.toNat) else none
  | _ => none

/-- The name of a choice: a string, or an object whose only member is that name with
`null`. -/
def choice? : Json → Option Text
  | .string name => some name
  | .object [(name, .null)] => some name
  | _ => none

/-- Whether a value is an object. -/
def isObject (value : Json) : Bool := value.kind == .object

/-- A list of records from an array. -/
def listOf? {α : Type} (decode : Json → Option α) (value : Json) : Option (List α) :=
  value.items? >>= List.mapM decode

/-- A value that may be `null` instead. -/
def nullable? {α : Type} (decode : Json → Option α) : Json → Option (Option α)
  | .null => some none
  | value => (decode value).map some

/-- A required field of a record. -/
def field? {α : Type} (record : Json) (name : String) (decode : Json → Option α) : Option α :=
  record.member? name.toList >>= decode

/-- A field of a record with the value that stands when it is missing. -/
def fieldOr? {α : Type} (record : Json) (name : String) (decode : Json → Option α)
    (default : α) : Option α :=
  match record.member? name.toList with
  | some value => decode value
  | none => some default

/-- The value for a text, or `null`. -/
def ofText? : Option Text → Json
  | some content => .string content
  | none => .null

/-- The object with these fields. -/
def record (fields : List (String × Json)) : Json :=
  ofMembers (fields.map fun (name, value) => (name.toList, value))

end Invoicing.Json
