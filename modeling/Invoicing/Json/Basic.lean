import Invoicing.Binary64.Basic
import Invoicing.Text.Sorted

/-!
# JSON documents

A document is a value of `Json`.  Numbers keep what is exact about them: a whole
number that fits 64 bits, signed or unsigned, stays whole, and every other number is
a binary64 number.  The members of an object stand in ascending order of their
names, each name once; `Json.ofMembers` brings them into that form.
-/

namespace Invoicing

/-- A number of a document. -/
inductive JsonNumber where
  /-- A whole number from `-2 ^ 63` to `2 ^ 64 - 1`, written without point or exponent. -/
  | whole (number : Int)
  /-- Any other number. -/
  | real (number : Binary64)
  deriving DecidableEq, Repr

/-- A JSON value. -/
inductive Json where
  /-- `null`. -/
  | null
  /-- `true` or `false`. -/
  | bool (flag : Bool)
  /-- A number. -/
  | number (number : JsonNumber)
  /-- A string. -/
  | string (text : Text)
  /-- An array. -/
  | array (items : List Json)
  /-- An object. -/
  | object (members : List (Text × Json))
  deriving Repr

namespace Json

instance : Inhabited Json := ⟨.null⟩

/-- The shapes of a value. -/
inductive Kind where
  /-- `null`. -/
  | null
  /-- `true` or `false`. -/
  | bool
  /-- A number. -/
  | number
  /-- A string. -/
  | string
  /-- An array. -/
  | array
  /-- An object. -/
  | object
  deriving DecidableEq, Repr

/-- The shape of a value. -/
def kind : Json → Kind
  | .null => .null
  | .bool _ => .bool
  | .number _ => .number
  | .string _ => .string
  | .array _ => .array
  | .object _ => .object

/-- How a message speaks of a shape. -/
def Kind.phrase : Kind → Text
  | .null => "null".toList
  | .bool => "a boolean".toList
  | .number => "a number".toList
  | .string => "a string".toList
  | .array => "an array".toList
  | .object => "an object".toList

/-- The object with these members; of two with one name the later one counts. -/
def ofMembers (members : List (Text × Json)) : Json :=
  .object (members.foldl (fun sorted (name, value) => Text.insertEntry name value sorted) [])

/-- The member of an object with a name; other values have no members. -/
def member? (name : Text) : Json → Option Json
  | .object members => members.lookup name
  | _ => none

/-- A whole number as a value. -/
def ofNat (number : Nat) : Json := .number (.whole number)

/-- A string literal as a value. -/
def ofString (text : String) : Json := .string text.toList

end Json

end Invoicing
