/-
  Foundation/Json.lean --- JSON values, and the ways a program looks into a document it did
  not write.

  A document is read through accessors that answer nothing where the value is of another kind
  or the member is missing, so every document has a meaning and none is refused for its shape.
-/
import ConstellationMonitor.Foundation.Text

namespace ConstellationMonitor.Foundation

/-- A JSON value.  The members of an object are listed in the order of their names, one for
each name; a number is an integer or the bits of a 64-bit float. -/
inductive Json where
  | null
  | bool (value : Bool)
  | integer (value : Int)
  | real (bits : UInt64)
  | text (value : Text)
  | array (items : List Json)
  | object (members : List (Text × Json))

namespace Json

/-- `Value::as_object`. -/
def asObject : Json → Option (List (Text × Json))
  | .object members => some members
  | _ => none

/-- The member of an object with a name. -/
def member (name : Text) : List (Text × Json) → Option Json
  | [] => none
  | (other, value) :: rest => if other = name then some value else member name rest

/-- `Value::get` by name. -/
def get (value : Json) (name : Text) : Option Json :=
  match value with
  | .object members => member name members
  | _ => none

/-- `Value::as_str`. -/
def asStr : Json → Option Text
  | .text value => some value
  | _ => none

/-- `Value::as_u64`. -/
def asU64 : Json → Option UInt64
  | .integer value => if 0 ≤ value ∧ value < 2 ^ 64 then some (.ofNat value.toNat) else none
  | _ => none

end Json

end ConstellationMonitor.Foundation
