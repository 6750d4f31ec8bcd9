import TypedQuery.Table
import TypedQuery.Number.Binary64

/-!
# JSON values

Numbers written with a fraction or an exponent are doubles, all others are integers of any size.
Objects keep the order of their members, and a member that comes twice keeps its first place and
its last value.
-/

namespace TypedQuery

/-- A JSON value. `wide` is a string that holds a surrogate without its partner, given by its code
points; it is no text, so `str` cannot hold it. -/
inductive Json where
  | null
  | bool (value : Bool)
  | int (value : Int)
  | float (value : Binary64)
  | str (value : String)
  | wide (points : List Nat)
  | list (items : List Json)
  | object (members : List (String × Json))

namespace Json

/-- The member `name` of an object. -/
def member? : Json → String → Option Json
  | .object ms, name => Table.get? ms name
  | _, _ => none

/-- Whether the value counts as something: null, false, zero and everything empty do not. -/
def isTruthy : Json → Bool
  | .null => false
  | .bool b => b
  | .int i => i != 0
  | .float (.finite _ m _) => m != 0
  | .float _ => true
  | .str s => !s.isEmpty
  | .wide ps => !ps.isEmpty
  | .list xs => !xs.isEmpty
  | .object ms => !ms.isEmpty

end Json

end TypedQuery
