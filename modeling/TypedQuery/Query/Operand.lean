import TypedQuery.Number.Residue
import TypedQuery.Query.Builder
import TypedQuery.Response.Value

/-!
# Things that a caller holds

A caller of a generated client holds JSON values, values that were read, tokens, accessors, builders
and requests, and may compare any two of them or hand any of them to a builder.

* `Operand.equal`: whether two of them are equal.
* `Operand.hashKey`: what a hash is made from. Equal operands have equal keys, and so have a few
  others: numbers with the same residue, and the empty text with zero.
-/

namespace TypedQuery

/-- Anything that a caller holds. -/
inductive Operand where
  | json (value : Json)
  | value (value : Value)
  | token (value : FieldToken)
  | accessor (value : Accessor)
  | builder (value : Builder)
  | request (value : Request)
  /-- A class, with the module that it is in. -/
  | classObject (name : String)
  /-- Anything else, known by its class and by how messages show it. -/
  | other (className shown : String)

namespace Operand

/-- The operand as an argument of `select`. -/
def argument : Operand → SelectArgument
  | .json .null => .none
  | .json v => .other v.literal
  | .value .null => .none
  | .value v => .other v.literal
  | .token t => .token t
  | .accessor a => .accessor a
  | .builder b => .builder b
  | .request r => .other r.literal
  | .classObject name => .other ("<class '" ++ name ++ "'>")
  | .other _ shown => .other shown

/-- Whether two operands are equal, where a number that is not one equals its likes. Builders are
equal if they select the same, tokens and accessors if they are of the same class. -/
def same : Operand → Operand → Bool
  | .json a, .json b => Json.same a b
  | .value v, .value w => Value.same v w
  | .json a, .value w => (w.toJson?.map (Json.same a)).getD false
  | .value v, .json b => (v.toJson?.map (Json.same · b)).getD false
  | .token t, .token u => t.className == u.className
  | .accessor a, .accessor b => a.className == b.className
  | .builder a, .builder b => a.selectionSet == b.selectionSet
  | .request a, .request b => a == b
  | .classObject a, .classObject b => a == b
  | .other _ a, .other _ b => a == b
  | _, _ => false

/-- Whether the operand is the number that is not one. -/
def isNan : Operand → Bool
  | .json (.float .nan) => true
  | .value (.float .nan) => true
  | _ => false

/-- Whether two operands are equal. -/
def equal (a b : Operand) : Bool := !(a.isNan && b.isNan) && a.same b

/-- What the hash of an operand is made from. -/
inductive HashKey where
  | null
  | number (residue : Int)
  | notANumber
  | text (points : List Nat)
  | tokenClass (name : String)
  | accessorClass (name : String)
  | selection (value : SelectionSet)
  | request (value : Request)
  | classObject (name : String)
  | other (shown : String)
  deriving DecidableEq

/-- The key of a text. The empty text has the key of zero. -/
def HashKey.ofText (points : List Nat) : HashKey :=
  if points.isEmpty then .number 0 else .text points

/-- The key of a JSON value, or the class that cannot be hashed. -/
def jsonKey : Json → Except String HashKey
  | .null => .ok .null
  | .bool b => .ok (.number (Residue.ofInt (if b then 1 else 0)))
  | .int i => .ok (.number (Residue.ofInt i))
  | .float x => .ok (((Residue.ofBinary64? x).map HashKey.number).getD .notANumber)
  | .str s => .ok (.ofText (s.toList.map Char.toNat))
  | .wide points => .ok (.ofText points)
  | .list _ => .error "list"
  | .object _ => .error "dict"

/-- The key of an operand, or the class that cannot be hashed. -/
def hashKey : Operand → Except String HashKey
  | .json v => jsonKey v
  | .value (.list _) => .error "list"
  | .value (.response r) => .error r.wrapper
  | .value v => jsonKey (v.leaf?.getD .null)
  | .token t => .ok (.tokenClass t.className)
  | .accessor a => .ok (.accessorClass a.className)
  | .builder b => .ok (.selection b.selectionSet)
  | .request r => .ok (.request r)
  | .classObject name => .ok (.classObject name)
  | .other "tuple" shown => .ok (.other shown)
  | .other cls _ => .error cls

/-- Whether the hashes of two operands are equal. Otherwise the class of the first that cannot be
hashed. -/
def hashEqual (a b : Operand) : Except String Bool := do
  let k ← a.hashKey
  return k == (← b.hashKey)

end Operand

end TypedQuery
