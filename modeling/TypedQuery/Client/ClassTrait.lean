import TypedQuery.Client.Load
import TypedQuery.Query.Operand

/-!
# What classes say of themselves

A class answers a few names itself, whatever its body sets under them: its name, its bases, its
size. A field of such a name is set, and can be read from a response, but it cannot be had from the
class.

`ClassKind.trait?` is what a class says of itself under a name.
-/

namespace TypedQuery.Client

/-- The classes whose bodies have a line for each field. -/
inductive ClassKind where
  /-- The namespace of a type, which holds its tokens. -/
  | tokens
  /-- The response wrapper of a type, which holds its accessors. -/
  | accessors
  deriving DecidableEq

namespace ClassKind

/-- The bases of a class. -/
def bases : ClassKind → List String
  | .tokens => ["object"]
  | .accessors => ["gql_typed.runtime.response.Response", "typing.Generic"]

/-- Several classes as messages show them. -/
def shownClasses (names : List String) : String :=
  let shown := names.map fun name => "<class '" ++ name ++ "'>"
  "(" ++ ", ".intercalate shown ++ (if shown.length = 1 then ",)" else ")")

/-- Bits that say what objects of a class can do. -/
def flags : ClassKind → Int
  | .tokens => 22032
  | .accessors => 546320

/-- What a class says of itself under a name. -/
def trait? (kind : ClassKind) (className name : String) : Option Operand :=
  match name with
  | "__name__" => some (.json (.str className))
  | "__class__" => some (.classObject "type")
  | "__base__" => some (.classObject (kind.bases.headD ""))
  | "__bases__" => some (.other "tuple" (shownClasses kind.bases))
  | "__mro__" =>
    let line := (generatedModule ++ "." ++ className) :: kind.bases.filter (· != "object")
    some (.other "tuple" (shownClasses (line ++ ["object"])))
  | "__dict__" => some (.other "mappingproxy" "mappingproxy")
  | "__text_signature__" => some (.json .null)
  | "__basicsize__" => some (.json (.int 24))
  | "__itemsize__" => some (.json (.int 0))
  | "__dictoffset__" => some (.json (.int (-48)))
  | "__weakrefoffset__" => some (.json (.int 16))
  | "__flags__" => some (.json (.int kind.flags))
  | _ => none

end ClassKind

end TypedQuery.Client
