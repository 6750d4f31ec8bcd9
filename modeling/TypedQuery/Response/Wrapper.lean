import TypedQuery.Response.Decoder

/-!
# Response wrappers

A response wrapper gives access to an answer field by field. Reading a field decodes that field and
nothing else, so a mismatch shows only where it is read.

* `Response.wrap`: puts an answer into a wrapper; it must be an object.
* `Response.read`: reads a field through its accessor.
-/

namespace TypedQuery

/-- What reads one field of a response. -/
structure Accessor where
  /-- The accessor's class in the generated module. -/
  className : String
  /-- The field's name in answers. -/
  field : String
  decoder : Decoder
  deriving DecidableEq

/-- An accessor as messages show it; see `Decoder.render`. -/
def Accessor.render (a : Accessor) : Except String String := do
  return "<accessor " ++ a.field ++ ": " ++ (← a.decoder.render) ++ ">"

namespace Response

/-- Puts an answer into a wrapper. What kind of answer it is shows only once the wrapper is
filled. -/
def wrap (scope : WrapperScope) (wrapper : String) (path : Path) (answer : Json) :
    Except DecodeError Response :=
  match scope.faults.get? wrapper, answer with
  | some (.creation accessor), _ => .error (.unwrappable (.creation accessor))
  | some (.filling w), _ => .error (.unwrappable (.filling w))
  | _, .object members => make scope wrapper path members
  | _, v => .error (.notObject path v)

/-- Reads a field. -/
def read (scope : WrapperScope) (r : Response) (a : Accessor) : Except DecodeError Value :=
  let path := r.path.push (.member a.field)
  match r.data.get? a.field with
  | none => .error (.missing path)
  | some raw => a.decoder.decode scope path raw

/-- A response as messages show it. -/
def render (r : Response) : String := r.wrapper ++ "(" ++ (Json.object r.data).literal ++ ")"

end Response

end TypedQuery
