/-!
# Type references

A field's type is a name inside any nesting of `[ ]` and `!`.

* `Scalar.ofName?`: the built-in scalar of that name.
* `TypeRef.target`: the name inside the wrappers.
* `TypeRef.render`: the schema notation of a reference, such as `[Film!]!`.
-/

namespace TypedQuery

/-- The built-in scalar types. -/
inductive Scalar where
  | string | int | float | boolean | id
  deriving DecidableEq

namespace Scalar

/-- The name that a schema uses for the scalar. -/
def name : Scalar → String
  | .string => "String"
  | .int => "Int"
  | .float => "Float"
  | .boolean => "Boolean"
  | .id => "ID"

/-- Every scalar. -/
def all : List Scalar := [.string, .int, .float, .boolean, .id]

/-- The scalar called `n`, if `n` names one. -/
def ofName? (n : String) : Option Scalar := all.find? (fun s => s.name == n)

theorem ofName?_name (s : Scalar) : ofName? s.name = some s := by cases s <;> decide

theorem name_of_ofName? {n : String} {s : Scalar} (h : ofName? n = some s) : s.name = n := by
  have := List.find?_some h
  simpa using this

end Scalar

/-- A reference to a type: a name, a list of references, or a reference that is never null. -/
inductive TypeRef where
  | named (name : String)
  | list (of : TypeRef)
  | nonNull (of : TypeRef)
  deriving DecidableEq

namespace TypeRef

/-- The name inside all wrappers. -/
def target : TypeRef → String
  | .named n => n
  | .list r => r.target
  | .nonNull r => r.target

/-- The scalar that the reference comes down to, if it is one. -/
def scalar? (r : TypeRef) : Option Scalar := Scalar.ofName? r.target

/-- The reference in schema notation. -/
def render : TypeRef → String
  | .named n => n
  | .list r => "[" ++ r.render ++ "]"
  | .nonNull r => r.render ++ "!"

end TypeRef

end TypedQuery
