import TypedQuery.Table
import TypedQuery.Schema.TypeRef

/-!
# Schemas

A `Schema` holds object types by key, in declaration order, and the name of the type at which
queries start. Types refer to each other by name, so a type may refer to itself.

* `Schema.find?`, `Schema.root?`: look-ups by key.
* `Schema.agrees`: the same types under the same keys, wherever and in whichever order they were
  declared.
-/

namespace TypedQuery

/-- A place in a named source, counted from line 1 and column 1. -/
structure Location where
  source : String
  line : Int
  column : Int
  deriving DecidableEq

/-- A location as messages show it. -/
def Location.render (l : Location) : String :=
  l.source ++ ":" ++ toString l.line ++ ":" ++ toString l.column

/-- A message, led by the place it is about if that is known. -/
def Location.lead (l : Option Location) (message : String) : String :=
  match l with
  | none => message
  | some l => l.render ++ ": " ++ message

/-- A field of an object type. -/
structure Field where
  name : String
  type : TypeRef
  description : Option String := none
  location : Option Location := none
  deriving DecidableEq

/-- Fields agree when they differ at most in where they were declared. -/
def Field.agrees (a b : Field) : Bool :=
  a.name == b.name && a.type == b.type && a.description == b.description

/-- An object type, its fields in declaration order. -/
structure ObjectType where
  name : String
  fields : List Field
  description : Option String := none
  location : Option Location := none
  deriving DecidableEq

namespace ObjectType

/-- The first field called `name`. -/
def field? (t : ObjectType) (name : String) : Option Field :=
  t.fields.find? (fun f => f.name == name)

/-- Pairwise agreement of two lists of fields. -/
def fieldsAgree : List Field → List Field → Bool
  | [], [] => true
  | a :: as, b :: bs => a.agrees b && fieldsAgree as bs
  | _, _ => false

/-- Types agree when they differ at most in locations. -/
def agrees (a b : ObjectType) : Bool :=
  a.name == b.name && fieldsAgree a.fields b.fields && a.description == b.description

end ObjectType

/-- Object types by key, and the name of the type at which queries start. -/
structure Schema where
  types : Table ObjectType
  queryType : String
  deriving DecidableEq

namespace Schema

/-- The type under the key `name`. -/
def find? (s : Schema) (name : String) : Option ObjectType := s.types.get? name

/-- The type at which queries start. -/
def root? (s : Schema) : Option ObjectType := s.find? s.queryType

/-- The object types, in declaration order. -/
def objects (s : Schema) : List ObjectType := s.types.values

/-- Every key of `a` is a key of `b`, with an agreeing type. -/
def covered (a b : Schema) : Bool :=
  a.types.all fun (key, t) =>
    match b.find? key with
    | some u => t.agrees u
    | none => false

/-- Schemas agree when they have the same keys with agreeing types, and the same query type. -/
def agrees (a b : Schema) : Bool :=
  a.types.length == b.types.length && a.covered b && a.queryType == b.queryType

end Schema

end TypedQuery
