import TypedQuery.Schema.Model
import TypedQuery.Schema.Token
import TypedQuery.Text.Utf8

/-!
# What can be wrong with a schema

An error has a cause and a place. `SchemaError.Cause.message` words the cause, and
`SchemaError.kind` sorts causes into malformed text, double declarations and names that refer to
nothing.
-/

namespace TypedQuery

namespace SchemaError

/-- The three kinds of schema errors. -/
inductive Kind where
  | malformed | duplicate | unresolved
  deriving DecidableEq

/-- What went wrong. -/
inductive Cause where
  | lexical (why : LexFault)
  | expected (what : String) (found : Option Lexeme)
  | reservedName (name : String)
  | directive
  | interfaces
  | arguments
  | defaultValue
  | unsupported (keyword : String)
  | describedSchema
  | rootOperation (name : String)
  | unclosedType (name : String)
  | encoding (why : Utf8.Reason)
  | noTypes
  | operationTwice (name : String)
  | fieldTwice (type field : String)
  | scalarName (type : String)
  | typeTwice (type : String) (first : Option Location)
  | schemaTwice (first : Location)
  | unknownType (type field target : String)
  | unknownRoot (name : String)
  deriving DecidableEq

namespace Cause

/-- The kind of error that the cause makes. -/
def kind : Cause → Kind
  | .operationTwice _ | .fieldTwice _ _ | .scalarName _ | .typeTwice _ _ | .schemaTwice _ =>
    .duplicate
  | .unknownType _ _ _ | .unknownRoot _ => .unresolved
  | _ => .malformed

/-- What was found, where `none` is the end of the text. -/
def found : Option Lexeme → String
  | none => "end of input"
  | some l => l.describe

/-- The cause in words. -/
def message : Cause → String
  | .lexical why => "Syntax Error: " ++ why.message
  | .expected what l => "Expected " ++ what ++ ", found " ++ found l ++ "."
  | .reservedName name =>
    "Name '" ++ name ++ "' is reserved: names beginning with '__' belong to GraphQL introspection."
  | .directive => "Directives are not supported."
  | .interfaces => "Interfaces are not supported."
  | .arguments => "Field arguments are not supported."
  | .defaultValue => "Default values are not supported on object fields."
  | .unsupported keyword => "'" ++ keyword ++ "' definitions are not supported."
  | .describedSchema => "A schema definition cannot have a description."
  | .rootOperation name => "Root operation '" ++ name ++ "' is not supported; only 'query' is."
  | .unclosedType name => "Expected '\x7d' to close type '" ++ name ++ "', found end of input."
  | .encoding why => "Schema file is not valid UTF-8: " ++ why.message ++ "."
  | .noTypes => "Expected at least one type definition."
  | .operationTwice name => "Root operation '" ++ name ++ "' is declared twice."
  | .fieldTwice type field => "Field '" ++ type ++ "." ++ field ++ "' is declared twice."
  | .scalarName type =>
    "Type '" ++ type ++ "' conflicts with the built-in scalar of the same name."
  | .typeTwice type first =>
    "Type '" ++ type ++ "' is already declared at " ++
      (first.map Location.render).getD "None" ++ "."
  | .schemaTwice first => "Schema definition is already declared at " ++ first.render ++ "."
  | .unknownType type field target =>
    "Field '" ++ type ++ "." ++ field ++ "' refers to unknown type '" ++ target ++ "'."
  | .unknownRoot name => "Root query type '" ++ name ++ "' is not a declared object type."

end Cause

end SchemaError

/-- A cause, and the place in a source that it is about. -/
structure SchemaError where
  cause : SchemaError.Cause
  location : Option Location
  deriving DecidableEq

namespace SchemaError

/-- The kind of the error. -/
def kind (e : SchemaError) : Kind := e.cause.kind

/-- The error in words, led by its place. -/
def message (e : SchemaError) : String := Location.lead e.location e.cause.message

/-- An error at a position of a source. -/
def atPosition (source : String) (p : Position) (cause : Cause) : SchemaError :=
  ⟨cause, some ⟨source, p.line, p.column⟩⟩

end SchemaError

end TypedQuery
