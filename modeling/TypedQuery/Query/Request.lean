import TypedQuery.Query.Selection

/-!
# Requests

A `Request` is a query on the root type: a selection that is not empty, the response wrapper that
answers it, and perhaps a name for the operation.
-/

namespace TypedQuery

/-- The name under which a generated module runs. -/
def generatedModule : String := "generated_client"

/-- A class of the generated module as messages show it. -/
def shownClass (name : String) : String := "<class '" ++ generatedModule ++ "." ++ name ++ "'>"

/-- A query on the root type. -/
structure Request where
  selection : SelectionSet
  /-- The response wrapper that the answer is put into. -/
  response : String
  operationName : Option String := none
  deriving DecidableEq

namespace Request

/-- A request for a selection, unless the selection is empty. -/
def ofSelection? (s : SelectionSet) (response : String) (operationName : Option String) :
    Option Request :=
  if s.fields.isEmpty then none else some ⟨s, response, operationName⟩

/-- What comes before the braces. An empty name counts as none. -/
def header (operationName : Option String) : String :=
  match operationName with
  | none => "query"
  | some name => if name.isEmpty then "query" else "query " ++ name

/-- The document that is sent. -/
def document (r : Request) : String :=
  header r.operationName ++ " \x7b\n" ++ r.selection.render 1 ++ "\n\x7d"

/-- A request as messages show it. -/
def literal (r : Request) : String :=
  "Request(selection=" ++ r.selection.literal ++ ", response_type=" ++ shownClass r.response ++
    ", operation_name=" ++ ((r.operationName.map Text.quote).getD "None") ++ ")"

end Request

end TypedQuery
