import TypedQuery.Json.Basic
import TypedQuery.Number.Shortest
import TypedQuery.Text.Quoted

/-!
# Values in messages

Messages show a value as a literal: `None`, `True` and `False`, numbers, quoted texts, and lists and
objects of literals.
-/

namespace TypedQuery.Json

mutual

/-- A value as a literal. -/
def literal : Json → String
  | .null => "None"
  | .bool true => "True"
  | .bool false => "False"
  | .int i => toString i
  | .float x => x.text
  | .str s => Text.quote s
  | .wide points => Text.quotePoints points
  | .list items => "[" ++ ", ".intercalate (literalItems items) ++ "]"
  | .object members => "\x7b" ++ ", ".intercalate (literalMembers members) ++ "\x7d"

/-- The literals of list items. -/
def literalItems : List Json → List String
  | [] => []
  | v :: vs => literal v :: literalItems vs

/-- The literals of object members. -/
def literalMembers : List (String × Json) → List String
  | [] => []
  | (k, v) :: ms => (Text.quote k ++ ": " ++ literal v) :: literalMembers ms

end

/-- A value as plain text: a text stands for itself, any other value is shown as its literal. -/
def plain : Json → String
  | .str s => s
  | v => literal v

end TypedQuery.Json
