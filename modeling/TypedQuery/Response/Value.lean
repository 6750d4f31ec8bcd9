import TypedQuery.Json.Equal
import TypedQuery.Response.Wrapper

/-!
# Values that were read

How a value that was read from an answer is shown, and when two of them are equal. Responses are
equal if they have the same wrapper and equal data, wherever in an answer they stand.
-/

namespace TypedQuery

namespace Response

/-- Whether two responses are equal. -/
def equal (r s : Response) : Bool :=
  r.wrapper == s.wrapper && Json.same (.object r.data) (.object s.data)

end Response

namespace Value

/-- A value that is neither a list nor a response, as JSON. -/
def leaf? : Value → Option Json
  | .null => some .null
  | .bool b => some (.bool b)
  | .int i => some (.int i)
  | .float x => some (.float x)
  | .text s => some (.str s)
  | .list _ => none
  | .response _ => none

mutual

/-- A value as messages show it. -/
def literal (v : Value) : String :=
  match v with
  | .list items => "[" ++ ", ".intercalate (literalItems items) ++ "]"
  | .response r => r.render
  | .null => "None"
  | .bool b => (Json.bool b).literal
  | .int i => (Json.int i).literal
  | .float x => (Json.float x).literal
  | .text s => (Json.str s).literal

/-- The items of a list as messages show them. -/
def literalItems (vs : List Value) : List String :=
  match vs with
  | [] => []
  | v :: vs => literal v :: literalItems vs

end

mutual

/-- A value as JSON, unless a response is in it. -/
def toJson? (v : Value) : Option Json :=
  match v with
  | .list items => (toJsonItems? items).map .list
  | .response _ => none
  | .null => some .null
  | .bool b => some (.bool b)
  | .int i => some (.int i)
  | .float x => some (.float x)
  | .text s => some (.str s)

/-- Values as JSON, unless a response is in one of them. -/
def toJsonItems? (vs : List Value) : Option (List Json) :=
  match vs with
  | [] => some []
  | v :: vs => do
    let j ← toJson? v
    let js ← toJsonItems? vs
    return j :: js

end

mutual

/-- Whether two values inside lists are equal. -/
def same (v w : Value) : Bool :=
  match v with
  | .list xs =>
    match w with
    | .list ys => sameItems xs ys
    | _ => false
  | .response r =>
    match w with
    | .response s => r.equal s
    | _ => false
  | v =>
    match v.leaf?, w.leaf? with
    | some a, some b => Json.same a b
    | _, _ => false

/-- Whether two lists have equal items. -/
def sameItems (vs ws : List Value) : Bool :=
  match vs with
  | [] => ws.isEmpty
  | v :: vs =>
    match ws with
    | w :: ws => same v w && sameItems vs ws
    | [] => false

end

end Value

end TypedQuery
