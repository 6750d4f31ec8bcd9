import TypedQuery.Json.Basic
import TypedQuery.Number.Shortest
import TypedQuery.Text.Quoted

/-!
# Compact JSON text

`Json.compact?` writes a value without blanks. Characters beyond ASCII stand for themselves; quotes,
backslashes and control characters are escaped. A number that is not finite has no JSON text.
-/

namespace TypedQuery.Json

/-- A character inside a JSON string. -/
def escapeChar (c : Char) : List Char :=
  match c with
  | '"' => ['\\', '"']
  | '\\' => ['\\', '\\']
  | '\n' => ['\\', 'n']
  | '\r' => ['\\', 'r']
  | '\t' => ['\\', 't']
  | '\x08' => ['\\', 'b']
  | '\x0c' => ['\\', 'f']
  | c => if c.toNat < 0x20 then '\\' :: 'u' :: Text.hex 4 c.toNat else [c]

/-- A text as a JSON string. -/
def compactString (s : String) : String :=
  String.ofList ('"' :: (s.toList.flatMap escapeChar ++ ['"']))

/-- Code points as a JSON string; surrogates are written as escapes. -/
def compactPoints (points : List Nat) : String :=
  String.ofList ('"' :: (points.flatMap (fun n =>
    if n.isValidChar then escapeChar (Char.ofNat n) else '\\' :: 'u' :: Text.hex 4 n) ++ ['"']))

/-- A finite double as a JSON number. -/
def compactFloat? : Binary64 → Option String
  | .finite negative m e => some (Binary64.finite negative m e).text
  | _ => none

mutual

/-- A value as compact text, unless a number in it is not finite. -/
def compact? : Json → Option String
  | .null => some "null"
  | .bool true => some "true"
  | .bool false => some "false"
  | .int i => some (toString i)
  | .float x => compactFloat? x
  | .str s => some (compactString s)
  | .wide points => some (compactPoints points)
  | .list items => do
    let texts ← compactItems? items
    return "[" ++ ",".intercalate texts ++ "]"
  | .object members => do
    let texts ← compactMembers? members
    return "\x7b" ++ ",".intercalate texts ++ "\x7d"

/-- The compact texts of list items. -/
def compactItems? : List Json → Option (List String)
  | [] => some []
  | v :: vs => do
    let t ← compact? v
    let ts ← compactItems? vs
    return t :: ts

/-- The compact texts of object members. -/
def compactMembers? : List (String × Json) → Option (List String)
  | [] => some []
  | (k, v) :: ms => do
    let t ← compact? v
    let ts ← compactMembers? ms
    return (compactString k ++ ":" ++ t) :: ts

end

end TypedQuery.Json
