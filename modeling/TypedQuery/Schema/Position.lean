/-!
# Positions in a text

A line ends with a line feed, a carriage return, or the two together as one line end. A position
is the line and the column of the next character, both counted from 1; a column counts code
points.
-/

namespace TypedQuery

/-- Line and column of a character, counted from 1. -/
structure Position where
  line : Nat
  column : Nat
  deriving DecidableEq

namespace Position

/-- The position of the first character of a text. -/
def start : Position := ⟨1, 1⟩

/-- The first column of the next line. -/
def newLine (p : Position) : Position := ⟨p.line + 1, 1⟩

/-- The position after `n` characters of the same line. -/
def right (p : Position) (n : Nat) : Position := ⟨p.line, p.column + n⟩

/-- The position after the characters `cs`. -/
def after (p : Position) : List Char → Position
  | [] => p
  | '\r' :: '\n' :: cs => after p.newLine cs
  | '\r' :: cs => after p.newLine cs
  | '\n' :: cs => after p.newLine cs
  | _ :: cs => after (p.right 1) cs

end Position

end TypedQuery
