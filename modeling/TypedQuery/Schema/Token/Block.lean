/-!
# Block strings

The lines of a block string share the indentation of the source around them, which is not part of
its value.

* `BlockText.value`: the value of the raw lines. The smallest indentation of the lines after the
  first is taken off those lines, and blank lines at both ends are dropped.
-/

namespace TypedQuery.BlockText

/-- Indentation is made of spaces and tabs. -/
def isIndent (c : Char) : Bool := c == ' ' || c == '\t'

/-- The number of indentation characters at the start of a line. -/
def indentOf (line : List Char) : Nat := (line.takeWhile isIndent).length

/-- A blank line holds nothing but indentation. -/
def isBlank (line : List Char) : Bool := line.all isIndent

/-- The smallest indentation of the lines that are not blank. -/
def commonIndent (lines : List (List Char)) : Option Nat :=
  ((lines.filter (fun l => !isBlank l)).map indentOf).min?

/-- Takes the common indentation off every line; lines that are all blank become empty. -/
def dedent (lines : List (List Char)) : List (List Char) :=
  match commonIndent lines with
  | none => lines.map fun _ => []
  | some n => lines.map (List.drop n)

/-- Drops the blank lines at the start and at the end. -/
def trimBlank (lines : List (List Char)) : List (List Char) :=
  ((lines.dropWhile isBlank).reverse.dropWhile isBlank).reverse

/-- Joins lines with line feeds. -/
def joinLines : List (List Char) → List Char
  | [] => []
  | [l] => l
  | l :: ls => l ++ '\n' :: joinLines ls

/-- The value that the raw lines of a block string stand for. -/
def value : List (List Char) → String
  | [] => ""
  | first :: others => String.ofList (joinLines (trimBlank (first :: dedent others)))

end TypedQuery.BlockText
