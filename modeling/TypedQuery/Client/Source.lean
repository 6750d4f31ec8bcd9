import TypedQuery.Client.Docstring
import TypedQuery.Client.Names
import TypedQuery.Text.Letter

/-!
# Source text in parts

The generated module is a list of lines, and a line is a list of parts: fixed code, names, literals
and comments. The parts keep apart what the text alone would mix up, so that it can be said when
the text is a Python module.

* `Source.text`: the text of the lines.
* `Source.isValid`: names are identifiers, literals end where they should, the import clause is one,
  and brackets nest no deeper than `Nesting.limit`.
-/

namespace TypedQuery.Client

/-- A part of a line. -/
inductive Item where
  /-- Fixed text: words, signs and brackets. -/
  | code (text : String)
  /-- A name that the plan chose. -/
  | name (text : String)
  /-- A literal between double quotes. -/
  | literal (content : String)
  /-- A literal between the quotes that suit it. -/
  | quoted (content : String)
  /-- A literal between triple quotes. -/
  | docstring (content : String)
  | comment (content : String)
  /-- The text between `import` and `as` that names the module to import, and whether it can stand
  there. -/
  | clause (text : String) (isValid : Bool)
  deriving DecidableEq

namespace Item

/-- The text of a part. -/
def text : Item → String
  | .code t => t
  | .name n => n
  | .literal s => "\"" ++ s ++ "\""
  | .quoted s => Text.quote s
  | .docstring s => "\"\"\"" ++ s ++ "\"\"\""
  | .comment s => "# " ++ s
  | .clause t _ => t

/-- Whether a text can stand between double quotes as it is: it has no quote, no backslash, no line
end and no NUL. -/
def isPlain (s : String) : Bool :=
  s.toList.all fun c => c != '"' && c != '\\' && c != '\n' && c != '\r' && c.toNat != 0

/-- Whether a name can be declared. -/
def isName (n : String) : Bool := Text.isIdentifier n && !keywords.contains n

/-- Whether the part is what it is meant to be. -/
def isValid : Item → Bool
  | .code _ => true
  | .name n => isName n
  | .literal s => isPlain s
  | .quoted _ => true
  | .docstring s => Docstring.closes s.toList
  | .comment _ => true
  | .clause _ ok => ok

end Item

/-! ## Brackets -/

/-- How many brackets are open, and how many were at most. -/
structure Nesting where
  depth : Nat := 0
  peak : Nat := 0
  deriving DecidableEq

namespace Nesting

/-- No more than this many brackets may be open. -/
def limit : Nat := 200

/-- The nesting after one more character of code. -/
def char (n : Nesting) (c : Char) : Nesting :=
  if c = '(' ∨ c = '[' ∨ c = '\x7b' then ⟨n.depth + 1, max n.peak (n.depth + 1)⟩
  else if c = ')' ∨ c = ']' ∨ c = '\x7d' then ⟨n.depth - 1, n.peak⟩
  else n

/-- The nesting after one more part. Only code has brackets that count. -/
def item (n : Nesting) : Item → Nesting
  | .code t => t.toList.foldl char n
  | _ => n

/-- The nesting after more parts. -/
def items (n : Nesting) (is : List Item) : Nesting := is.foldl item n

end Nesting

/-! ## Lines -/

/-- A line in parts. Inside brackets and docstrings it may go on over several lines of text. -/
abbrev Line := List Item

namespace Line

/-- The text of a line, without its end. -/
def text (l : Line) : String := String.join (l.map Item.text)

/-- The most brackets that are open at once. -/
def peak (l : Line) : Nat := (Nesting.items {} l).peak

/-- Whether Python can read the line. -/
def isValid (l : Line) : Bool := l.all Item.isValid && decide (l.peak ≤ Nesting.limit)

end Line

namespace Source

/-- The text of lines. -/
def text (ls : List Line) : String := String.join (ls.map fun l => l.text ++ "\n")

/-- Whether Python can read the lines. -/
def isValid (ls : List Line) : Bool := ls.all Line.isValid

/-- Puts commas between parts. -/
def commas : List (List Item) → List Item
  | [] => []
  | [x] => x
  | x :: y :: rest => x ++ .code ", " :: commas (y :: rest)

end Source

end TypedQuery.Client
