import TypedQuery.Text.Quoted
import TypedQuery.Text.Split

/-!
# Descriptions as docstrings

A description becomes a string literal between triple quotes.

* `Docstring.escape`: the text of the literal. Backslashes are doubled, three quotes in a row and
  control characters are escaped, and a quote at the end is kept away from the closing quotes.
* `Docstring.indent`: sets the further lines of a text four columns to the right.
* `Docstring.closes`: whether a text between triple quotes is one literal.
-/

namespace TypedQuery.Client.Docstring

/-- A control character other than the line feed and the tab. -/
def isControl (c : Char) : Bool := (c.toNat < 0x20 && c != '\n' && c != '\t') || c.toNat = 0x7f

/-- A character of a description inside the literal. -/
def escapeChar (c : Char) : List Char :=
  if c = '\\' then ['\\', '\\']
  else if isControl c then '\\' :: 'x' :: Text.hex 2 c.toNat
  else [c]

/-- Escapes the characters of a description. -/
def escapeChars : List Char → List Char
  | [] => []
  | '"' :: '"' :: '"' :: cs => '\\' :: '"' :: '\\' :: '"' :: '\\' :: '"' :: escapeChars cs
  | c :: cs => escapeChar c ++ escapeChars cs

/-- The text of the literal for a description. -/
def escape (text : String) : String :=
  let cs := text.toList
  String.ofList (escapeChars cs ++ if cs.getLast? = some '"' then [' '] else [])

/-! ## Indentation -/

/-- The characters that end a line of an escaped text. -/
def isBreak (c : Char) : Bool := c = '\n' || c = '\u0085' || c = '\u2028' || c = '\u2029'

/-- The lines of an escaped text. -/
def lines (cs : List Char) : List (List Char) := Text.splitWhere isBreak cs

/-- A line that does not come first; an empty one stays empty. -/
def furtherLine (line : List Char) : List Char :=
  if line.isEmpty then ['\n'] else '\n' :: ' ' :: ' ' :: ' ' :: ' ' :: line

/-- Indents all lines but the first, and ends lines with line feeds. -/
def indent (text : String) : String :=
  match lines text.toList with
  | [] => ""
  | first :: rest => String.ofList (first ++ rest.flatMap furtherLine)

/-! ## Literals -/

/-- Whether `cs`, followed by three quotes, is a literal that ends with them: no three quotes come
before, no backslash takes the first of them, and there is no NUL. -/
def closes : List Char → Bool
  | [] => true
  | ['\\'] => false
  | '\\' :: c :: cs => c.toNat != 0 && closes cs
  | ['"'] => false
  | '"' :: '"' :: '"' :: _ => false
  | c :: cs => c.toNat != 0 && closes cs

end TypedQuery.Client.Docstring
