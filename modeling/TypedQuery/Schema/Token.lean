import TypedQuery.Schema.Position

/-!
# Tokens of the schema language

A text is read as a `Stream`: tokens with their positions, up to the end of the text or to the
first place where no token can be read. A stream is read one token at a time, and its fault comes
to light when the token before it has been taken.

* `Lexeme.describe`: how messages name what was found.
* `LexFault.message`: why no token can be read.
-/

namespace TypedQuery

/-- The punctuators. -/
inductive Punct where
  | bang | dollar | amp | parenL | parenR | spread | colon | equals | at
  | bracketL | bracketR | braceL | pipe | braceR
  deriving DecidableEq

namespace Punct

/-- The characters of the punctuator. -/
def text : Punct → String
  | .bang => "!"
  | .dollar => "$"
  | .amp => "&"
  | .parenL => "("
  | .parenR => ")"
  | .spread => "..."
  | .colon => ":"
  | .equals => "="
  | .at => "@"
  | .bracketL => "["
  | .bracketR => "]"
  | .braceL => "\x7b"
  | .pipe => "|"
  | .braceR => "\x7d"

/-- The punctuator that a single character stands for. -/
def ofChar? (c : Char) : Option Punct :=
  match c with
  | '!' => some .bang
  | '$' => some .dollar
  | '&' => some .amp
  | '(' => some .parenL
  | ')' => some .parenR
  | ':' => some .colon
  | '=' => some .equals
  | '@' => some .at
  | '[' => some .bracketL
  | ']' => some .bracketR
  | '\x7b' => some .braceL
  | '|' => some .pipe
  | '\x7d' => some .braceR
  | _ => none

end Punct

/-- What a token is, without its position. Numbers keep their source text; the two string forms
hold the text that they stand for. -/
inductive Lexeme where
  | punct (p : Punct)
  | name (text : String)
  | int (text : String)
  | float (text : String)
  | string (value : String)
  | block (value : String)
  deriving DecidableEq

/-- A lexeme as a message names it. -/
def Lexeme.describe : Lexeme → String
  | .punct p => "'" ++ p.text ++ "'"
  | .name s => "name '" ++ s ++ "'"
  | .int s => "Int '" ++ s ++ "'"
  | .float s => "Float '" ++ s ++ "'"
  | .string _ | .block _ => "string"

/-- A lexeme and the position of its first character. -/
structure Token where
  lexeme : Lexeme
  position : Position
  deriving DecidableEq

/-- Why no token can be read. -/
inductive LexFault where
  | twoDots
  | bareFraction (digits : String)
  | singleQuote
  | unexpected (found : Char)
  | digitAfterZero (found : Char)
  | missingDigit (found : Option Char)
  | unterminated
  | badEscape (source : String)
  | badUnicodeEscape (source : String)
  deriving DecidableEq

namespace LexFault

/-- `n` in hexadecimal capitals, with at least `width` digits. -/
def hexCapitals (width n : Nat) : String :=
  let digits := (Nat.toDigits 16 n).map Char.toUpper
  String.ofList (List.replicate (width - digits.length) '0' ++ digits)

/-- A character as a message shows it: quoted if it is printable ASCII, by number if not. -/
def showChar : Option Char → String
  | none => "<EOF>"
  | some c =>
    if ' ' ≤ c ∧ c ≤ '~' then "'" ++ String.singleton c ++ "'" else "U+" ++ hexCapitals 4 c.toNat

/-- The reason in words. -/
def message : LexFault → String
  | .twoDots => "Unexpected '..', did you mean '...'?"
  | .bareFraction digits =>
    "Invalid number, expected digit before '.', did you mean '0." ++ digits ++ "'?"
  | .singleQuote =>
    "Unexpected single quote character ('), did you mean to use a double quote (\")?"
  | .unexpected c => "Unexpected character: " ++ showChar (some c) ++ "."
  | .digitAfterZero c => "Invalid number, unexpected digit after 0: " ++ showChar (some c) ++ "."
  | .missingDigit c => "Invalid number, expected digit but got: " ++ showChar c ++ "."
  | .unterminated => "Unterminated string."
  | .badEscape s => "Invalid character escape sequence: '" ++ s ++ "'."
  | .badUnicodeEscape s => "Invalid Unicode escape sequence: '" ++ s ++ "'."

end LexFault

/-- The tokens of a text, up to its end or to the first fault. -/
inductive Stream where
  | stop (at_ : Position)
  | fault (why : LexFault) (at_ : Position)
  | next (token : Token) (rest : Stream)
  deriving DecidableEq

namespace Stream

/-- The number of tokens. -/
def length : Stream → Nat
  | .stop _ | .fault _ _ => 0
  | .next _ rest => rest.length + 1

/-- The tokens, without what ends the stream. -/
def tokens : Stream → List Token
  | .stop _ | .fault _ _ => []
  | .next t rest => t :: rest.tokens

end Stream

end TypedQuery
