import TypedQuery.Schema.Token
import TypedQuery.Schema.Token.Block
import TypedQuery.Text.Digit

/-!
# Reading tokens

`Lexeme.read` reads one lexeme at the start of a text and says how many characters it takes;
`Stream.scan` places the lexemes of a text one after the other. Blanks, commas, line ends, byte
order marks and comments (`#` to the end of the line) stand between tokens and are skipped.

A lexeme's width is at least one character, so every step leaves a shorter text.
-/

namespace TypedQuery

/-! ## Characters -/

namespace Lexeme

/-- A character that may start a name. -/
def isNameStart (c : Char) : Bool := c == '_' || ('A' ≤ c && c ≤ 'Z') || ('a' ≤ c && c ≤ 'z')

/-- A character that may continue a name. -/
def isNameChar (c : Char) : Bool := isNameStart c || ('0' ≤ c && c ≤ '9')

/-- A decimal digit. -/
def isDigit (c : Char) : Bool := '0' ≤ c && c ≤ '9'

/-- A character that ends a line. -/
def isLineEnd (c : Char) : Bool := c == '\n' || c == '\r'

/-! ## Faults with their place -/

/-- A fault, and how many characters after the start of the token it is found. -/
structure Fault where
  why : LexFault
  offset : Nat
  deriving DecidableEq

/-- A lexeme, and the number of characters after its first one. -/
structure Reading where
  lexeme : Lexeme
  more : Nat
  deriving DecidableEq

/-! ## Numbers -/

/-- The length of the run of digits at the start of `cs`; there must be one. `offset` is where
`cs` stands in the token. -/
def readDigits (offset : Nat) (cs : List Char) : Except Fault Nat :=
  match cs with
  | c :: _ =>
    if isDigit c then .ok (cs.takeWhile isDigit).length
    else .error ⟨.missingDigit (some c), offset⟩
  | [] => .error ⟨.missingDigit none, offset⟩

/-- The length of the whole part of a number: a zero alone, or digits that start with another. -/
def readWhole (offset : Nat) (cs : List Char) : Except Fault Nat :=
  match cs with
  | '0' :: c :: _ => if isDigit c then .error ⟨.digitAfterZero c, offset + 1⟩ else .ok 1
  | '0' :: [] => .ok 1
  | _ => readDigits offset cs

/-- The length of the fraction of a number, zero if there is none. -/
def readFraction (offset : Nat) (cs : List Char) : Except Fault Nat :=
  match cs with
  | '.' :: rest => return (← readDigits (offset + 1) rest) + 1
  | _ => return 0

/-- The length of the exponent of a number, zero if there is none. -/
def readExponent (offset : Nat) (cs : List Char) : Except Fault Nat :=
  match cs with
  | c :: rest =>
    if c == 'e' || c == 'E' then
      match rest with
      | s :: digits =>
        if s == '+' || s == '-' then return (← readDigits (offset + 2) digits) + 2
        else return (← readDigits (offset + 1) rest) + 1
      | [] => return (← readDigits (offset + 1) []) + 1
    else return 0
  | [] => return 0

/-- Reads a number. A dot or a name must not follow it directly. -/
def readNumber (cs : List Char) : Except Fault Reading := do
  let sign := if cs.head? = some '-' then 1 else 0
  let whole ← readWhole sign (cs.drop sign)
  let n := sign + whole
  let fraction ← readFraction n (cs.drop n)
  let n := n + fraction
  let exponent ← readExponent n (cs.drop n)
  let n := n + exponent
  let text := String.ofList (cs.take n)
  let lexeme := if fraction = 0 ∧ exponent = 0 then Lexeme.int text else Lexeme.float text
  match cs.drop n with
  | c :: _ =>
    if c == '.' || isNameStart c then .error ⟨.missingDigit (some c), n⟩
    else .ok ⟨lexeme, n - 1⟩
  | [] => .ok ⟨lexeme, n - 1⟩

/-! ## Strings -/

/-- The code unit that four hexadecimal digits at the start of `cs` give. -/
def hexUnit? (cs : List Char) : Option Nat :=
  match cs with
  | a :: b :: c :: d :: _ => do
    let a ← Text.hexDigit? a
    let b ← Text.hexDigit? b
    let c ← Text.hexDigit? c
    let d ← Text.hexDigit? d
    return ((a * 16 + b) * 16 + c) * 16 + d
  | _ => none

/-- Code units that only make sense in pairs. -/
def isLeading (n : Nat) : Bool := 0xD800 ≤ n && n ≤ 0xDBFF

/-- The second unit of a pair. -/
def isTrailing (n : Nat) : Bool := 0xDC00 ≤ n && n ≤ 0xDFFF

/-- The character of a pair of units. -/
def joinPair (leading trailing : Nat) : Char :=
  Char.ofNat (0x10000 + (leading - 0xD800) * 0x400 + (trailing - 0xDC00))

/-- The character with code `n`, if `n` is the code of one. -/
def charOf? (n : Nat) : Option Char := if n.isValidChar then some (Char.ofNat n) else none

/-- An escape of four digits, or a pair of them. `cs` follows the `\u`; the answer counts
characters from the backslash. -/
def readFixedEscape (cs : List Char) : Option (Char × Nat) := do
  let unit ← hexUnit? cs
  match charOf? unit with
  | some c => return (c, 6)
  | none =>
    match cs.drop 4 with
    | '\\' :: 'u' :: rest =>
      let second ← hexUnit? rest
      if isLeading unit && isTrailing second then some (joinPair unit second, 12) else none
    | _ => none

/-- An escape with braces, at most twelve characters long. `cs` follows the opening brace, `size`
characters have been read, `point` is the number read so far and `room` bounds the characters
still to read. A failure gives the number of characters that belong to the escape. -/
def readBracedEscape (size point : Nat) : (room : Nat) → List Char → Except Nat (Char × Nat)
  | 0, _ => .error size
  | _ + 1, [] => .error size
  | room + 1, c :: cs =>
    if c == '\x7d' then
      if size + 1 < 5 then .error (size + 1)
      else
        match charOf? point with
        | some ch => .ok (ch, size + 1)
        | none => .error (size + 1)
    else
      match Text.hexDigit? c with
      | some d => readBracedEscape (size + 1) (point * 16 + d) room cs
      | none => .error (size + 1)

/-- The character that a letter after a backslash stands for. -/
def plainEscape? (c : Char) : Option Char :=
  match c with
  | '"' => some '"'
  | '\\' => some '\\'
  | '/' => some '/'
  | 'b' => some '\x08'
  | 'f' => some '\x0c'
  | 'n' => some '\n'
  | 'r' => some '\r'
  | 't' => some '\t'
  | _ => none

/-- Reads the escape that a backslash starts; `cs` follows the backslash. The answer has the
character and the number of characters after the backslash. -/
def readEscape (cs : List Char) : Except LexFault (Char × Nat) :=
  let source (n : Nat) := String.ofList (('\\' :: cs).take n)
  match cs with
  | 'u' :: '\x7b' :: rest =>
    match readBracedEscape 3 0 9 rest with
    | .ok (c, n) => .ok (c, n - 1)
    | .error n => .error (.badUnicodeEscape (source n))
  | 'u' :: rest =>
    match readFixedEscape rest with
    | some (c, n) => .ok (c, n - 1)
    | none => .error (.badUnicodeEscape (source 6))
  | c :: _ =>
    match plainEscape? c with
    | some ch => .ok (ch, 1)
    | none => .error (.badEscape (source 2))
  | [] => .error (.badEscape (source 2))

/-- Reads a string up to its closing quote. `cs` follows `offset` characters of the token, and
`value` is what they stand for, last character first. -/
def readString (offset : Nat) (value : List Char) (cs : List Char) : Except Fault Reading :=
  match cs with
  | [] => .error ⟨.unterminated, offset⟩
  | c :: rest =>
    if c == '"' then .ok ⟨.string (String.ofList value.reverse), offset⟩
    else if isLineEnd c then .error ⟨.unterminated, offset⟩
    else if c == '\\' then
      match readEscape rest with
      | .error why => .error ⟨why, offset⟩
      | .ok (ch, n) => readString (offset + 1 + n) (ch :: value) (rest.drop n)
    else readString (offset + 1) (c :: value) rest
termination_by cs.length
decreasing_by all_goals simp_all; try omega

/-- Reads a block string up to its closing quotes. `line` is the current raw line and `lines` are
the lines before it, each last first. -/
def readBlock (offset : Nat) (lines : List (List Char)) (line : List Char) :
    List Char → Except Fault Reading
  | '"' :: '"' :: '"' :: _ =>
    .ok ⟨.block (BlockText.value ((line.reverse :: lines).reverse)), offset + 2⟩
  | '\\' :: '"' :: '"' :: '"' :: rest =>
    readBlock (offset + 4) lines ('"' :: '"' :: '"' :: line) rest
  | '\r' :: '\n' :: rest => readBlock (offset + 2) (line.reverse :: lines) [] rest
  | '\r' :: rest => readBlock (offset + 1) (line.reverse :: lines) [] rest
  | '\n' :: rest => readBlock (offset + 1) (line.reverse :: lines) [] rest
  | c :: rest => readBlock (offset + 1) lines (c :: line) rest
  | [] => .error ⟨.unterminated, offset⟩

/-! ## One lexeme -/

/-- Reads the lexeme that starts with the dot before `cs`. -/
def readDots (cs : List Char) : Except Fault Reading :=
  match cs with
  | '.' :: '.' :: _ => .ok ⟨.punct .spread, 2⟩
  | '.' :: _ => .error ⟨.twoDots, 0⟩
  | c :: _ =>
    if isDigit c then .error ⟨.bareFraction (String.ofList (cs.takeWhile isDigit)), 0⟩
    else .error ⟨.unexpected '.', 0⟩
  | [] => .error ⟨.unexpected '.', 0⟩

/-- Reads the lexeme that starts with `c` and goes on in `cs`. -/
def read (c : Char) (cs : List Char) : Except Fault Reading :=
  match Punct.ofChar? c with
  | some p => .ok ⟨.punct p, 0⟩
  | none =>
    if c == '"' then
      match cs with
      | '"' :: '"' :: rest => readBlock 3 [] [] rest
      | _ => readString 1 [] cs
    else if isDigit c || c == '-' then readNumber (c :: cs)
    else if isNameStart c then
      let tail := cs.takeWhile isNameChar
      .ok ⟨.name (String.ofList (c :: tail)), tail.length⟩
    else if c == '.' then readDots cs
    else if c == '\'' then .error ⟨.singleQuote, 0⟩
    else .error ⟨.unexpected c, 0⟩

end Lexeme

/-! ## A whole text -/

namespace Stream

/-- A character that stands between tokens on one line. -/
def isBlank (c : Char) : Bool := c == ' ' || c == '\t' || c == ',' || c == '\uFEFF'

/-- What follows a carriage return and the line feed that belongs to it. -/
def dropFeed : List Char → List Char
  | '\n' :: rest => rest
  | rest => rest

theorem length_dropFeed_le (cs : List Char) : (dropFeed cs).length ≤ cs.length := by
  unfold dropFeed
  split <;> simp

/-- The tokens of `cs`, whose first character is at `p`. -/
def scan (p : Position) (cs : List Char) : Stream :=
  match cs with
  | [] => .stop p
  | c :: rest =>
    if isBlank c then scan (p.right 1) rest
    else if c == '\n' then scan p.newLine rest
    else if c == '\r' then scan p.newLine (dropFeed rest)
    else if c == '#' then
      let comment := rest.takeWhile (fun d => !Lexeme.isLineEnd d)
      scan (p.right (comment.length + 1)) (rest.drop comment.length)
    else
      match Lexeme.read c rest with
      | .error f => .fault f.why (p.after ((c :: rest).take f.offset))
      | .ok r => .next ⟨r.lexeme, p⟩ (scan (p.after (c :: rest.take r.more)) (rest.drop r.more))
termination_by cs.length
decreasing_by
  all_goals simp only [List.length_cons, List.length_drop]
  all_goals first | omega | exact Nat.lt_succ_of_le (length_dropFeed_le rest)

/-- The tokens of a text. -/
def ofText (text : String) : Stream := scan Position.start text.toList

end Stream

end TypedQuery
