import TypedQuery.Json.Basic
import TypedQuery.Text.Digit

/-!
# Reading JSON text

`Json.parse` reads a text that holds one value. `NaN`, `Infinity` and `-Infinity` count as numbers.
A fault names what was expected and the offset of the character where it was missed. An integer may
have any size up to a limit on its digits.

Containers nest no deeper than the text is long, so the length of the text bounds the recursion.
-/

namespace TypedQuery.Json

/-! ## Faults -/

/-- What is wrong with a JSON text. -/
inductive Fault.Cause where
  | value | propertyName | colon | comma | extra | control | unterminated | escape | unicodeEscape
  | byteOrderMark
  /-- An integer with too many digits. -/
  | digits (count : Nat)
  deriving DecidableEq

/-- The most digits that an integer may have. -/
def digitLimit : Nat := 4300

/-- The cause in words. -/
def Fault.Cause.message : Fault.Cause → String
  | .value => "Expecting value"
  | .propertyName => "Expecting property name enclosed in double quotes"
  | .colon => "Expecting ':' delimiter"
  | .comma => "Expecting ',' delimiter"
  | .extra => "Extra data"
  | .control => "Invalid control character at"
  | .unterminated => "Unterminated string starting at"
  | .escape => "Invalid \\escape"
  | .unicodeEscape => "Invalid \\uXXXX escape"
  | .byteOrderMark => "Unexpected UTF-8 BOM (decode using utf-8-sig)"
  | .digits count =>
    "Exceeds the limit (" ++ toString digitLimit ++
      " digits) for integer string conversion: value has " ++ toString count ++
      " digits; use sys.set_int_max_str_digits() to increase the limit"

/-- A cause, and the offset of the character that it is about. -/
structure Fault where
  cause : Fault.Cause
  offset : Nat
  deriving DecidableEq

/-- Whether the text breaks the grammar. Otherwise it holds a number beyond the limit. -/
def Fault.isSyntactic (f : Fault) : Bool :=
  match f.cause with
  | .digits _ => false
  | _ => true

/-- The fault in words, with its place if it is one of grammar. Lines end with line feeds only. -/
def Fault.message (f : Fault) (text : String) : String :=
  let before := text.toList.take f.offset
  let line := before.count '\n' + 1
  let column := (before.reverse.takeWhile (· != '\n')).length + 1
  if f.isSyntactic then s!"{f.cause.message}: line {line} column {column} (char {f.offset})"
  else f.cause.message

/-- The rest of a text, and how many characters stand before it. -/
structure Cursor where
  offset : Nat
  rest : List Char

namespace Cursor

/-- The cursor `n` characters further on. -/
def advance (c : Cursor) (n : Nat) : Cursor := ⟨c.offset + n, c.rest.drop n⟩

/-- A blank between the parts of a value. -/
def isBlank (c : Char) : Bool := c == ' ' || c == '\t' || c == '\n' || c == '\r'

/-- Skips blanks. -/
def skip (c : Cursor) : Cursor := c.advance (c.rest.takeWhile isBlank).length

/-- Whether `word` comes next. -/
def startsWith (c : Cursor) (word : String) : Bool := word.toList.isPrefixOf c.rest

end Cursor

/-! ## Strings -/

/-- The number that four hexadecimal digits at the start of `cs` give, if a fifth character
follows them. -/
def hex4? : List Char → Option Nat
  | a :: b :: c :: d :: _ :: _ => do
    let a ← Text.hexDigit? a
    let b ← Text.hexDigit? b
    let c ← Text.hexDigit? c
    let d ← Text.hexDigit? d
    return ((a * 16 + b) * 16 + c) * 16 + d
  | _ => none

/-- The character that a letter after a backslash stands for. -/
def escaped? (c : Char) : Option Char :=
  match c with
  | '"' => some '"'
  | '\\' => some '\\'
  | '/' => some '/'
  | 'b' => some '\x08'
  | 'f' => some '\x0c'
  | 'n' => some '\n'
  | 'r' => some '\r'
  | 't' => some '\t'
  | _ => none

/-- The second half of a surrogate pair, if `cs` starts with its escape. An escape that stands
there must be well formed even if it is no second half; `offset` is where `cs` stands. -/
def trailing? (offset : Nat) (cs : List Char) : Except Fault (Option Nat) :=
  match cs with
  | '\\' :: 'u' :: digits =>
    if 4 < digits.length then
      match hex4? digits with
      | some n => .ok (if 0xDC00 ≤ n ∧ n ≤ 0xDFFF then some n else none)
      | none => .error ⟨.unicodeEscape, offset + 1⟩
    else .ok none
  | _ => .ok none

/-- Reads a string up to its closing quote: its code points, and the cursor after it. `start` is
the offset of the opening quote and `points` are the code points before, last first. -/
def readString (start : Nat) (points : List Nat) (offset : Nat) (cs : List Char) :
    Except Fault (List Nat × Cursor) :=
  match cs with
  | [] => .error ⟨.unterminated, start⟩
  | c :: rest =>
    if c == '"' then .ok (points.reverse, ⟨offset + 1, rest⟩)
    else if c.toNat < 0x20 then .error ⟨.control, offset⟩
    else if c != '\\' then readString start (c.toNat :: points) (offset + 1) rest
    else
      match rest with
      | [] => .error ⟨.unterminated, start⟩
      | 'u' :: digits =>
        match hex4? digits with
        | none => .error ⟨.unicodeEscape, offset + 1⟩
        | some n =>
          if 0xD800 ≤ n ∧ n ≤ 0xDBFF then
            match trailing? (offset + 6) (digits.drop 4) with
            | .error e => .error e
            | .ok (some t) =>
              readString start ((0x10000 + (n - 0xD800) * 0x400 + (t - 0xDC00)) :: points)
                (offset + 12) (digits.drop 10)
            | .ok none => readString start (n :: points) (offset + 6) (digits.drop 4)
          else readString start (n :: points) (offset + 6) (digits.drop 4)
      | e :: rest =>
        match escaped? e with
        | some ch => readString start (ch.toNat :: points) (offset + 2) rest
        | none => .error ⟨.escape, offset⟩
termination_by cs.length
decreasing_by all_goals simp_all <;> omega

/-- The value of a string of code points. -/
def ofPoints (points : List Nat) : Json :=
  if points.all (fun n => n.isValidChar) then .str (String.ofList (points.map Char.ofNat))
  else .wide points

/-- Where the characters start that stand for surrogates in a name: the last private ones. -/
def surrogateNames : Nat := 0x10F800

/-- The character of a code point in a member's name. A surrogate without its partner has no place
in a text, so a private character stands for it. -/
def nameChar (n : Nat) : Char :=
  if n.isValidChar then Char.ofNat n else Char.ofNat (surrogateNames + (n - 0xD800))

/-- Code points as a member's name. -/
def nameOfPoints (points : List Nat) : String := String.ofList (points.map nameChar)

/-! ## Numbers -/

/-- A decimal digit. -/
def isDigit (c : Char) : Bool := '0' ≤ c && c ≤ '9'

/-- The number that a run of digits stands for. -/
def natOfDigits (cs : List Char) : Nat := cs.foldl (fun n c => n * 10 + (c.toNat - '0'.toNat)) 0

/-- The parts of a number: digits before the point, digits after it, the exponent, and whether a
point or an exponent is there. -/
structure Numeral where
  whole : List Char
  fraction : List Char
  exponent : Int
  isFloat : Bool
  length : Nat

/-- Reads the exponent of a number, if digits follow its mark: the exponent and its length. -/
def readExponent (cs : List Char) : Int × Nat :=
  match cs with
  | e :: rest =>
    if e == 'e' || e == 'E' then
      let (sign, skipped) : Int × Nat :=
        match rest with
        | '-' :: _ => (-1, 1)
        | '+' :: _ => (1, 1)
        | _ => (1, 0)
      let digits := (rest.drop skipped).takeWhile isDigit
      if digits.isEmpty then (0, 0) else (sign * natOfDigits digits, 1 + skipped + digits.length)
    else (0, 0)
  | [] => (0, 0)

/-- Reads a number without its sign. -/
def readNumeral? (cs : List Char) : Option Numeral :=
  match cs with
  | [] => none
  | c :: _ =>
    if !isDigit c then none
    else
      let whole := if c == '0' then ['0'] else cs.takeWhile isDigit
      let rest := cs.drop whole.length
      let fraction :=
        match rest with
        | '.' :: digits => digits.takeWhile isDigit
        | _ => []
      let n := whole.length + (if fraction.isEmpty then 0 else fraction.length + 1)
      let (exponent, m) := readExponent (cs.drop n)
      some ⟨whole, fraction, exponent, !fraction.isEmpty || m != 0, n + m⟩

/-- Whether the number is an integer with too many digits. -/
def Numeral.isTooLong (n : Numeral) : Bool := !n.isFloat && digitLimit < n.whole.length

/-- The value of a number. -/
def Numeral.value (n : Numeral) (negative : Bool) : Json :=
  if n.isFloat then
    .float (.ofDecimal negative (natOfDigits (n.whole ++ n.fraction))
      (n.exponent - n.fraction.length))
  else
    let i : Int := natOfDigits n.whole
    .int (if negative then -i else i)

/-! ## Values -/

/-- Reads a value that is no container. -/
def readScalar (c : Cursor) : Except Fault (Json × Cursor) :=
  if c.startsWith "null" then .ok (.null, c.advance 4)
  else if c.startsWith "true" then .ok (.bool true, c.advance 4)
  else if c.startsWith "false" then .ok (.bool false, c.advance 5)
  else if c.startsWith "NaN" then .ok (.float .nan, c.advance 3)
  else if c.startsWith "Infinity" then .ok (.float (.infinite false), c.advance 8)
  else if c.startsWith "-Infinity" then .ok (.float (.infinite true), c.advance 9)
  else
    let sign := if c.startsWith "-" then 1 else 0
    match readNumeral? (c.rest.drop sign) with
    | some n =>
      if n.isTooLong then .error ⟨.digits n.whole.length, c.offset⟩
      else .ok (n.value (sign == 1), c.advance (sign + n.length))
    | none => .error ⟨.value, c.offset⟩

mutual

/-- Reads a value. -/
def readValue (depth : Nat) (c : Cursor) : Except Fault (Json × Cursor) :=
  match depth with
  | 0 => .error ⟨.value, c.offset⟩
  | depth + 1 =>
    match c.rest with
    | '"' :: rest =>
      match readString c.offset [] (c.offset + 1) rest with
      | .error e => .error e
      | .ok (points, c) => .ok (ofPoints points, c)
    | '[' :: _ =>
      let c := (c.advance 1).skip
      if c.startsWith "]" then .ok (.list [], c.advance 1) else readItems depth [] c
    | '\x7b' :: _ =>
      let c := (c.advance 1).skip
      if c.startsWith "\x7d" then .ok (.object [], c.advance 1) else readMembers depth [] c
    | _ => readScalar c

/-- Reads the items of a list up to its bracket; `items` are those before, last first. -/
def readItems (depth : Nat) (items : List Json) (c : Cursor) : Except Fault (Json × Cursor) :=
  match depth with
  | 0 => .error ⟨.value, c.offset⟩
  | depth + 1 =>
    match readValue depth c with
    | .error e => .error e
    | .ok (v, c) =>
      let c := c.skip
      match c.rest with
      | ']' :: _ => .ok (.list (v :: items).reverse, c.advance 1)
      | ',' :: _ => readItems depth (v :: items) (c.advance 1).skip
      | _ => .error ⟨.comma, c.offset⟩

/-- Reads the members of an object up to its brace. -/
def readMembers (depth : Nat) (members : Table Json) (c : Cursor) : Except Fault (Json × Cursor) :=
  match depth with
  | 0 => .error ⟨.value, c.offset⟩
  | depth + 1 =>
    match c.rest with
    | '"' :: rest =>
      match readString c.offset [] (c.offset + 1) rest with
      | .error e => .error e
      | .ok (points, c) =>
        let c := c.skip
        if !c.startsWith ":" then .error ⟨.colon, c.offset⟩
        else
          match readValue depth (c.advance 1).skip with
          | .error e => .error e
          | .ok (v, c) =>
            let members := members.put (nameOfPoints points) v
            let c := c.skip
            match c.rest with
            | '\x7d' :: _ => .ok (.object members, c.advance 1)
            | ',' :: _ => readMembers depth members (c.advance 1).skip
            | _ => .error ⟨.comma, c.offset⟩
    | _ => .error ⟨.propertyName, c.offset⟩

end

/-- Reads characters that hold one value and blanks around it. -/
def parseChars (cs : List Char) : Except Fault Json := do
  let (v, c) ← readValue (2 * cs.length + 1) (Cursor.mk 0 cs).skip
  let c := c.skip
  if c.rest.isEmpty then return v else .error ⟨.extra, c.offset⟩

/-- Reads a text that holds one value and blanks around it, and no byte order mark. -/
def parse (text : String) : Except Fault Json :=
  if text.toList.head? = some '\uFEFF' then .error ⟨.byteOrderMark, 0⟩
  else parseChars text.toList

end TypedQuery.Json
