import TypedQuery.Client.Names
import TypedQuery.Number.Integer
import TypedQuery.Script.Literal
import TypedQuery.Text.Letter
import TypedQuery.Text.Split

/-!
# Tokens of Python text

Text that a user's template or an import clause brings along is read as tokens, to see whether it
is Python at all. Comments and blank lines give no token; indentation does. Every step uses up a
character, so the length of the text bounds the reading.
-/

namespace TypedQuery.Script

/-- A token. -/
inductive Token where
  | name (text : String)
  /-- A keyword. -/
  | word (text : String)
  | number (isImaginary : Bool)
  /-- A string, with the expressions in its fields. -/
  | string (isBytes : Bool) (fields : List String)
  | sign (text : String)
  | newline
  | indent
  | dedent
  deriving DecidableEq

/-- The signs, longer ones before their beginnings. -/
def signs : List String :=
  ["**=", "//=", ">>=", "<<=", "...", "!=", "->", "+=", "-=", "*=", "/=", "%=", "&=", "|=", "^=",
    "@=", "==", "<=", ">=", "<<", ">>", "**", "//", ":=", "+", "-", "*", "/", "%", "@", "&", "|",
    "^", "~", "<", ">", "(", ")", "[", "]", "\x7b", "\x7d", ",", ":", ".", ";", "="]

/-- The most brackets that may be open. -/
def bracketLimit : Nat := 200

/-! ## Literals -/

/-- The characters of a string that was opened with one quote `q`, and what follows it. -/
def short? (q : Char) : List Char → Option (List Char × List Char)
  | [] => none
  | '\\' :: c :: cs => (short? q cs).map fun (text, rest) => ('\\' :: c :: text, rest)
  | c :: cs =>
    if c = q then some ([], cs)
    else if c = '\n' then none
    else (short? q cs).map fun (text, rest) => (c :: text, rest)

/-- The characters of a string that was opened with three quotes `q`, and what follows it. -/
def long? (q : Char) : List Char → Option (List Char × List Char)
  | [] => none
  | '\\' :: c :: cs => (long? q cs).map fun (text, rest) => ('\\' :: c :: text, rest)
  | c :: cs =>
    if [q, q, q].isPrefixOf (c :: cs) then some ([], cs.drop 2)
    else (long? q cs).map fun (text, rest) => (c :: text, rest)

/-- The characters of a string that starts with the quote `q`, and what follows it; `cs` is the text
after that quote. -/
def quoted? (q : Char) (cs : List Char) : Option (List Char × List Char) :=
  if [q, q].isPrefixOf cs then long? q (cs.drop 2) else short? q cs

/-- How the characters of a string are to be read. -/
structure StringMark where
  /-- Whether a backslash stands for itself. -/
  isRaw : Bool := false
  isBytes : Bool := false
  /-- Whether fields in braces hold expressions. -/
  isFormatted : Bool := false

/-- What the letters before the quote of a string mean. -/
def mark? (w : List Char) : Option StringMark :=
  let w := w.map Char.toLower
  if ['u'] = w then some {}
  else if [['r'], ['b'], ['f'], ['b', 'r'], ['r', 'b'], ['f', 'r'], ['r', 'f']].contains w then
    some ⟨w.contains 'r', w.contains 'b', w.contains 'f'⟩
  else none

/-- The token of a string, if its characters can be read. -/
def stringToken? (m : StringMark) (text : List Char) : Option Token :=
  if m.isFormatted then (fields? m.isRaw text).map fun fs => .string false (fs.map String.ofList)
  else if (m.isRaw || areEscapes m.isBytes text) && !(m.isBytes && text.any (0x80 ≤ ·.toNat)) then
    some (.string m.isBytes [])
  else none

/-- Reads a string: its token, and what follows it. -/
def string? (m : StringMark) (q : Char) (cs : List Char) : Option (Token × List Char) := do
  let (text, rest) ← quoted? q cs
  return (← stringToken? m text, rest)

/-- A word as a token. -/
def wordToken (text : String) : Token :=
  if Client.keywords.contains text then .word text else .name text

/-- What follows digits, between which single underscores may stand. `group` says whether a digit
has to come next. -/
def endDigits? (isDigit : Char → Bool) (group : Bool) : List Char → Option (List Char)
  | [] => if group then none else some []
  | c :: cs =>
    if isDigit c then endDigits? isDigit false cs
    else if group then none
    else if c = '_' then endDigits? isDigit true cs
    else some (c :: cs)

/-- What follows digits, if there are some. -/
def endOptionalDigits? (cs : List Char) : Option (List Char) :=
  match cs with
  | c :: _ => if c.isDigit then endDigits? Char.isDigit true cs else some cs
  | [] => some []

/-- Whether a character starts an exponent. -/
def isExponent (c : Char) : Bool := c = 'e' || c = 'E'

/-- What follows the exponent of a number, if there is one. -/
def endExponent? (cs : List Char) : Option (List Char) :=
  match cs with
  | e :: s :: rest =>
    if isExponent e && s.isDigit then endDigits? Char.isDigit true (s :: rest)
    else if isExponent e && (s = '+' || s = '-') then
      match rest with
      | d :: _ => if d.isDigit then endDigits? Char.isDigit true rest else some cs
      | [] => some cs
    else some cs
  | _ => some cs

/-- Whether digits are those of a whole number. One other than zero does not start with a zero, and
there is a limit on its digits. -/
def isWhole (digits : List Char) : Bool :=
  if digits.head? = some '0' then digits.all fun c => c = '0' || c = '_'
  else digits.countP Char.isDigit ≤ Integer.digitLimit

/-- Reads a decimal number: whether it is imaginary, and what follows it. -/
def decimal? (cs : List Char) : Option (Bool × List Char) := do
  let rest ← endOptionalDigits? cs
  let afterPoint ←
    match rest with
    | '.' :: r => endOptionalDigits? r
    | _ => some rest
  let after ← endExponent? afterPoint
  match after with
  | 'j' :: r => return (true, r)
  | 'J' :: r => return (true, r)
  | _ =>
    if after.length = rest.length && !isWhole (cs.take (cs.length - rest.length)) then none
    else return (false, after)

/-- What follows a number to the base that the letter `b` stands for. -/
def endBased? (b : Char) (cs : List Char) : Option (List Char) :=
  let isDigit : Char → Bool :=
    if b = 'x' || b = 'X' then fun c => c.isDigit || ('a' ≤ c && c ≤ 'f') || ('A' ≤ c && c ≤ 'F')
    else if b = 'o' || b = 'O' then fun c => '0' ≤ c && c ≤ '7'
    else fun c => c = '0' || c = '1'
  match cs with
  | '_' :: rest => endDigits? isDigit true rest
  | _ => endDigits? isDigit true cs

/-- The keywords that may follow a number without a blank. -/
def afterNumber : List String := ["and", "else", "for", "if", "in", "is", "not", "or"]

/-- Reads a number: whether it is imaginary, and what follows it. -/
def number? (cs : List Char) : Option (Bool × List Char) := do
  let (isImaginary, rest) ←
    match cs with
    | '0' :: b :: rest =>
      if ['x', 'X', 'o', 'O', 'b', 'B'].contains b then (endBased? b rest).map (false, ·)
      else decimal? cs
    | _ => decimal? cs
  match rest with
  | c :: _ =>
    if Text.isIdentChar c && !afterNumber.any (fun w => w.toList.isPrefixOf rest) then none
    else return (isImaginary, rest)
  | [] => return (isImaginary, rest)

/-! ## Lines -/

/-- How far a line is indented. A tab leads to the next multiple of eight, or counts as one
character: both columns have to agree on which lines belong together. -/
structure Indent where
  column : Nat := 0
  characters : Nat := 0
  deriving DecidableEq

/-- The indentation that leading blanks reach, and what follows them. A line may be continued among
its blanks; then the column of its first part counts, unless that is 0. -/
def indentOf (first : Nat) (i : Indent) : List Char → Indent × List Char
  | ' ' :: cs => indentOf first ⟨i.column + 1, i.characters + 1⟩ cs
  | '\t' :: cs => indentOf first ⟨(i.column / 8 + 1) * 8, i.characters + 1⟩ cs
  | '\x0c' :: cs => indentOf first {} cs
  | '\\' :: '\n' :: c :: cs => indentOf (if first = 0 then i.column else first) i (c :: cs)
  | cs => (if first = 0 then i else ⟨first, first⟩, cs)

/-- The most blocks that may be open. -/
def blockLimit : Nat := 99

/-- Closes blocks down to one with the indentation `i`. -/
def dedent? (i : Indent) : List Indent → Option (List Token × List Indent)
  | [] => if i = {} then some ([], []) else none
  | b :: bs =>
    if i.column < b.column then (dedent? i bs).map fun (ts, bs) => (.dedent :: ts, bs)
    else if i = b then some ([], b :: bs)
    else none

/-- Opens or closes blocks for a line with the indentation `i`. -/
def reindent? (i : Indent) (blocks : List Indent) : Option (List Token × List Indent) :=
  let b := blocks.headD {}
  if b.column < i.column then
    if b.characters < i.characters && blocks.length < blockLimit then
      some ([.indent], i :: blocks)
    else none
  else dedent? i blocks

/-- Where a reader stands: the indentations of open blocks, the brackets that have to close, and
whether a line starts. -/
structure State where
  blocks : List Indent := []
  brackets : List Char := []
  fresh : Bool := true

/-- The next token or step inside a line: what it adds, the state after it and the rest. -/
def step? (st : State) (c : Char) (cs : List Char) : Option (List Token × State × List Char) :=
  if c = ' ' ∨ c = '\t' ∨ c = '\x0c' then some ([], st, cs)
  else if c = '#' then some ([], st, cs.dropWhile (· != '\n'))
  else if c = '\n' then
    if st.brackets.isEmpty then some ([.newline], { st with fresh := true }, cs)
    else some ([], st, cs)
  else if c = '\\' then
    match cs with
    | '\n' :: rest => if rest.isEmpty then none else some ([], st, rest)
    | _ => none
  else if c = '"' ∨ c = '\'' then (string? {} c cs).map fun (t, rest) => ([t], st, rest)
  else if Text.isIdentStart c then
    let word := c :: cs.takeWhile Text.isIdentChar
    let rest := cs.dropWhile Text.isIdentChar
    let plain := some ([wordToken (String.ofList word)], st, rest)
    match rest, mark? word with
    | q :: more, some m =>
      if q = '"' ∨ q = '\'' then (string? m q more).map fun (t, rest) => ([t], st, rest) else plain
    | _, _ => plain
  else if c.isDigit || (c = '.' && (cs.head?.map Char.isDigit).getD false) then
    (number? (c :: cs)).map fun (isImaginary, rest) => ([.number isImaginary], st, rest)
  else
    match signs.find? fun s => s.toList.isPrefixOf (c :: cs) with
    | none => none
    | some s =>
      let rest := (c :: cs).drop s.length
      match closing? c with
      | some close =>
        if bracketLimit ≤ st.brackets.length then none
        else some ([.sign s], { st with brackets := close :: st.brackets }, rest)
      | none =>
        if c = ')' ∨ c = ']' ∨ c = '\x7d' then
          match st.brackets with
          | b :: bs => if b = c then some ([.sign s], { st with brackets := bs }, rest) else none
          | [] => none
        else some ([.sign s], st, rest)

/-- Reads tokens; `fuel` is at least the number of characters. -/
def read? (fuel : Nat) (st : State) (cs : List Char) : Option (List Token) :=
  match fuel with
  | 0 => none
  | fuel + 1 =>
    if st.fresh then
      let (i, rest) := indentOf 0 {} cs
      match rest with
      | [] => some (st.blocks.map fun _ => .dedent)
      | '\n' :: more => read? fuel st more
      | '#' :: more => read? fuel st (more.dropWhile (· != '\n'))
      | _ => do
        let (ts, blocks) ← reindent? i st.blocks
        let more ← read? fuel { st with blocks, fresh := false } rest
        return ts ++ more
    else
      match cs with
      | [] => none
      | c :: cs => do
        let (ts, st, rest) ← step? st c cs
        let more ← read? fuel st rest
        return ts ++ more

/-- The lines of a text, each with a line feed at its end. -/
def lines (text : String) : List Char :=
  let cs := Text.unifyLines text.toList
  if cs.getLast? = some '\n' then cs else cs ++ ['\n']

/-- The tokens of a text, if it has some reading. -/
def tokens? (text : String) : Option (List Token) :=
  let cs := lines text
  if cs.any fun c => c.toNat = 0 then none
  else read? (2 * cs.length + 2) {} cs

end TypedQuery.Script
