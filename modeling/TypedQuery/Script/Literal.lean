import TypedQuery.Text.CharacterName
import TypedQuery.Text.Digit

/-!
# Inside strings of Python text

* `areEscapes`: whether each backslash in a string starts an escape that can be read. Behind most
  characters anything goes; escapes by code or name must be complete and name a character.
* `fields?`: the expressions in the braces of a formatted string. Braces in pairs stand for
  themselves. A field may have a conversion and a format, and the format may have fields again, but
  not those any further.
-/

namespace TypedQuery.Script

/-! ## Escapes -/

/-- The number that the first `n` characters stand for as hexadecimal digits. -/
def hexCode? (n : Nat) (cs : List Char) : Option Nat := do
  let digits ← (cs.take n).mapM Text.hexDigit?
  if digits.length = n then return digits.foldl (16 * · + ·) 0 else none

/-- Whether the escape with the letter `c` can be read when `cs` follows it. -/
def isEscape (isBytes : Bool) (c : Char) (cs : List Char) : Bool :=
  if c = 'x' then (hexCode? 2 cs).isSome
  else if isBytes then true
  else if c = 'u' then (hexCode? 4 cs).isSome
  else if c = 'U' then (hexCode? 8 cs).any (· ≤ 0x10FFFF)
  else if c = 'N' then
    match cs with
    | '\x7b' :: rest =>
      let name := rest.takeWhile (· != '\x7d')
      name.length < rest.length && Text.CharacterName.isKnown name
    | _ => false
  else true

/-- Whether all escapes in a string can be read. A backslash at the end stands for itself. -/
def areEscapes (isBytes : Bool) : List Char → Bool
  | [] => true
  | '\\' :: c :: cs => isEscape isBytes c cs && areEscapes isBytes cs
  | _ :: cs => areEscapes isBytes cs

/-! ## Text around fields -/

/-- Text in a formatted string: its characters, whether it ends with a pair of braces, and what
follows it. -/
structure Passage where
  text : List Char
  isPair : Bool
  rest : List Char

/-- The passage with a character in front. -/
def Passage.cons (c : Char) (p : Passage) : Passage := { p with text := c :: p.text }

/-- The passage that ends at the brace `c`. In a format braces do not stand for themselves, and
elsewhere a closing one does not stand alone. -/
def atBrace? (inFormat : Bool) (c : Char) (cs : List Char) : Option Passage :=
  if inFormat then some ⟨[], false, c :: cs⟩
  else if cs.head? = some c then some ⟨[c], true, cs.drop 1⟩
  else if c = '\x7d' then none
  else some ⟨[], false, c :: cs⟩

/-- Whether a character is a brace. -/
def isBrace (c : Char) : Bool := c = '\x7b' || c = '\x7d'

/-- Reads text up to a brace; `skip` counts the characters that belong to a name in braces. -/
def passage? (isRaw inFormat : Bool) (skip : Nat) : List Char → Option Passage
  | [] => some ⟨[], false, []⟩
  | c :: cs =>
    match skip with
    | skip + 1 => (passage? isRaw inFormat skip cs).map (.cons c)
    | 0 =>
      if isBrace c then atBrace? inFormat c cs
      else
        let skip :=
          if !isRaw && c = '\\' then
            match cs with
            | 'N' :: '\x7b' :: rest => (rest.takeWhile (· != '\x7d')).length + 3
            | d :: _ => if isBrace d then 0 else 1
            | [] => 0
          else 0
        (passage? isRaw inFormat skip cs).map (.cons c)

/-! ## Expressions in fields -/

/-- A quote that has to close: its character, and whether there are three. -/
structure OpenQuote where
  mark : Char
  isLong : Bool

/-- The bracket that closes `c`. -/
def closing? (c : Char) : Option Char :=
  if c = '(' then some ')' else if c = '[' then some ']'
  else if c = '\x7b' then some '\x7d' else none

/-- Whether a character can end an expression outside all brackets. -/
def endsField (c : Char) : Bool := ['!', ':', '\x7d', '=', '<', '>'].contains c

/-- Reads the expression of a field: its characters, and what follows it. `skip` counts characters
that belong to the one before them. Neither backslashes nor comments may stand in it. -/
def fieldText? (quote : Option OpenQuote) (brackets : List Char) (skip : Nat) :
    List Char → Option (List Char × List Char)
  | [] => none
  | c :: cs =>
    let go (quote : Option OpenQuote) (brackets : List Char) (skip : Nat) :=
      (fieldText? quote brackets skip cs).map fun (text, rest) => (c :: text, rest)
    match skip with
    | skip + 1 => go quote brackets skip
    | 0 =>
      if c = '\\' then none
      else
        match quote with
        | some q =>
          if q.isLong then
            if [q.mark, q.mark, q.mark].isPrefixOf (c :: cs) then go none brackets 2
            else go quote brackets 0
          else go (if c = q.mark then none else quote) brackets 0
        | none =>
          if c = '"' || c = '\'' then
            if [c, c, c].isPrefixOf (c :: cs) then go (some ⟨c, true⟩) brackets 2
            else go (some ⟨c, false⟩) brackets 0
          else if c = '#' then none
          else
            match closing? c, brackets with
            | some close, _ => go none (close :: brackets) 0
            | none, b :: bs =>
              if c = ')' || c = ']' || c = '\x7d' then if c = b then go none bs 0 else none
              else go none brackets 0
            | none, [] =>
              if endsField c then
                if cs.head? = some '=' && c != ':' && c != '\x7d' then go none [] 1
                else if c = '<' || c = '>' then go none [] 0
                else some ([], c :: cs)
              else if c = ')' || c = ']' then none
              else go none [] 0

/-- Whether a character is blank between tokens. -/
def isFieldBlank (c : Char) : Bool := c = ' ' || c = '\t' || c = '\n' || c = '\x0c'

/-- Whether a character is blank behind the equals sign of a field. -/
def isMarginBlank (c : Char) : Bool := isFieldBlank c || c = '\r' || c = '\x0b'

/-- What follows an equals sign behind an expression. -/
def behindEquals (cs : List Char) : List Char :=
  match cs with
  | '=' :: rest => rest.dropWhile isMarginBlank
  | cs => cs

/-- What follows the conversion of a field. -/
def behindConversion? (cs : List Char) : Option (List Char) :=
  match cs with
  | '!' :: c :: rest => if c = 's' || c = 'r' || c = 'a' then some rest else none
  | '!' :: _ => none
  | cs => some cs

/-- How deep fields may stand in formats. -/
def formatDepth : Nat := 2

/-- Reads a formatted string, or the format of a field `depth` fields deep: the expressions, and
what follows them. -/
def pieces? (fuel : Nat) (isRaw : Bool) (depth : Nat) (cs : List Char) :
    Option (List (List Char) × List Char) :=
  match fuel with
  | 0 => none
  | fuel + 1 => do
    let p ← passage? isRaw (0 < depth) 0 cs
    if !(isRaw || areEscapes false p.text) then none
    match p.isPair, p.rest with
    | true, rest => pieces? fuel isRaw depth rest
    | false, '\x7b' :: rest => do
      if formatDepth ≤ depth then none
      let (text, rest) ← fieldText? none [] 0 rest
      if text.all isFieldBlank then none
      let rest ← behindConversion? (behindEquals rest)
      let (inner, rest) ←
        match rest with
        | ':' :: rest => pieces? fuel isRaw (depth + 1) rest
        | rest => some ([], rest)
      match rest with
      | '\x7d' :: rest => do
        let (more, rest) ← pieces? fuel isRaw depth rest
        return (text :: inner ++ more, rest)
      | _ => none
    | false, rest => return ([], rest)

/-- The expressions in the fields of a formatted string, in parentheses. -/
def fields? (isRaw : Bool) (cs : List Char) : Option (List (List Char)) := do
  let (texts, _) ← pieces? (cs.length + 1) isRaw 0 cs
  return texts.map fun text => '(' :: text ++ [')']

end TypedQuery.Script
