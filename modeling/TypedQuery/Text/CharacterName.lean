import TypedQuery.Text.NameTableA
import TypedQuery.Text.NameTableD
import TypedQuery.Text.NameTableL
import TypedQuery.Text.NameTableS
import TypedQuery.Text.Range

/-!
# Names of characters

Every character has a name, such as `EM DASH`, and some have further ones. The names of the
syllables of Hangul are put together from those of their parts, and those of unified ideographs hold
their code points. All other names stand in tables.

A table is a walk through the names in order. Small letters step back from the end of a name, `b` by
one character, `c` by two and so on; the characters behind them lead on to the next name. An
underscore stands for a blank, and line ends do not count.
-/

namespace TypedQuery.Text.CharacterName

/-- How many characters a small letter steps back. -/
def stepBack (c : Char) : Nat := c.toNat - 0x61

/-- Whether a walk comes to a name. Both names are given last character first; `current` is a name
only where a step back or the end follows. -/
def reaches (name current : List Char) (isForward : Bool) : List Char → Bool
  | [] => isForward && current == name
  | c :: cs =>
    if c.isLower then
      (isForward && current == name) || reaches name (current.drop (stepBack c)) false cs
    else if c == ' ' || c == '\n' then reaches name current isForward cs
    else reaches name ((if c == '_' then ' ' else c) :: current) true cs

/-- Whether a table has a name. -/
def tableHas (table : String) (name : List Char) : Bool :=
  reaches name.reverse [] false table.toList

/-- The table for names with the first letter `c`. -/
def tableFor (c : Char) : String :=
  if c ≤ 'C' then namesToC else if c ≤ 'K' then namesToK else if c ≤ 'R' then namesToR else namesToZ

/-! ## Hangul -/

/-- The names of leading consonants. -/
def leading : List String :=
  ["G", "GG", "N", "D", "DD", "R", "M", "B", "BB", "S", "SS", "", "J", "JJ", "C", "K", "T", "P",
    "H"]

/-- The names of vowels. -/
def vowels : List String :=
  ["A", "AE", "YA", "YAE", "EO", "E", "YEO", "YE", "O", "WA", "WAE", "OE", "YO", "U", "WEO", "WE",
    "WI", "YU", "EU", "YI", "I"]

/-- The names of trailing consonants. -/
def trailing : List String :=
  ["", "G", "GG", "GS", "N", "NJ", "NH", "D", "L", "LG", "LM", "LB", "LS", "LT", "LP", "LH", "M",
    "B", "BS", "S", "SS", "NG", "J", "C", "K", "T", "P", "H"]

/-- What follows the longest of the names that a text starts with. -/
def behindLongest (names : List String) (cs : List Char) : Option (List Char) :=
  let lengths := (names.filter (·.toList.isPrefixOf cs)).map String.length
  lengths.max?.map cs.drop

/-- Whether a text is the name of a syllable. -/
def isSyllable (cs : List Char) : Bool :=
  (behindLongest leading cs).bind (behindLongest vowels) |>.bind (behindLongest trailing)
    |>.any List.isEmpty

/-! ## Ideographs -/

/-- The code points of unified ideographs. -/
def ideographs : Ranges :=
  #[(0x3400, 0x4DBF), (0x4E00, 0x9FFF), (0x20000, 0x2A6DF), (0x2A700, 0x2B738), (0x2B740, 0x2B81D),
    (0x2B820, 0x2CEA1), (0x2CEB0, 0x2EBE0), (0x30000, 0x3134A)]

/-- Whether a text is the code point of a unified ideograph. -/
def isIdeograph (cs : List Char) : Bool :=
  (cs.length = 4 || cs.length = 5) && cs.all (fun c => c.isDigit || ('A' ≤ c && c ≤ 'F')) &&
    ideographs.has (hexNumber cs)

/-! ## All names -/

/-- What follows the beginning `start`. -/
def behind? (start : String) (cs : List Char) : Option (List Char) :=
  if start.toList.isPrefixOf cs then some (cs.drop start.length) else none

/-- Whether some character has the name. Small letters count as capital ones in the tables only. -/
def isKnown (cs : List Char) : Bool :=
  match behind? "HANGUL SYLLABLE " cs, behind? "CJK UNIFIED IDEOGRAPH-" cs with
  | some rest, _ => isSyllable rest
  | none, some rest => isIdeograph rest
  | none, none =>
    match cs.map Char.toUpper with
    | [] => false
    | c :: name => tableHas (tableFor c) (c :: name)

end TypedQuery.Text.CharacterName
