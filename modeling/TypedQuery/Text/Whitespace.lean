import TypedQuery.Text.Range

/-!
# White space
-/

namespace TypedQuery.Text

/-- White space characters. -/
def whitespaceRanges : Ranges :=
  #[(0x9, 0xD), (0x1C, 0x20), (0x85, 0x85), (0xA0, 0xA0), (0x1680, 0x1680), (0x2000, 0x200A),
    (0x2028, 0x2029), (0x202F, 0x202F), (0x205F, 0x205F), (0x3000, 0x3000)]

/-- Whether a character is white space. -/
def isSpace (c : Char) : Bool := whitespaceRanges.has c.toNat

/-- A text without the characters of a kind at its ends. -/
def stripWhere (p : Char → Bool) (cs : List Char) : List Char :=
  ((cs.dropWhile p).reverse.dropWhile p).reverse

/-- A text without the white space at its ends. -/
def strip (cs : List Char) : List Char := stripWhere isSpace cs

end TypedQuery.Text
