import TypedQuery.Text.Printable

/-!
# Quoted text

Messages show a text between quotes: single ones, or double ones if the text has a single quote
and no double one. The quote in use and the backslash are escaped, and a character that is not
printable is shown by its code.
-/

namespace TypedQuery.Text

/-- `n` in lower-case hexadecimal with at least `width` digits. -/
def hex (width n : Nat) : List Char :=
  let digits := Nat.toDigits 16 n
  List.replicate (width - digits.length) '0' ++ digits

/-- The escape of a code point: two, four or eight digits, as many as it needs. -/
def codeEscape (n : Nat) : List Char :=
  if n < 0x100 then '\\' :: 'x' :: hex 2 n
  else if n < 0x10000 then '\\' :: 'u' :: hex 4 n
  else '\\' :: 'U' :: hex 8 n

/-- A code point between the quotes `q`. -/
def quotedPoint (q : Char) (n : Nat) : List Char :=
  if n = q.toNat ∨ n = '\\'.toNat then ['\\', Char.ofNat n]
  else if n = '\n'.toNat then ['\\', 'n']
  else if n = '\r'.toNat then ['\\', 'r']
  else if n = '\t'.toNat then ['\\', 't']
  else if n.isValidChar ∧ isPrintable n then [Char.ofNat n]
  else codeEscape n

/-- The quote to use around code points. -/
def quoteFor (points : List Nat) : Char :=
  if points.contains '\''.toNat && !points.contains '"'.toNat then '"' else '\''

/-- Code points between quotes. -/
def quotePoints (points : List Nat) : String :=
  let q := quoteFor points
  String.ofList (q :: (points.flatMap (quotedPoint q) ++ [q]))

/-- A byte between the quotes `q`. Only the characters of ASCII are shown as such. -/
def quotedByte (q : Char) (b : UInt8) : List Char :=
  if b < 0x7F then quotedPoint q b.toNat else codeEscape b.toNat

/-- Bytes between quotes. -/
def quoteBytes (bytes : List UInt8) : String :=
  let q := quoteFor (bytes.map UInt8.toNat)
  String.ofList ('b' :: q :: (bytes.flatMap (quotedByte q) ++ [q]))

/-- A text between quotes. -/
def quote (s : String) : String := quotePoints (s.toList.map Char.toNat)

end TypedQuery.Text
