import TypedQuery.Text.Digit
import TypedQuery.Text.Quoted
import TypedQuery.Text.Utf8

/-!
# Percent-encoding

A character that has no place in a part of a URL is written as its bytes, each as a percent sign and
two hexadecimal digits. Which characters have a place depends on the part.
-/

namespace TypedQuery.Percent

/-- The characters that may stand in any part. -/
def isUnreserved (c : Char) : Bool :=
  c.toNat < 0x80 && (c.isAlphanum || c == '-' || c == '.' || c == '_' || c == '~')

/-- Whether a character is printable ASCII and none of the given ones. -/
def isPrintableBut (excluded : String) (c : Char) : Bool :=
  0x20 ≤ c.toNat && c.toNat < 0x7F && !excluded.toList.contains c

/-- The characters of a fragment. -/
def isFragmentChar : Char → Bool := isPrintableBut " \"<>\x60"

/-- The characters of a query. -/
def isQueryChar : Char → Bool := isPrintableBut " \"#<>"

/-- The characters of a path. -/
def isPathChar : Char → Bool := isPrintableBut " \"#<>?\x60\x7b\x7d"

/-- The characters of a user's name and password. -/
def isUserChar : Char → Bool := isPrintableBut " \"#<>?\x60\x7b\x7d/;=@[\\]^|"

/-- The characters of a host. -/
def isHostChar (c : Char) : Bool :=
  isUnreserved c || "!$&'()*+,;=\"\x60\x7b\x7d%|\\".toList.contains c

/-- A byte as it is written. -/
def escape (b : UInt8) : List Char := '%' :: (Text.hex 2 b.toNat).map Char.toUpper

/-- Writes a text; the characters that satisfy `keep` stay as they are. -/
def encode (keep : Char → Bool) (cs : List Char) : List Char :=
  cs.flatMap fun c => if keep c then [c] else (Utf8.encode c.toString).flatMap escape

/-- The bytes of a text whose characters are ASCII. A percent sign without two digits behind it
stands for itself. -/
def bytes : List Char → List UInt8
  | [] => []
  | '%' :: a :: b :: cs =>
    match Text.hexDigit? a, Text.hexDigit? b with
    | some x, some y => UInt8.ofNat (16 * x + y) :: bytes cs
    | _, _ => '%'.toUInt8 :: bytes (a :: b :: cs)
  | c :: cs => c.toUInt8 :: bytes cs

/-- Reads a text whose characters are ASCII. -/
def decode (cs : List Char) : String := Utf8.decodeLossy (bytes cs)

end TypedQuery.Percent
