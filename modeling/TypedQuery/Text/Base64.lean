/-!
# Base64

Three bytes become four characters of the alphabet; the last group is filled up with `=`.
-/

namespace TypedQuery.Base64

/-- The alphabet. -/
def alphabet : List Char :=
  "ABCDEFGHIJKLMNOPQRSTUVWXYZabcdefghijklmnopqrstuvwxyz0123456789+/".toList

/-- The character for six bits. -/
def digit (n : Nat) : Char := (alphabet.drop (n % 64)).headD 'A'

/-- The characters for bytes. -/
def encodeChars : List UInt8 → List Char
  | [] => []
  | [a] => [digit (a.toNat / 4), digit (a.toNat * 16), '=', '=']
  | [a, b] =>
    [digit (a.toNat / 4), digit (a.toNat * 16 + b.toNat / 16), digit (b.toNat * 4), '=']
  | a :: b :: c :: rest =>
    digit (a.toNat / 4) :: digit (a.toNat * 16 + b.toNat / 16) ::
      digit (b.toNat * 4 + c.toNat / 64) :: digit c.toNat :: encodeChars rest

/-- Bytes as text. -/
def encode (bytes : List UInt8) : String := String.ofList (encodeChars bytes)

/-- The six bits of a character. -/
def value? (c : Char) : Option Nat := alphabet.idxOf? c

/-- The bytes of groups of six bits. -/
def bytesOf : List Nat → List UInt8
  | a :: b :: c :: d :: rest =>
    (a * 4 + b / 16).toUInt8 :: (b * 16 + c / 4).toUInt8 :: (c * 64 + d).toUInt8 :: bytesOf rest
  | [a, b, c] => [(a * 4 + b / 16).toUInt8, (b * 16 + c / 4).toUInt8]
  | [a, b] => [(a * 4 + b / 16).toUInt8]
  | _ => []

/-- The bytes of a text; characters outside the alphabet do not count. -/
def decode (text : String) : List UInt8 := bytesOf (text.toList.filterMap value?)

end TypedQuery.Base64
