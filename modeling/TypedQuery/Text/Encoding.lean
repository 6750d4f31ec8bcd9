import TypedQuery.Text.Quoted
import TypedQuery.Text.Utf8

/-!
# Encodings of JSON bytes

JSON comes as UTF-8, UTF-16 or UTF-32. `Encoding.detect` tells them apart by a byte order mark or by
where the zero bytes of the first characters stand. A surrogate without its partner has no place in
a text and is replaced.
-/

namespace TypedQuery

/-- An encoding of text. The larger ones have either byte order. -/
inductive Encoding where
  | utf8
  | utf16 (bigEndian : Bool)
  | utf32 (bigEndian : Bool)
  deriving DecidableEq

namespace Encoding

/-- The name of the encoding. -/
def name : Encoding → String
  | .utf8 => "utf-8"
  | .utf16 false => "utf-16-le"
  | .utf16 true => "utf-16-be"
  | .utf32 false => "utf-32-le"
  | .utf32 true => "utf-32-be"

/-- Bytes that cannot be decoded: the offsets of the first bad one and behind the last, the first
bad byte, and the reason. -/
structure Fault where
  encoding : Encoding
  start : Nat
  stop : Nat
  byte : UInt8
  reason : String
  deriving DecidableEq

/-- The fault in words. -/
def Fault.message (f : Fault) : String :=
  let place := if f.stop ≤ f.start + 1 then
      "byte 0x" ++ String.ofList (Text.hex 2 f.byte.toNat) ++ " in position " ++ toString f.start
    else "bytes in position " ++ toString f.start ++ "-" ++ toString (f.stop - 1)
  "'" ++ f.encoding.name ++ "' codec can't decode " ++ place ++ ": " ++ f.reason

/-- A fault of UTF-8 bytes. -/
def Fault.ofUtf8 (bytes : List UInt8) (f : Utf8.Fault) : Fault :=
  ⟨.utf8, f.start, f.stop, (bytes.drop f.start).headD 0, f.reason.message⟩

/-- The encoding of bytes and how many of them are its byte order mark. -/
def detect (bs : List UInt8) : Encoding × Nat :=
  match bs with
  | 0x00 :: 0x00 :: 0xFE :: 0xFF :: _ => (.utf32 true, 4)
  | 0xFF :: 0xFE :: 0x00 :: 0x00 :: _ => (.utf32 false, 4)
  | 0xFE :: 0xFF :: _ => (.utf16 true, 2)
  | 0xFF :: 0xFE :: _ => (.utf16 false, 2)
  | 0xEF :: 0xBB :: 0xBF :: _ => (.utf8, 3)
  | a :: b :: c :: d :: _ =>
    if a = 0 then (if b = 0 then .utf32 true else .utf16 true, 0)
    else if b = 0 then (if c = 0 ∧ d = 0 then .utf32 false else .utf16 false, 0)
    else (.utf8, 0)
  | [a, b] =>
    if a = 0 then (.utf16 true, 0) else if b = 0 then (.utf16 false, 0) else (.utf8, 0)
  | _ => (.utf8, 0)

/-- The character of a code point; a surrogate is replaced. -/
def charOf (n : Nat) : Char := if n.isValidChar then Char.ofNat n else '\uFFFD'

/-! ## UTF-8 -/

/-- Reads UTF-8 bytes that start at `offset`; three bytes that encode a surrogate pass. -/
def decode8 (offset : Nat) (bs : List UInt8) : Except Fault (List Char) :=
  match bs with
  | [] => .ok []
  | b :: bs =>
    match Utf8.next b bs with
    | .ok (point, n) =>
      match decode8 (offset + n + 1) (bs.drop n) with
      | .error e => .error e
      | .ok cs => .ok (charOf point :: cs)
    | .error (reason, n) =>
      let fault : Except Fault (List Char) :=
        .error ⟨.utf8, offset, offset + n, b, reason.message⟩
      match bs with
      | c :: d :: rest =>
        if b = 0xED ∧ 0xA0 ≤ c.toNat ∧ c.toNat ≤ 0xBF ∧ 0x80 ≤ d.toNat ∧ d.toNat ≤ 0xBF then
          match decode8 (offset + 3) rest with
          | .error e => .error e
          | .ok cs => .ok ('\uFFFD' :: cs)
        else fault
      | _ => fault
termination_by bs.length
decreasing_by all_goals simp_all <;> omega

/-! ## UTF-16 and UTF-32 -/

/-- The number that two bytes make. -/
def unit (bigEndian : Bool) (a b : UInt8) : Nat :=
  if bigEndian then a.toNat * 256 + b.toNat else b.toNat * 256 + a.toNat

/-- Joins surrogates to code points. -/
def joinPairs : List Nat → List Nat
  | [] => []
  | h :: l :: rest =>
    if 0xD800 ≤ h ∧ h ≤ 0xDBFF ∧ 0xDC00 ≤ l ∧ l ≤ 0xDFFF then
      (0x10000 + (h - 0xD800) * 0x400 + (l - 0xDC00)) :: joinPairs rest
    else h :: joinPairs (l :: rest)
  | [h] => [h]

/-- The units of UTF-16 bytes that start at `offset`. -/
def units16 (bigEndian : Bool) (offset : Nat) : List UInt8 → Except Fault (List Nat)
  | [] => .ok []
  | [a] => .error ⟨.utf16 bigEndian, offset, offset + 1, a, "truncated data"⟩
  | a :: b :: rest => do
    let more ← units16 bigEndian (offset + 2) rest
    return unit bigEndian a b :: more

/-- The code points of UTF-32 bytes that start at `offset`. -/
def points32 (bigEndian : Bool) (offset : Nat) : List UInt8 → Except Fault (List Nat)
  | [] => .ok []
  | a :: b :: c :: d :: rest =>
    let n := if bigEndian then unit true a b * 65536 + unit true c d
      else unit false c d * 65536 + unit false a b
    if 0x110000 ≤ n then
      .error ⟨.utf32 bigEndian, offset, offset + 4, a, "code point not in range(0x110000)"⟩
    else do
      let more ← points32 bigEndian (offset + 4) rest
      return n :: more
  | a :: rest =>
    .error ⟨.utf32 bigEndian, offset, offset + 1 + rest.length, a, "truncated data"⟩

/-- Reads JSON bytes as text. Offsets in UTF-8 count from behind the byte order mark. -/
def decode (bs : List UInt8) : Except Fault String :=
  let (encoding, mark) := detect bs
  let rest := bs.drop mark
  match encoding with
  | .utf8 => (decode8 0 rest).map String.ofList
  | .utf16 big => (units16 big mark rest).map fun us => String.ofList ((joinPairs us).map charOf)
  | .utf32 big => (points32 big mark rest).map fun ps => String.ofList (ps.map charOf)

end Encoding

end TypedQuery
