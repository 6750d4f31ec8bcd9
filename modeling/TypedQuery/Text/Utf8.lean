/-!
# UTF-8

`Utf8.decode` reads bytes as text. A fault says where the first bad sequence starts and stops and
what is wrong with it. `Utf8.decodeLossy` reads on behind such sequences.
-/

namespace TypedQuery.Utf8

/-- Why bytes are no UTF-8 text. -/
inductive Reason where
  /-- No character starts with the byte. -/
  | start
  /-- The byte cannot go on with the character that was started. -/
  | continuation
  /-- The bytes end inside a character. -/
  | truncated
  deriving DecidableEq

/-- The reason in words. -/
def Reason.message : Reason → String
  | .start => "invalid start byte"
  | .continuation => "invalid continuation byte"
  | .truncated => "unexpected end of data"

/-- The first bad sequence: the offsets of its first byte and behind its last one. -/
structure Fault where
  start : Nat
  stop : Nat
  reason : Reason
  deriving DecidableEq

/-- The bytes of a text. -/
def encode (text : String) : List UInt8 := text.toUTF8.toList

/-- How many bytes follow a first byte, its share of the code point, and the range of the second
byte. -/
def lead? (b : Nat) : Option (Nat × Nat × Nat × Nat) :=
  if b < 0xC2 then none
  else if b < 0xE0 then some (1, b - 0xC0, 0x80, 0xBF)
  else if b = 0xE0 then some (2, 0, 0xA0, 0xBF)
  else if b = 0xED then some (2, 0xD, 0x80, 0x9F)
  else if b < 0xF0 then some (2, b - 0xE0, 0x80, 0xBF)
  else if b = 0xF0 then some (3, 0, 0x90, 0xBF)
  else if b < 0xF4 then some (3, b - 0xF0, 0x80, 0xBF)
  else if b = 0xF4 then some (3, 4, 0x80, 0x8F)
  else none

/-- Reads `n` more bytes of a character, the first of them between `lo` and `hi`. A fault counts
the bytes before it that are right. -/
def follow (lo hi point taken : Nat) : Nat → List UInt8 → Except (Reason × Nat) Nat
  | 0, _ => .ok point
  | _ + 1, [] => .error (.truncated, taken)
  | n + 1, b :: bs =>
    if lo ≤ b.toNat ∧ b.toNat ≤ hi then
      follow 0x80 0xBF (point * 64 + (b.toNat - 0x80)) (taken + 1) n bs
    else .error (.continuation, taken)

/-- Reads one character: its code point and how many bytes behind the first belong to it. -/
def next (b : UInt8) (bs : List UInt8) : Except (Reason × Nat) (Nat × Nat) :=
  if b.toNat < 0x80 then .ok (b.toNat, 0)
  else
    match lead? b.toNat with
    | none => .error (.start, 1)
    | some (n, point, lo, hi) =>
      match follow lo hi point 1 n bs with
      | .error e => .error e
      | .ok point => .ok (point, n)

/-- Reads bytes that start at `offset`. -/
def decodeFrom (offset : Nat) (bs : List UInt8) : Except Fault (List Char) :=
  match bs with
  | [] => .ok []
  | b :: bs =>
    match next b bs with
    | .error (reason, n) => .error ⟨offset, offset + n, reason⟩
    | .ok (point, n) =>
      match decodeFrom (offset + n + 1) (bs.drop n) with
      | .error e => .error e
      | .ok cs => .ok (Char.ofNat point :: cs)
termination_by bs.length
decreasing_by simp only [List.length_cons, List.length_drop]; omega

/-- Reads bytes; what is wrong in them is replaced. -/
def replaceFaults (bs : List UInt8) : List Char :=
  match bs with
  | [] => []
  | b :: bs =>
    match next b bs with
    | .error (_, n) => '\uFFFD' :: replaceFaults (bs.drop (n - 1))
    | .ok (point, n) => Char.ofNat point :: replaceFaults (bs.drop n)
termination_by bs.length
decreasing_by all_goals simp only [List.length_cons, List.length_drop]; omega

/-- The text of the bytes, with the replacement character for what is wrong in them. -/
def decodeLossy (bs : List UInt8) : String := String.ofList (replaceFaults bs)

/-- The text of the bytes. -/
def decode (bs : List UInt8) : Except Fault String := (decodeFrom 0 bs).map String.ofList

end TypedQuery.Utf8
