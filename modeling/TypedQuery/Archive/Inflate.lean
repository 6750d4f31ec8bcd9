/-!
# Compressed data

Data is compressed as a sequence of bits, in which frequent bytes have short codes and repeated
parts are given by how long they are and how far back they stand.

* `Codes`: a set of codes, as the tree of their bits.
* `inflate`: the data that bits stand for, as far as it can be had, and how it ended.

Every step takes at least one bit, so the number of bits bounds the recursion.
-/

namespace TypedQuery.Archive

/-- What is wrong with compressed data. -/
inductive InflateFault where
  | blockType | plainLengths | symbolCount | lengthCodes | lengthRepeat | noEndOfBlock
  | literalCodes | distanceCodes | literalCode | distanceCode | farDistance
  deriving DecidableEq

/-- The fault in words. -/
def InflateFault.message : InflateFault → String
  | .blockType => "invalid block type"
  | .plainLengths => "invalid stored block lengths"
  | .symbolCount => "too many length or distance symbols"
  | .lengthCodes => "invalid code lengths set"
  | .lengthRepeat => "invalid bit length repeat"
  | .noEndOfBlock => "invalid code -- missing end-of-block"
  | .literalCodes => "invalid literal/lengths set"
  | .distanceCodes => "invalid distances set"
  | .literalCode => "invalid literal/length code"
  | .distanceCode => "invalid distance code"
  | .farDistance => "invalid distance too far back"

/-- Why no more can be read: the bits end too early, or they are faulty. -/
inductive Stop where
  | ended
  | corrupt (why : InflateFault)
  deriving DecidableEq

/-- Codes for numbers, by their bits. -/
inductive Codes where
  | empty
  | symbol (n : Nat)
  | fork (zero one : Codes)

namespace Codes

/-- The codes with one more. -/
def insert (n : Nat) : List Bool → Codes → Codes
  | [], _ => .symbol n
  | b :: bs, c =>
    let (zero, one) := match c with
      | .fork zero one => (zero, one)
      | _ => (.empty, .empty)
    if b then .fork zero (insert n bs one) else .fork (insert n bs zero) one

/-- The number whose code comes next, and the bits after it; `fault` is for bits that are no
code. -/
def next (fault : InflateFault) : Codes → List Bool → Except Stop (Nat × List Bool)
  | .symbol n, bits => .ok (n, bits)
  | .fork zero one, b :: bits => if b then one.next fault bits else zero.next fault bits
  | .fork _ _, [] => .error .ended
  | .empty, _ => .error (.corrupt fault)

/-- The lowest `width` bits of a number, the highest of them first. -/
def bitsOf (code : Nat) : Nat → List Bool
  | 0 => []
  | width + 1 => code.testBit width :: bitsOf code width

/-- The longest code. -/
def longest : Nat := 15

/-- The codes for `0`, `1`, … that have the given lengths. Shorter codes come first, and those of
the same length in the order of their numbers. A length of 0 gives no code. -/
def ofLengths (lengths : List Nat) : Codes :=
  ((List.range longest).foldl (fun (s : Nat × Codes) i =>
    lengths.zipIdx.foldl (fun (s : Nat × Codes) (len, n) =>
      if len = i + 1 then (s.1 + 1, s.2.insert n (bitsOf s.1 len)) else s) (2 * s.1, s.2))
    (0, .empty)).2

/-- How many more codes of the longest kind there is room for, unless the lengths need more room
than there is. -/
def room? (lengths : List Nat) : Option Nat :=
  (List.range longest).foldlM (fun room i =>
    let wanted := lengths.count (i + 1)
    if 2 * room < wanted then none else some (2 * room - wanted)) 1

/-- The codes with the given lengths, if the lengths fit. They must use up all the room, except that
a single code of one bit may stand alone. -/
def ofLengths? (lengths : List Nat) : Option Codes :=
  if lengths.all (· == 0) then some (.fork .empty .empty)
  else
    match room? lengths with
    | none => none
    | some room => if room = 0 || lengths.all (· ≤ 1) then some (.ofLengths lengths) else none

/-- The codes for lengths, if their own lengths fit. They must use up all the room. Where there are
no codes at all, any bit stands for 0. -/
def forLengths? (lengths : List Nat) : Option Codes :=
  if lengths.all (· == 0) then some (.fork (.symbol 0) (.symbol 0))
  else if room? lengths = some 0 then some (.ofLengths lengths)
  else none

end Codes

/-! ## Bits -/

/-- The bits of bytes, the lowest of each byte first. -/
def bitsOfBytes (bytes : List UInt8) : List Bool :=
  bytes.flatMap fun b => (List.range 8).map b.toNat.testBit

/-- A number of `width` bits, the lowest first, and the bits after it. -/
def takeNumber : Nat → List Bool → Except Stop (Nat × List Bool)
  | 0, bits => .ok (0, bits)
  | width + 1, b :: bits => do
    let (n, bits) ← takeNumber width bits
    return (2 * n + b.toNat, bits)
  | _ + 1, [] => .error .ended

/-- The rest of the bits from the next byte on. -/
def toByte (bits : List Bool) : List Bool := bits.drop (bits.length % 8)

/-! ## Blocks -/

/-- Appends `count` bytes, each the one that stands `back` before it. -/
def repeatBack (back : Nat) : Nat → Array UInt8 → Array UInt8
  | 0, out => out
  | count + 1, out => repeatBack back count (out.push (out.getD (out.size - back) 0))

/-- The least length that a code stands for, and how many bits are added to it. -/
def lengthOf (n : Nat) : Nat × Nat :=
  if n < 8 then (n + 3, 0)
  else if n = 28 then (258, 0)
  else
    let extra := n / 4 - 1
    ((4 + n % 4) * Nat.pow 2 extra + 3, extra)

/-- The least distance that a code stands for, and how many bits are added to it. -/
def distanceOf (n : Nat) : Nat × Nat :=
  if n < 4 then (n + 1, 0)
  else
    let extra := n / 2 - 1
    ((2 + n % 2) * Nat.pow 2 extra + 1, extra)

/-- A number that is given by a least value and added bits. -/
def takeExtended (base : Nat × Nat) (bits : List Bool) : Except Stop (Nat × List Bool) := do
  let (more, bits) ← takeNumber base.2 bits
  return (base.1 + more, bits)

/-- One item of a block with codes: a byte, the end of the block, or a part that is repeated. -/
inductive Item where
  | byte (value : UInt8)
  | endOfBlock
  | repeated (back count : Nat)

/-- The next item, where `size` bytes are there already. -/
def takeItem (literals distances : Codes) (size : Nat) (bits : List Bool) :
    Except Stop (Item × List Bool) := do
  let (n, bits) ← literals.next .literalCode bits
  if n < 256 then return (.byte (UInt8.ofNat n), bits)
  else if n = 256 then return (.endOfBlock, bits)
  else if 285 < n then .error (.corrupt .literalCode)
  else
    let (count, bits) ← takeExtended (lengthOf (n - 257)) bits
    let (d, bits) ← distances.next .distanceCode bits
    if 29 < d then .error (.corrupt .distanceCode)
    else
      let (back, bits) ← takeExtended (distanceOf d) bits
      if size < back then .error (.corrupt .farDistance) else return (.repeated back count, bits)

/-- The data of a block with codes, as far as it can be had, and the bits after it. -/
def codedBlock (fuel : Nat) (literals distances : Codes) (bits : List Bool) (out : Array UInt8) :
    Array UInt8 × Except Stop (List Bool) :=
  match fuel with
  | 0 => (out, .error .ended)
  | fuel + 1 =>
    match takeItem literals distances out.size bits with
    | .error stop => (out, .error stop)
    | .ok (.byte b, bits) => codedBlock fuel literals distances bits (out.push b)
    | .ok (.endOfBlock, bits) => (out, .ok bits)
    | .ok (.repeated back count, bits) =>
      codedBlock fuel literals distances bits (repeatBack back count out)

/-- The order in which the lengths of the codes for lengths are given. -/
def lengthOrder : List Nat := [16, 17, 18, 0, 8, 7, 9, 6, 10, 5, 11, 4, 12, 3, 13, 2, 14, 1, 15]

/-- Numbers of three bits each. -/
def takeThrees : Nat → List Bool → Except Stop (List Nat × List Bool)
  | 0, bits => .ok ([], bits)
  | count + 1, bits => do
    let (n, bits) ← takeNumber 3 bits
    let (ns, bits) ← takeThrees count bits
    return (n :: ns, bits)

/-- Lengths of codes, of which `count` are wanted. A length may be repeated. -/
def takeLengths (fuel : Nat) (codes : Codes) (count : Nat) (bits : List Bool) (out : List Nat) :
    Except Stop (List Nat × List Bool) :=
  match fuel with
  | 0 => .error .ended
  | fuel + 1 =>
    if count ≤ out.length then .ok (out, bits)
    else do
      let (n, bits) ← codes.next .lengthCodes bits
      if n < 16 then takeLengths fuel codes count bits (out ++ [n])
      else
        let (width, least) := if n = 16 then (2, 3) else if n = 17 then (3, 3) else (7, 11)
        let (more, bits) ← takeNumber width bits
        let times := least + more
        let value := if n = 16 then out.getLast? else some 0
        match value with
        | none => .error (.corrupt .lengthRepeat)
        | some value =>
          if count < out.length + times then .error (.corrupt .lengthRepeat)
          else takeLengths fuel codes count bits (out ++ List.replicate times value)

/-- The codes, if there are any. -/
def codesOr (fault : InflateFault) (codes : Option Codes) : Except Stop Codes :=
  match codes with
  | some c => .ok c
  | none => .error (.corrupt fault)

/-- The codes that a block brings along. -/
def takeCodes (bits : List Bool) : Except Stop (Codes × Codes × List Bool) := do
  let (literals, bits) ← takeNumber 5 bits
  let (distances, bits) ← takeNumber 5 bits
  let (count, bits) ← takeNumber 4 bits
  if 29 < literals || 29 < distances then .error (.corrupt .symbolCount)
  else
    let (given, bits) ← takeThrees (count + 4) bits
    let named := lengthOrder.zip given
    let codes ← codesOr .lengthCodes
      (Codes.forLengths? ((List.range 19).map fun i => (named.lookup i).getD 0))
    let (lengths, bits) ←
      takeLengths (bits.length + 1) codes (literals + distances + 258) bits []
    let own := lengths.take (literals + 257)
    if own[256]? = some 0 then .error (.corrupt .noEndOfBlock)
    else
      let forLiterals ← codesOr .literalCodes (Codes.ofLengths? own)
      let forDistances ← codesOr .distanceCodes (Codes.ofLengths? (lengths.drop (literals + 257)))
      return (forLiterals, forDistances, bits)

/-- The codes of blocks that bring none along. -/
def fixedLiterals : Codes :=
  .ofLengths (List.replicate 144 8 ++ List.replicate 112 9 ++ List.replicate 24 7 ++
    List.replicate 8 8)

/-- The codes of blocks that bring none along. -/
def fixedDistances : Codes := .ofLengths (List.replicate 32 5)

/-- Bytes that are not compressed. -/
def takeBytes : Nat → List Bool → Array UInt8 → Array UInt8 × Except Stop (List Bool)
  | 0, bits, out => (out, .ok bits)
  | count + 1, bits, out =>
    match takeNumber 8 bits with
    | .error stop => (out, .error stop)
    | .ok (n, bits) => takeBytes count bits (out.push (UInt8.ofNat n))

/-- How many bytes a block holds that is not compressed. -/
def takePlainLength (bits : List Bool) : Except Stop (Nat × List Bool) := do
  let (count, bits) ← takeNumber 16 (toByte bits)
  let (check, bits) ← takeNumber 16 bits
  if count + check ≠ 0xFFFF then .error (.corrupt .plainLengths) else return (count, bits)

/-- The data of a block of the given kind. -/
def block (kind : Nat) (bits : List Bool) (out : Array UInt8) :
    Array UInt8 × Except Stop (List Bool) :=
  match kind with
  | 0 =>
    match takePlainLength bits with
    | .error stop => (out, .error stop)
    | .ok (count, bits) => takeBytes count bits out
  | 1 => codedBlock (bits.length + 1) fixedLiterals fixedDistances bits out
  | 2 =>
    match takeCodes bits with
    | .error stop => (out, .error stop)
    | .ok (literals, distances, bits) =>
      codedBlock (bits.length + 1) literals distances bits out
  | _ => (out, .error (.corrupt .blockType))

/-- Whether a block is the last, and its kind. -/
def takeBlockHead (bits : List Bool) : Except Stop (Bool × Nat × List Bool) := do
  let (last, bits) ← takeNumber 1 bits
  let (kind, bits) ← takeNumber 2 bits
  return (last == 1, kind, bits)

/-- The data of all blocks. -/
def blocks (fuel : Nat) (bits : List Bool) (out : Array UInt8) :
    Array UInt8 × Except Stop (List Bool) :=
  match fuel with
  | 0 => (out, .error .ended)
  | fuel + 1 =>
    match takeBlockHead bits with
    | .error stop => (out, .error stop)
    | .ok (last, kind, bits) =>
      match block kind bits out with
      | (out, .error stop) => (out, .error stop)
      | (out, .ok bits) => if last then (out, .ok bits) else blocks fuel bits out

/-- What compressed bytes stand for. -/
structure Inflated where
  /-- The data, as far as it can be had. -/
  data : List UInt8
  /-- How many bytes follow the compressed ones, or why the data is not complete. -/
  rest : Except Stop Nat

/-- Undoes the compression of bytes. -/
def inflate (bytes : List UInt8) : Inflated :=
  let bits := bitsOfBytes bytes
  let (out, result) := blocks (bits.length + 1) bits #[]
  ⟨out.toList, result.map fun bits => bits.length / 8⟩

end TypedQuery.Archive
