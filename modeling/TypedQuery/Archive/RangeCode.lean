import Std.Data.HashMap
import TypedQuery.Archive.Checksum
import TypedQuery.Archive.Unpacked

/-!
# Range codes

Data is packed as a sequence of items: single bytes, and parts that are repeated from further
ahead. The items are written in bits, and the bits as a number in a range, which each bit narrows
down the less, the more likely the bit is. How likely a bit is depends on its `Context`, and is
learned from the bits that came before in that context.

* `Ranged.takeBit`: reads a bit in a context.
* `Ranged.takeItem`: reads an item.
* `unpackRanged`: the data of a sequence of items.

Reading a bit narrows the range by a certain share at least, so the number of bytes bounds how many
items there can be.
-/

namespace TypedQuery.Archive

namespace Ranged

/-! ## Bits -/

/-- Bits that belong together, as the decisions on the way down a tree. -/
inductive Tree where
  | literal (place : Nat)
  | shortLength (isRepeat : Bool) (place : Nat)
  | middleLength (isRepeat : Bool) (place : Nat)
  | longLength (isRepeat : Bool)
  /-- The size of a distance. -/
  | slot (length : Nat)
  /-- The lower bits of a distance whose size is `slot`. -/
  | nearDistance (slot : Nat)
  /-- The lowest bits of a large distance. -/
  | farDistance
  deriving DecidableEq, Hashable

/-- What a bit decides. -/
inductive Context where
  /-- Whether an item is more than a byte. -/
  | isPart (phase place : Nat)
  /-- Whether a part has a distance that was used lately. -/
  | isRepeat (phase : Nat)
  /-- Whether that distance is not the last one. -/
  | notLast (phase : Nat)
  /-- Whether it is not the one before. -/
  | notSecond (phase : Nat)
  /-- Whether it is not the third one. -/
  | notThird (phase : Nat)
  /-- Whether a part at the last distance is longer than a byte. -/
  | isLonger (phase place : Nat)
  /-- Whether a length is not short. -/
  | notShort (isRepeat : Bool)
  /-- Whether a length is not in the middle either. -/
  | notMiddle (isRepeat : Bool)
  | node (tree : Tree) (index : Nat)
  deriving DecidableEq, Hashable

/-- A number in a range, and what is known of its bits. -/
structure Coder where
  range : UInt32
  code : UInt32
  /-- How likely a bit is not set, out of `certain`. -/
  chances : Std.HashMap Context Nat
  input : List UInt8

/-- Reads bits; it fails with the way in which they end. -/
abbrev Reading := StateT Coder (Except Ending)

/-- What stands for certainty. -/
def certain : Nat := 2048

/-- How likely a bit is not set of which nothing is known. -/
def unknown : Nat := 1024

/-- The smallest range in which a bit is read. -/
def smallestRange : UInt32 := 0x1000000

/-- Takes in a byte where the range has become small. -/
def normalize : Reading Unit := do
  let c ← get
  if c.range < smallestRange then
    match c.input with
    | [] => throw .cut
    | b :: input =>
      set { c with range := c.range <<< 8, code := (c.code <<< 8) ||| b.toUInt32, input }

/-- The next bit, which decides something. -/
def takeBit (context : Context) : Reading Bool := do
  normalize
  let c ← get
  let chance := c.chances.getD context unknown
  let bound := (c.range >>> 11) * UInt32.ofNat chance
  if c.code < bound then
    let chance := chance + (certain - chance) / 32
    set { c with range := bound, chances := c.chances.insert context chance }
    return false
  else
    let chance := chance - chance / 32
    set { c with
      range := c.range - bound
      code := c.code - bound
      chances := c.chances.insert context chance }
    return true

/-- The next bit, which is as likely set as not. -/
def takeEvenBit : Reading Bool := do
  normalize
  let c ← get
  let range := c.range >>> 1
  let code := c.code - range
  if code >>> 31 = 1 then
    set { c with range }
    return false
  else
    set { c with range, code }
    return true

/-- A number of `width` bits, each as likely set as not, the highest first. -/
def takeEven (width : Nat) : Reading Nat :=
  (List.range width).foldlM (fun n _ => do return 2 * n + (← takeEvenBit).toNat) 0

/-- A number of `width` bits, the highest first. -/
def takeTree (tree : Tree) (width : Nat) : Reading Nat := do
  let node ← (List.range width).foldlM (fun node _ => do
    return 2 * node + (← takeBit (.node tree node)).toNat) 1
  return node - Nat.pow 2 width

/-- A number of `width` bits, the lowest first. -/
def takeReversed (tree : Tree) (width : Nat) : Reading Nat := do
  let (_, n) ← (List.range width).foldlM (fun (s : Nat × Nat) i => do
    let bit := (← takeBit (.node tree s.1)).toNat
    return (2 * s.1 + bit, s.2 + bit * Nat.pow 2 i)) (1, 0)
  return n

/-! ## Items -/

/-- How many bits of the place and of the byte before a byte, and how many of the place of a part,
matter to how likely their bits are. -/
structure Properties where
  byteBits : Nat
  placeBits : Nat
  partBits : Nat
  /-- How far back a part may be. -/
  reach : Nat
  deriving DecidableEq

/-- The properties that bytes stand for, if they stand for any. -/
def Properties.ofBytes? (bytes : List UInt8) : Option Properties :=
  match bytes with
  | b :: size =>
    let n := b.toNat
    let reach := (max 4096 (numberOf size) + 15) / 16 * 16
    let p : Properties := ⟨n % 9, n / 9 % 5, n / 45, reach⟩
    if size.length = 4 && p.partBits ≤ 4 && p.byteBits + p.placeBits ≤ 4 then some p else none
  | [] => none

/-- The data as far as it is known, and what the next item depends on. -/
structure Progress where
  out : Array UInt8 := #[]
  /-- What kinds the last items were of. -/
  phase : Nat := 0
  /-- The distances that were used lately, less one. -/
  last : Nat := 0
  second : Nat := 0
  third : Nat := 0
  fourth : Nat := 0

namespace Progress

/-- The byte at a distance, less one. -/
def byteAt (p : Progress) (distance : Nat) : UInt8 :=
  if distance < p.out.size then p.out.getD (p.out.size - 1 - distance) 0 else 0

/-- Whether the last item was a byte. -/
def isAfterByte (p : Progress) : Bool := p.phase < 7

/-- The progress with a byte as the last item. -/
def withByte (p : Progress) (b : UInt8) : Progress :=
  { p with
    out := p.out.push b
    phase := if p.phase < 4 then 0 else if p.phase < 10 then p.phase - 3 else p.phase - 6 }

/-- Repeats `length` bytes from the last distance. -/
def copy (p : Progress) : Nat → Progress
  | 0 => p
  | length + 1 => copy { p with out := p.out.push (p.byteAt p.last) } length

end Progress

/-- Reads a byte. Behind a part, its bits are compared with those of the byte that would continue
the part. -/
def takeLiteral (q : Properties) (p : Progress) : Reading UInt8 := do
  let place := p.out.size % Nat.pow 2 q.placeBits
  let tree : Tree := .literal
    (place * Nat.pow 2 q.byteBits + (p.byteAt 0).toNat / Nat.pow 2 (8 - q.byteBits))
  let hint := (p.byteAt p.last).toNat
  let (node, _) ← (List.range 8).foldlM (fun (s : Nat × Bool) i => do
    let wanted := hint.testBit (7 - i)
    let index := if s.2 then 256 * (1 + wanted.toNat) + s.1 else s.1
    let bit ← takeBit (.node tree index)
    return (2 * s.1 + bit.toNat, s.2 && bit == wanted)) (1, !p.isAfterByte)
  return UInt8.ofNat node

/-- The shortest part with a distance. -/
def shortest : Nat := 2

/-- Reads the length of a part, less the shortest. -/
def takeLength (isRepeat : Bool) (place : Nat) : Reading Nat := do
  if ← takeBit (.notShort isRepeat) then
    if ← takeBit (.notMiddle isRepeat) then return 16 + (← takeTree (.longLength isRepeat) 8)
    else return 8 + (← takeTree (.middleLength isRepeat place) 3)
  else takeTree (.shortLength isRepeat place) 3

/-- Reads a distance, less one. -/
def takeDistance (length : Nat) : Reading Nat := do
  let slot ← takeTree (.slot (min length 3)) 6
  if slot < 4 then return slot
  else
    let width := slot / 2 - 1
    let high := (2 + slot % 2) * Nat.pow 2 width
    if slot < 14 then return high + (← takeReversed (.nearDistance slot) width)
    else
      let middle ← takeEven (width - 4)
      return high + 16 * middle + (← takeReversed .farDistance 4)

/-- The distance that marks the end. -/
def endDistance : Nat := 0xFFFFFFFF

/-- Reads a part with a distance of its own. -/
def takePart (q : Properties) (p : Progress) (place : Nat) : Reading (Option Progress) := do
  let length ← takeLength false place
  let distance ← takeDistance length
  if distance = endDistance then
    normalize
    if (← get).code = 0 then return none else throw .corrupt
  else if min p.out.size q.reach ≤ distance then throw .corrupt
  else
    let phase := if p.isAfterByte then 7 else 10
    let p : Progress := ⟨p.out, phase, distance, p.last, p.second, p.third⟩
    return some (p.copy (length + shortest))

/-- Reads which of the latest distances a part has, and puts it first. -/
def takeLatest (p : Progress) : Reading Progress := do
  if ← takeBit (.notSecond p.phase) then
    if ← takeBit (.notThird p.phase) then
      return { p with last := p.fourth, second := p.last, third := p.second, fourth := p.third }
    else return { p with last := p.third, second := p.last, third := p.second }
  else return { p with last := p.second, second := p.last }

/-- Reads a part with one of the latest distances. -/
def takeRepeat (p : Progress) (place : Nat) : Reading Progress := do
  if p.out.isEmpty then throw .corrupt
  let isNotLast ← takeBit (.notLast p.phase)
  let isShort ← if isNotLast then pure false else (!·) <$> takeBit (.isLonger p.phase place)
  if isShort then return { p with phase := if p.isAfterByte then 9 else 11 }.copy 1
  else
    let p ← if isNotLast then takeLatest p else pure p
    let length ← takeLength true place
    return { p with phase := if p.isAfterByte then 8 else 11 }.copy (length + shortest)

/-- Reads an item; none at the end. -/
def takeItem (q : Properties) (p : Progress) : Reading (Option Progress) := do
  let place := p.out.size % Nat.pow 2 q.partBits
  if ← takeBit (.isPart p.phase place) then
    if ← takeBit (.isRepeat p.phase) then return some (← takeRepeat p place)
    else takePart q p place
  else return some (p.withByte (← takeLiteral q p))

/-! ## Sequences of items -/

/-- Reads items to the end. -/
def items (q : Properties) : Nat → Coder → Progress → Unpacked
  | 0, _, p => ⟨p.out.toList, .cut⟩
  | fuel + 1, c, p =>
    match (takeItem q p).run c with
    | .error ending => ⟨p.out.toList, ending⟩
    | .ok (none, _) => ⟨p.out.toList, .complete⟩
    | .ok (some p, c) => items q fuel c p

/-- More than the number of bits that a byte can stand for. -/
def bitsOfByte : Nat := 400

/-- The number at the start: four bytes behind a zero. -/
def start (bytes : List UInt8) : Except Ending Coder :=
  match bytes with
  | [] => .error .cut
  | 0 :: a :: b :: c :: d :: input =>
    .ok ⟨0xFFFFFFFF, UInt32.ofNat (numberOf [d, c, b, a]), ∅, input⟩
  | first :: _ => .error (if first = 0 then .cut else .corrupt)

/-- The data of the items that `bytes` stand for. -/
def unpack (q : Properties) (bytes : List UInt8) : Unpacked :=
  match start bytes with
  | .error ending => ⟨[], ending⟩
  | .ok c => items q (bitsOfByte * (bytes.length + 2)) c {}

end Ranged

/-- The data that was packed with range codes, unless the properties at the start are none. Before
them stand a version and how many bytes they have. -/
def unpackRanged? (packed : List UInt8) : Option Unpacked :=
  let size := numberAt 2 2 packed
  let rest := packed.drop 4
  if rest.length ≤ size || packed.length ≤ 4 then some ⟨[], .cut⟩
  else (Ranged.Properties.ofBytes? (rest.take size)).map fun q => Ranged.unpack q (rest.drop size)

end TypedQuery.Archive
