import TypedQuery.Archive.Unpacked

/-!
# Sorted blocks

Data is packed block by block. The bytes of a block are sorted by what follows them, so that equal
bytes come together; then each byte is replaced by how many others were seen since it was seen last,
and these numbers are written in codes of varying length.

* `expandRuns`: undoes the coding of runs that is applied before a block is sorted.
* `unsort`: puts the sorted bytes of a block back into their order.
* `unpackSorted`: the data of a sequence of blocks.

Each block has a checksum, and so has the sequence.
-/

namespace TypedQuery.Archive

namespace Sorted

/-! ## Bits -/

/-- Reads bits; it fails with the way in which they end. -/
abbrev Reading := StateT (List Bool) (Except Ending)

/-- The bits of bytes, the highest of each byte first. -/
def bitsOfBytes (bytes : List UInt8) : List Bool :=
  bytes.flatMap fun b => (List.range 8).map fun i => b.toNat.testBit (7 - i)

/-- Something that no data is packed as. -/
def corrupt {α : Type} : Reading α := throw .corrupt

/-- The next bit. -/
def takeBit : Reading Bool := fun
  | [] => .error .cut
  | b :: bits => .ok (b, bits)

/-- A number of `width` bits, the highest first. -/
def takeNumber (width : Nat) : Reading Nat :=
  (List.range width).foldlM (fun n _ => do return 2 * n + (← takeBit).toNat) 0

/-- Bytes that have to come next. -/
def takeMark (bytes : List Nat) : Reading Unit :=
  bytes.forM fun b => do if (← takeNumber 8) ≠ b then corrupt

/-- How many bits are set before one that is not. There must be fewer than `room`. -/
def takeUnary : Nat → Reading Nat
  | 0 => corrupt
  | room + 1 => do if ← takeBit then return (← takeUnary room) + 1 else return 0

/-! ## Codes -/

/-- The longest code. -/
def longest : Nat := 20

/-- Codes for numbers. Shorter codes come first. -/
structure Codes where
  /-- How many codes there are of each length. -/
  counts : List Nat
  /-- The numbers in the order of their codes. -/
  symbols : Array Nat

namespace Codes

/-- The codes for `0`, `1`, … that have the given lengths. -/
def ofLengths (lengths : List Nat) : Codes :=
  let of (length : Nat) : List Nat :=
    lengths.zipIdx.filterMap fun (l, n) => if l = length then some n else none
  let byLength := (List.range longest).map fun i => of (i + 1)
  ⟨byLength.map List.length, byLength.flatten.toArray⟩

/-- Reads a code of which `code` is known. The codes of the next length start with `first`, and
there are `skipped` shorter ones. -/
def takeFrom (symbols : Array Nat) : List Nat → Nat → Nat → Nat → Reading Nat
  | [], _, _, _ => do let _ ← takeBit; corrupt
  | count :: counts, code, first, skipped => do
    let code := 2 * code + (← takeBit).toNat
    let first := 2 * first
    if code < first + count then return symbols.getD (skipped + (code - first)) 0
    else takeFrom symbols counts code (first + count) (skipped + count)

/-- The number whose code comes next. -/
def take (c : Codes) : Reading Nat := takeFrom c.symbols c.counts 0 0 0

end Codes

/-- Reads the length of a code, which is given by the steps that lead to it from another. -/
def takeLength : Nat → Nat → Reading Nat
  | 0, _ => throw .cut
  | fuel + 1, length =>
    if length < 1 || longest < length then corrupt
    else do
      if ← takeBit then
        if ← takeBit then takeLength fuel (length - 1) else takeLength fuel (length + 1)
      else return length

/-- The lengths of `count` codes, each of which starts from the one before. -/
def takeLengths (fuel : Nat) : Nat → Nat → Reading (List Nat)
  | 0, _ => return []
  | count + 1, length => do
    let length ← takeLength fuel length
    return length :: (← takeLengths fuel count length)

/-- The codes for `count` numbers. -/
def takeCodes (fuel count : Nat) : Reading Codes := do
  let start ← takeNumber 5
  return .ofLengths (← takeLengths fuel count start)

/-- The list with the item at an index moved to its front. -/
def toFront {α : Type} (xs : List α) (index : Nat) : List α :=
  match xs[index]? with
  | some x => x :: xs.eraseIdx index
  | none => xs

/-- How many selectors count. -/
def selectorCount : Nat := 18002

/-- Reads which of several sets of codes is used where. A set is given by how many others were used
since it was used last. -/
def takeSelectors (sets : Nat) : Reading (List Nat) := do
  let count ← takeNumber 15
  if count < 1 then corrupt
  else
    let ranks ← (List.range count).mapM fun _ => takeUnary sets
    return ((ranks.take selectorCount).foldl (fun (s : List Nat × Array Nat) rank =>
      let order := toFront s.1 rank
      (order, s.2.push (order.headD 0))) (List.range sets, #[])).2.toList

/-! ## Blocks -/

/-- The bytes that occur in a block. -/
def takeAlphabet : Reading (List UInt8) := do
  let rows ← (List.range 16).mapM fun _ => takeBit
  let cells ← rows.mapM fun used =>
    if used then (List.range 16).mapM fun _ => takeBit else return List.replicate 16 false
  return cells.flatten.zipIdx.filterMap fun (used, n) => if used then some (UInt8.ofNat n) else none

/-- The sorted bytes of a block as far as they are known. -/
structure Column where
  /-- The bytes that occur, the latest first. -/
  recent : List UInt8
  bytes : Array UInt8 := #[]
  /-- How often the latest byte is still to be repeated. -/
  repeated : Nat := 0
  /-- What the next digit of that number counts. -/
  weight : Nat := 1

namespace Column

/-- The bound for what a digit counts. -/
def heaviest : Nat := 2097152

/-- The bytes with those that are still to be repeated. -/
def flush (c : Column) : Array UInt8 :=
  c.bytes ++ Array.replicate c.repeated (c.recent.headD 0)

end Column

/-- How many numbers share a set of codes. -/
def groupLength : Nat := 50

/-- Reads the sorted bytes of a block, of which there are at most `limit`. `index` numbers have been
read before. -/
def takeColumn (codes : Array Codes) (limit : Nat) :
    Nat → Nat → Column → Reading (Array UInt8)
  | 0, _, _ => throw .cut
  | fuel + 1, index, c =>
    match codes[index / groupLength]? with
    | none => corrupt
    | some set => do
      let n ← set.take
      if n < 2 then
        if Column.heaviest ≤ c.weight then corrupt
        else
          let repeated := c.repeated + (n + 1) * c.weight
          takeColumn codes limit fuel (index + 1) { c with repeated, weight := 2 * c.weight }
      else if limit < c.bytes.size + c.repeated then corrupt
      else
        let bytes := c.flush
        if n = c.recent.length + 1 then return bytes
        else if limit ≤ bytes.size then corrupt
        else
          let recent := toFront c.recent (n - 1)
          takeColumn codes limit fuel (index + 1) ⟨recent, bytes.push (recent.headD 0), 0, 1⟩

/-- The places of the bytes in the order of the bytes. -/
def placesInOrder (column : Array UInt8) : Array Nat :=
  let places := column.toList.zipIdx.foldl (fun (t : Array (List Nat)) (b, i) =>
    t.modify b.toNat (i :: ·)) (Array.replicate 256 [])
  (places.toList.flatMap List.reverse).toArray

/-- Puts the sorted bytes of a block back into their order. Its first byte stands where the one at
`start` would be if the bytes were in order. -/
def unsort (column : Array UInt8) (start : Nat) : List UInt8 :=
  let next := placesInOrder column
  let step (i : Nat) : Nat := next.getD i 0
  ((List.range column.size).foldl (fun (s : Nat × Array UInt8) _ =>
    (step s.1, s.2.push (column.getD s.1 0))) (step start, #[])).2.toList

/-- How many equal bytes are followed by how many more there are. -/
def runLength : Nat := 4

/-- Undoes the coding of runs behind `seen` equal bytes `last`. -/
def expandAfter (last : UInt8) (seen : Nat) (out : Array UInt8) :
    List UInt8 → Option (Array UInt8)
  | [] => if seen = runLength then none else some out
  | b :: bs =>
    if seen = runLength then expandAfter last 0 (out ++ Array.replicate b.toNat last) bs
    else expandAfter b (if 0 < seen && b = last then seen + 1 else 1) (out.push b) bs

/-- Undoes the coding of runs: four equal bytes are followed by a byte that says how many more there
are. -/
def expandRuns (bytes : List UInt8) : Option (Array UInt8) := expandAfter 0 0 #[] bytes

/-- One bit of a checksum. -/
def checkBit (n : UInt32) : UInt32 :=
  if n >>> 31 = 1 then (n <<< 1) ^^^ 0x04C11DB7 else n <<< 1

/-- One byte of a checksum. -/
def checkByte (n : UInt32) (b : UInt8) : UInt32 :=
  (List.range 8).foldl (fun n _ => checkBit n) (n ^^^ (b.toUInt32 <<< 24))

/-- The checksum of a block. -/
def check (bytes : Array UInt8) : UInt32 := bytes.foldl checkByte 0xFFFFFFFF ^^^ 0xFFFFFFFF

/-- The checksum of blocks with one more. -/
def checkAll (before block : UInt32) : UInt32 := ((before <<< 1) ||| (before >>> 31)) ^^^ block

/-- Reads a block of at most `limit` bytes after its mark. -/
def takeBlock (fuel limit : Nat) : Reading (Array UInt8) := do
  let stored ← takeNumber 32
  let isShuffled ← takeBit
  let start ← takeNumber 24
  if limit + 10 < start then corrupt
  else
    let alphabet ← takeAlphabet
    if alphabet.isEmpty then corrupt
    let sets ← takeNumber 3
    if sets < 2 || 6 < sets then corrupt
    else
      let selectors ← takeSelectors sets
      let codes ← (List.range sets).mapM fun _ => takeCodes fuel (alphabet.length + 2)
      let chosen := selectors.filterMap fun i => codes[i]?
      let column ← takeColumn chosen.toArray limit fuel 0 { recent := alphabet }
      if isShuffled || column.size ≤ start then corrupt
      else
        match expandRuns (unsort column start) with
        | none => corrupt
        | some data => if (check data).toNat = stored then return data else corrupt

/-! ## Sequences of blocks -/

/-- The next block, or the checksum at the end. -/
def takePart (fuel limit : Nat) : Reading (Array UInt8 ⊕ Nat) := do
  match ← takeNumber 8 with
  | 0x31 =>
    takeMark [0x41, 0x59, 0x26, 0x53, 0x59]
    return .inl (← takeBlock fuel limit)
  | 0x17 =>
    takeMark [0x72, 0x45, 0x38, 0x50, 0x90]
    return .inr (← takeNumber 32)
  | _ => corrupt

/-- The data of the blocks in `bits`, behind `out`, with its checksum. -/
def parts (limit : Nat) (fuel : Nat) (total : UInt32) (out : Array UInt8) (bits : List Bool) :
    Unpacked :=
  match fuel with
  | 0 => ⟨out.toList, .cut⟩
  | fuel + 1 =>
    match (takePart (bits.length + 1) limit).run bits with
    | .error ending => ⟨out.toList, ending⟩
    | .ok (.inr stored, _) => ⟨out.toList, if total.toNat = stored then .complete else .corrupt⟩
    | .ok (.inl data, bits) => parts limit fuel (checkAll total (check data)) (out ++ data) bits

/-- Reads the mark at the start, with the largest size of a block. -/
def takeHead : Reading Nat := do
  takeMark [0x42, 0x5A, 0x68]
  let level ← takeNumber 8
  if level < 0x31 || 0x39 < level then corrupt else return 100000 * (level - 0x30)

end Sorted

/-- The data that was packed as a sequence of sorted blocks. -/
def unpackSorted (packed : List UInt8) : Unpacked :=
  let bits := Sorted.bitsOfBytes packed
  match Sorted.takeHead.run bits with
  | .error ending => ⟨[], ending⟩
  | .ok (limit, rest) => Sorted.parts limit (bits.length + 1) 0 #[] rest

end TypedQuery.Archive
