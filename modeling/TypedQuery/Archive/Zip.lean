import TypedQuery.Archive.Checksum
import TypedQuery.Archive.RangeCode
import TypedQuery.Archive.SortedBlock
import TypedQuery.Archive.ZipFault
import TypedQuery.Sorting
import TypedQuery.Text.CodePage437

/-!
# Zip archives

An archive ends with a record that leads to the list of its members. The list gives the name of each
member and where its header is; behind the header is the data.

* `endRecord`: the record at the end.
* `entries`: the list of members.
* `Entry.unpack`: the data of a member. It is found first, which checks the header, and read then.
* `members`: all members of an archive.
-/

namespace TypedQuery.Archive

/-- Bytes with which a record starts. -/
def mark (a b : UInt8) : List UInt8 := [0x50, 0x4B, a, b]

/-! ## The record at the end -/

/-- What the record at the end says. -/
structure EndRecord where
  /-- Where the record is, or the larger record before it. -/
  place : Int
  listSize : Nat
  listOffset : Nat
  deriving DecidableEq

/-- The length of the record at the end. -/
def endLength : Nat := 22

/-- The longest comment that can follow the record, and a byte. -/
def commentReach : Nat := 65536

/-- The length of the record that says that there is a larger record at the end. -/
def locatorLength : Nat := 20

/-- The length of the larger record at the end. -/
def wideLength : Nat := 56

/-- The last place in bytes where `wanted` starts. -/
def lastPlace? (wanted bytes : List UInt8) : Option Nat :=
  (bytes.foldr (fun b (s : Option Nat × List UInt8 × Nat) =>
    let (found, rest, length) := s
    let rest := b :: rest
    (if found.isNone && wanted.isPrefixOf rest then some (length + 1) else found, rest, length + 1))
    (none, [], 0)).1.map (bytes.length - ·)

/-- Where the record at the end starts. It is at the very end, or a comment follows it. -/
def endPlace? (bytes : List UInt8) : Option Nat :=
  let size := bytes.length
  let last := bytes.drop (size - endLength)
  if size < endLength then none
  else if (mark 5 6).isPrefixOf last && last.drop 20 == [0, 0] then some (size - endLength)
  else
    let start := size - commentReach - endLength
    match lastPlace? (mark 5 6) (bytes.drop start) with
    | none => none
    | some n => if size < start + n + endLength then none else some (start + n)

/-- The larger record at the end, if there is one, instead of the record at `place`. -/
def wideRecord (bytes : List UInt8) (place : Nat) (small : EndRecord) :
    Except ZipFault EndRecord :=
  let locator := bytes.drop (place - locatorLength)
  if place < locatorLength || !(mark 6 7).isPrefixOf locator then .ok small
  else if numberAt 4 4 locator ≠ 0 || 1 < numberAt 16 4 locator then .error .severalDisks
  else if place < locatorLength + wideLength then .error .notZip
  else
    let record := bytes.drop (place - locatorLength - wideLength)
    if !(mark 6 6).isPrefixOf record then .ok small
    else .ok ⟨place - locatorLength - wideLength, numberAt 40 8 record, numberAt 48 8 record⟩

/-- The record at the end. -/
def endRecord (bytes : List UInt8) : Except ZipFault EndRecord :=
  match endPlace? bytes with
  | none => .error .notZip
  | some place =>
    let record := bytes.drop place
    wideRecord bytes place ⟨place, numberAt 12 4 record, numberAt 16 4 record⟩

/-! ## The list of members -/

/-- A member as the list gives it. -/
structure Entry where
  /-- The name up to the first null character. -/
  name : String
  /-- The whole name. -/
  listedName : String
  flags : Nat
  method : Nat
  check : Nat
  packedSize : Nat
  size : Nat
  attributes : Nat
  /-- Where the header is. -/
  header : Int
  /-- Where the next header or the list starts. -/
  stop : Int := 0
  deriving DecidableEq

/-- The text of a name, which is UTF-8 if a flag says so. -/
def nameText (flags : Nat) (bytes : List UInt8) : Except ZipFault String :=
  if flags.testBit 11 then
    match Utf8.decode bytes with
    | .ok s => .ok s
    | .error f => .error (.nameEncoding (.ofUtf8 bytes f))
  else .ok (CodePage437.decode bytes)

/-- The largest number of four bytes, which says that an extra field has the number. -/
def filled : Nat := 0xFFFFFFFF

/-- Takes a number from an extra field, if the list says that it is there. -/
def takeWide (field : WideField) (value : Nat) (data : List UInt8) :
    Except ZipFault (Nat × List UInt8) :=
  if value ≠ filled then .ok (value, data)
  else if data.length < 8 then .error (.wideField field)
  else .ok (numberAt 0 8 data, data.drop 8)

/-- A member with the numbers that an extra field has. -/
def Entry.widen (e : Entry) (data : List UInt8) : Except ZipFault Entry := do
  let (size, data) ← takeWide .size e.size data
  let (packedSize, data) ← takeWide .packedSize e.packedSize data
  let (header, _) ← takeWide .header e.header.toNat data
  return { e with size, packedSize, header }

/-- A member with what its extra fields say. -/
def Entry.withExtra (fuel : Nat) (e : Entry) (extra : List UInt8) : Except ZipFault Entry :=
  match fuel with
  | 0 => .ok e
  | fuel + 1 =>
    if extra.length < 4 then .ok e
    else
      let id := numberAt 0 2 extra
      let size := numberAt 2 2 extra
      if extra.length < size + 4 then .error (.extraField id size)
      else do
        let e ← if id = 1 then e.widen ((extra.drop 4).take size) else .ok e
        e.withExtra fuel (extra.drop (size + 4))

/-- The length of a member in the list, without its name, its extra fields and its comment. -/
def entryLength : Nat := 46

/-- The newest version of the format that is read. -/
def newestVersion : Nat := 63

/-- One member of the list, with its length there. -/
def takeEntry (bytes : List UInt8) : Except ZipFault (Entry × Nat) :=
  if bytes.length < entryLength then .error .listTruncated
  else if !(mark 1 2).isPrefixOf bytes then .error .listMark
  else do
    let nameLength := numberAt 28 2 bytes
    let extraLength := numberAt 30 2 bytes
    let flags := numberAt 8 2 bytes
    let name ← nameText flags ((bytes.drop entryLength).take nameLength)
    let version := numberAt 6 1 bytes
    if newestVersion < version then .error (.version version)
    else
      let e : Entry :=
        { name := String.ofList (name.toList.takeWhile (· != '\x00'))
          listedName := name
          flags
          method := numberAt 10 2 bytes
          check := numberAt 16 4 bytes
          packedSize := numberAt 20 4 bytes
          size := numberAt 24 4 bytes
          attributes := numberAt 38 4 bytes
          header := numberAt 42 4 bytes }
      let extra := (bytes.drop (entryLength + nameLength)).take extraLength
      let e ← e.withExtra extra.length extra
      return (e, entryLength + nameLength + extraLength + numberAt 32 2 bytes)

/-- The members of a list of `size` bytes. -/
def entries (fuel size : Nat) (bytes : List UInt8) : Except ZipFault (List Entry) :=
  match fuel with
  | 0 => .ok []
  | fuel + 1 =>
    if size = 0 then .ok []
    else do
      let (e, length) ← takeEntry bytes
      return e :: (← entries fuel (size - length) (bytes.drop length))

/-- Gives each member the place where the next one starts. The last one ends where the list
starts. -/
def setStops (list : Int) (es : List Entry) : List Entry :=
  let byPlace := Sorting.sort (fun (a b : Entry × Nat) => b.1.header ≤ a.1.header) es.zipIdx
  let stops := (byPlace.foldl (fun (s : List (Nat × Int) × Int) (e, i) =>
    ((i, s.2) :: s.1, e.header)) ([], list)).1
  es.zipIdx.map fun (e, i) => { e with stop := (stops.lookup i).getD list }

/-! ## Members -/

/-- How a kind of compression is called. -/
def methodName (method : Nat) : String :=
  let names : List (Nat × String) :=
    [(0, "store"), (1, "shrink"), (2, "reduce"), (3, "reduce"), (4, "reduce"), (5, "reduce"),
      (6, "implode"), (7, "tokenize"), (8, "deflate"), (9, "deflate64"), (10, "implode"),
      (12, "bzip2"), (14, "lzma"), (18, "terse"), (19, "lz77"), (97, "wavpack"), (98, "ppmd")]
  (names.lookup method).getD (toString method)

/-- The letter for the kind of a file. -/
def kindLetter (mode : Nat) : Char :=
  let letters : List (Nat × Char) :=
    [(1, 'p'), (2, 'c'), (4, 'd'), (6, 'b'), (8, '-'), (10, 'l'), (12, 's')]
  (letters.lookup (mode / 4096)).getD '?'

/-- The letters for what one of the three kinds of users may do; `special` is the letter for the
execution of a file with a special bit. -/
def permission (bits : Nat) (isSpecial : Bool) (special : Char) : List Char :=
  [if bits.testBit 2 then 'r' else '-', if bits.testBit 1 then 'w' else '-',
    match bits.testBit 0, isSpecial with
    | true, true => special
    | false, true => special.toUpper
    | true, false => 'x'
    | false, false => '-']

/-- The mode of a file in letters. -/
def modeText (mode : Nat) : String :=
  String.ofList (kindLetter mode :: (permission (mode / 64 % 8) (mode.testBit 11) 's' ++
    permission (mode / 8 % 8) (mode.testBit 10) 's' ++ permission (mode % 8) (mode.testBit 9) 't'))

/-- A member as messages show it. -/
def Entry.shown (e : Entry) : String :=
  let mode := e.attributes / 65536
  let low := e.attributes % 65536
  "<ZipInfo filename=" ++ Text.quote e.name ++
    (if e.method = 0 then "" else " compress_type=" ++ methodName e.method) ++
    (if mode = 0 then "" else " filemode=" ++ Text.quote (modeText mode)) ++
    (if low = 0 then "" else " external_attr=0x" ++ String.ofList (Text.hex 1 low)) ++
    " file_size=" ++ toString e.size ++
    (if e.method = 0 && e.size = e.packedSize then ""
      else " compress_size=" ++ toString e.packedSize) ++ ">"

/-- The kinds of compression that are supported. -/
def supportedMethods : List Nat := [0, 8, 12, 14]

/-- The length of a header. -/
def headerLength : Nat := 30

/-- One behind the last place that a file can have. -/
def filesReach : Int := 9223372036854775808

/-- Where the data of a member starts. -/
def Entry.dataPlace (bytes : List UInt8) (e : Entry) : Except ZipFault Nat :=
  if e.header < 0 then .error .headerOffset
  else if filesReach ≤ e.header then .error .hugeOffset
  else
    let header := bytes.drop e.header.toNat
    if header.length < headerLength then .error .headerTruncated
    else if !(mark 3 4).isPrefixOf header then .error .headerMark
    else
      let nameLength := numberAt 26 2 header
      let found := (header.drop headerLength).take nameLength
      let place := e.header.toNat + headerLength + nameLength + numberAt 28 2 header
      let place := min bytes.length place
      if e.flags.testBit 5 then .error .patchedData
      else if e.flags.testBit 6 then .error .strongEncryption
      else do
        let name ← nameText (numberAt 6 2 header) found
        if name ≠ e.listedName then .error (.namesDiffer e.listedName found)
        else if e.stop < place + e.packedSize then .error (.overlapping e.listedName)
        else if e.flags.testBit 0 then .error (.encrypted e.shown)
        else if !supportedMethods.contains e.method then .error .method
        else return place

/-- How much is decompressed at once. -/
def chunk : Nat := 65536

/-- Whether the archive ends inside the packed bytes of a member, of which `had` bytes of data were
had. -/
def Entry.isCut (e : Entry) (packed : List UInt8) (had : Nat) : Bool :=
  packed.length < e.packedSize && (packed.isEmpty || had < e.size)

/-- The data of a member, cut to the size that the list gives. -/
def Entry.checked (e : Entry) (data : List UInt8) : Except ZipFault (List UInt8) :=
  let data := data.take e.size
  if checksum data = e.check then .ok data else .error (.checksum e.name)

/-- The data of a member, where the packed bytes do not go on. -/
def Entry.checkedToEnd (e : Entry) (packed data : List UInt8) : Except ZipFault (List UInt8) :=
  if e.isCut packed data.length then .error .dataEnds else e.checked data

/-- The data of a member whose packed bytes were compressed. A fault is only found if it is not too
far behind the end. -/
def Entry.inflated (e : Entry) (packed : List UInt8) : Except ZipFault (List UInt8) :=
  let r := inflate packed
  match r.rest with
  | .error (.corrupt why) =>
    if r.data.length < chunk * ((e.size - 1) / chunk + 1) then .error (.corruptData why)
    else e.checked r.data
  | .error .ended => e.checkedToEnd packed r.data
  | .ok _ => e.checked r.data

/-- The data of a member that was unpacked; `fault` is for corrupt data. -/
def Entry.unpacked (e : Entry) (packed : List UInt8) (fault : ZipFault) (r : Unpacked) :
    Except ZipFault (List UInt8) :=
  match r.ending with
  | .complete => e.checked r.data
  | .cut => e.checkedToEnd packed r.data
  | .corrupt => .error fault

/-- The data in the packed bytes of a member. -/
def Entry.data (e : Entry) (packed : List UInt8) : Except ZipFault (List UInt8) :=
  match e.method with
  | 8 => e.inflated packed
  | 12 => e.unpacked packed .sortedData (unpackSorted packed)
  | 14 =>
    match unpackRanged? packed with
    | none => .error .rangedProperties
    | some r => e.unpacked packed .rangedData r
  | _ => e.checkedToEnd packed packed

/-- Finds the data of a member, and reads it. -/
def Entry.unpack (bytes : List UInt8) (e : Entry) :
    Except ZipFault (Except ZipFault (List UInt8)) := do
  let place ← e.dataPlace bytes
  return e.data ((bytes.drop place).take e.packedSize)

/-- A member: its name, and its data, which has to be found first and read then. -/
structure Member where
  name : String
  content : Except ZipFault (Except ZipFault (List UInt8))

/-- The members of a zip archive. Of several with one name, the last counts, in all their places. -/
def members (bytes : List UInt8) : Except ZipFault (List Member) := do
  let record ← endRecord bytes
  let list := record.place - record.listSize
  if list < 0 then .error .listOffset
  else
    let found ← entries (record.listSize + 1) record.listSize
      ((bytes.drop list.toNat).take record.listSize)
    let shift := list - record.listOffset
    let es := setStops list (found.map fun e => { e with header := e.header + shift })
    return es.map fun e =>
      let last := (es.reverse.find? fun f => f.name == e.name).getD e
      ⟨e.name, last.unpack bytes⟩

end TypedQuery.Archive
