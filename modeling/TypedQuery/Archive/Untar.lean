import TypedQuery.Archive.Tar
import TypedQuery.Files.Tree
import TypedQuery.Text.Utf8

/-!
# Extracting tar archives

How a tar archive is extracted is up to the platform. An `Extractor` says what becomes of an archive:
the directories and files that are made, and what stops the extraction if something does. Entries
are given by names that lead down, so nothing is ever made outside the directory that the archive is
extracted to.

* `Tar.plain?`: what is in an archive of files and directories.
* `Tar.unfiltered`: a platform that cannot filter what it extracts. It is asked to, so it stops as
  soon as the archive is open.
* `Tar.filtered`: a platform that can. What it does with archives that hold anything but files and
  directories is left open.
-/

namespace TypedQuery.Archive.Tar

/-! ## Extraction -/

/-- A name that leads one step down. -/
abbrev Step := { name : String // IsStep name }

/-- What extraction makes: a directory, or a file in one. -/
inductive Entry where
  | directory (way : List Step)
  | file (way : List Step) (name : Step) (content : Content)

/-- What stops an extraction. -/
inductive Stop where
  /-- The archive is faulty. -/
  | fault (why : Fault)
  /-- The archive holds something that is refused, or the file system refuses to take it. -/
  | refused (message : String)
  /-- The extraction fails in any other way. -/
  | failed (message : String)
  deriving DecidableEq

/-- Whether the archive or the file system is to blame, and not the end of the data. -/
def Stop.isRefusal : Stop → Bool
  | .fault .streamEnds => false
  | .fault _ => true
  | .refused _ => true
  | .failed _ => false

/-- What becomes of an archive: what is made, and what stops the extraction then. -/
structure Extraction where
  made : List Entry := []
  stop : Option Stop := none

/-- A way to extract archives. -/
abbrev Extractor := Content → Extraction

/-! ## Archives of files and directories -/

/-- Where a header holds the name of its member. -/
def nameField : Nat × Nat := (0, 100)

/-- Where a header holds the size of its member. -/
def sizeField : Nat × Nat := (124, 12)

/-- Where a header holds the time of its member. -/
def timeField : Nat × Nat := (136, 12)

/-- Where a header holds the first part of a long name. -/
def folderField : Nat × Nat := (345, 155)

/-- The text in a field of a header, up to a zero. -/
def textIn? (header : List UInt8) (field : Nat × Nat) : Option String :=
  (Utf8.decode (((header.drop field.1).take field.2).takeWhile (· != 0))).toOption

/-- A member by its header. -/
structure Header where
  name : String
  size : Nat
  isDirectory : Bool

/-- Whether a member is a directory, by the mark of its kind. Old archives tell a directory by its
name. There are other kinds than files and directories. -/
def isDirectory? (kind : UInt8) (name : String) : Option Bool :=
  if kind = 0x30 || kind = 0x37 then some false
  else if kind = 0x35 then some true
  else if kind = 0 then some (name.toList.getLast? = some '/')
  else none

/-- Times that every file system knows. -/
def isTime (seconds : Int) : Bool := 0 ≤ seconds && seconds < 8589934592

/-- Reads a header without faults, if it is one of a file or a directory. -/
def header? (bytes : List UInt8) : Option Header := do
  let name ← textIn? bytes nameField
  let folder ← textIn? bytes folderField
  let size ← numberIn? bytes sizeField
  let time ← numberIn? bytes timeField
  let isDirectory ← isDirectory? (bytes.getD 156 0) name
  if size < 0 || !isTime time then none
  else return {
    name := if folder.isEmpty then name else folder ++ "/" ++ name
    size := if isDirectory then 0 else size.toNat
    isDirectory }

/-- Names that lead down, without the ones that lead nowhere. -/
def steps? (names : List String) : Option (List Step) :=
  (names.filter fun n => n != "" && n != ".").mapM fun n =>
    if h : IsStep n then some ⟨n, h⟩ else none

/-- What is made of a member with the given data. -/
def Header.made? (h : Header) (content : Content) : Option Entry :=
  let names := FileTree.namesOf h.name
  if h.isDirectory then (steps? names).map .directory
  else do
    -- A slash behind the name of a file does not count, a dot does.
    let names := (names.reverse.dropWhile (· == "")).reverse
    let last ← names.getLast?
    let way ← steps? names.dropLast
    if hstep : IsStep last then some (.file way ⟨last, hstep⟩ content) else none

/-- How much room data of some size takes. -/
def roomFor (size : Nat) : Nat := (size + headerLength - 1) / headerLength * headerLength

/-- The first member of an archive, and what follows it. -/
def member? (data : List UInt8) : Option (Entry × List UInt8) := do
  let block := data.take headerLength
  let rest := data.drop headerLength
  let h ← header? block
  let e ← h.made? (rest.take h.size)
  if (headerFault? block).isSome || rest.length < roomFor h.size then none
  else return (e, rest.drop (roomFor h.size))

/-- The decimal digits that bytes start with. -/
def digitsOf (bytes : List UInt8) : List UInt8 := bytes.takeWhile fun b => 0x30 ≤ b && b ≤ 0x39

/-- The number that decimal digits stand for. -/
def decimal (digits : List UInt8) : Nat := digits.foldl (fun n b => 10 * n + (b.toNat - 0x30)) 0

/-- The first record of an extended header, its key and its value, and what follows it. A record
starts with its length in decimal digits and ends with a line. -/
def record? (bytes : List UInt8) : Option ((List UInt8 × List UInt8) × List UInt8) :=
  let digits := digitsOf bytes
  let length := decimal digits
  let line := (bytes.take length).drop digits.length
  let key := (line.drop 1).takeWhile (· != 0x3D)
  let value := (line.drop (key.length + 2)).dropLast
  if digits.isEmpty || 20 < digits.length || bytes.length < length || key.isEmpty ||
    line.length < key.length + 3 || line.head? != some 0x20 || line.getLast? != some 0x0A then none
  else some ((key, value), bytes.drop length)

/-- Whether the value of a record is a time that every file system knows, as a decimal fraction. -/
def isTimeText (value : List UInt8) : Bool :=
  let whole := digitsOf value
  let rest := value.drop whole.length
  let fraction := rest.drop 1
  !whole.isEmpty && isTime (decimal whole) && (rest.isEmpty || rest.head? == some 0x2E) &&
    digitsOf fraction == fraction

/-- Whether a record changes nothing about the content of a member or its place. -/
def isIdle (key value : List UInt8) : Bool :=
  if key = Utf8.encode "mtime" then isTimeText value
  else !(["path", "linkpath", "size", "hdrcharset"].map Utf8.encode).contains key &&
    !(Utf8.encode "GNU.sparse").isPrefixOf key

/-- Whether all records of an extended header change nothing, up to its end or to a zero. -/
def isIdleHeader (fuel : Nat) (bytes : List UInt8) : Bool :=
  match fuel with
  | 0 => false
  | fuel + 1 =>
    if bytes.isEmpty || bytes.head? == some 0 then true
    else
      match record? bytes with
      | none => false
      | some ((key, value), rest) => isIdle key value && isIdleHeader fuel rest

/-- What follows an extended header that changes nothing, if there is one. -/
def skipExtended? (data : List UInt8) : Option (List UInt8) :=
  let block := data.take headerLength
  let rest := data.drop headerLength
  if block.getD 156 0 ≠ 0x78 then some data
  else do
    let size ← numberIn? block sizeField
    let room := roomFor size.toNat
    if (headerFault? block).isSome || size < 0 || rest.length < room then none
    else if isIdleHeader (room + 1) (rest.take room) then some (rest.drop room)
    else none

/-- What is in an archive: members one behind the other, up to its end or to a header of zeros. -/
def entries? (fuel : Nat) (data : List UInt8) : Option (List Entry) :=
  match fuel with
  | 0 => none
  | fuel + 1 =>
    let block := data.take headerLength
    if block.isEmpty || (block.length = headerLength && block.all (· == 0)) then some []
    else do
      let (e, rest) ← skipExtended? data >>= member?
      return e :: (← entries? fuel rest)

namespace Entry

/-- The directory of an entry, which may be the entry itself. -/
def folder : Entry → List String
  | .directory way => way.map Subtype.val
  | .file way _ _ => way.map Subtype.val

/-- Whether an entry is a file in the place of a directory that another one needs. -/
def blocks (e other : Entry) : Bool :=
  match e with
  | .directory _ => false
  | .file way name _ => (way.map Subtype.val ++ [name.val]).isPrefixOf other.folder

end Entry

/-- What is in an archive that can be read to its end, if all of it is files and directories and
there is room for each. -/
def plain? (bytes : Content) : Option (List Entry) := do
  let data ← Gzip.readAll? bytes
  let es ← entries? (data.length + 1) data
  if es.any fun e => es.any e.blocks then none else some es

/-! ## Platforms -/

/-- Extracts nothing: a platform that opens an archive and cannot filter what is in it. -/
def unfiltered : Extractor := fun bytes =>
  match probe bytes with
  | some why => { stop := some (.fault why) }
  | none =>
    { stop := some (.failed "TarFile.extractall() got an unexpected keyword argument 'filter'") }

/-- Extracts archives of files and directories. What becomes of any other archive that can be
opened, with links in it or with a fault behind its first header, is up to `other`. -/
def filtered (other : Extractor) : Extractor := fun bytes =>
  match probe bytes with
  | some why => { stop := some (.fault why) }
  | none =>
    match plain? bytes with
    | some made => { made }
    | none => other bytes

/-- Extracts archives of files and directories, and refuses all others. -/
def plain : Extractor := filtered fun _ =>
  { stop := some (.refused "not an archive of files and directories") }

end TypedQuery.Archive.Tar
