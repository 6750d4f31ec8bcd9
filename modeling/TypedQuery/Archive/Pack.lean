import TypedQuery.Archive.Untar
import TypedQuery.Archive.Zip

/-!
# Packing archives

`pack` puts members into a zip archive without compressing them. Names end at their first null
character, and a flag marks those that are not ASCII. `Tar.pack` puts members into a tar archive in a
gzip stream, without compressing them either.
-/

namespace TypedQuery.Archive

/-- The version of the format that is written. -/
def packVersion : Nat := 20

/-- The date in headers: the first that there is. -/
def packDate : Nat := 0x21

/-- What the header of a member and the list have in common. -/
def packedFacts (flags : Nat) (name data : List UInt8) : List UInt8 :=
  bytesOf 2 packVersion ++ bytesOf 2 flags ++ bytesOf 2 0 ++ bytesOf 2 0 ++ bytesOf 2 packDate ++
    bytesOf 4 (checksum data) ++ bytesOf 4 data.length ++ bytesOf 4 data.length ++
    bytesOf 2 name.length ++ bytesOf 2 0

/-- The name of a member in bytes, and its flags. -/
def packedName (name : String) : List UInt8 × Nat :=
  let cs := name.toList.takeWhile (· != '\x00')
  (Utf8.encode (String.ofList cs), if cs.all (·.toNat < 128) then 0 else 0x800)

/-- Packs one member behind `place` bytes: its header with the data, and its part of the list. -/
def packMember (place : Nat) (member : String × List UInt8) : List UInt8 × List UInt8 :=
  let (name, flags) := packedName member.1
  let facts := packedFacts flags name member.2
  (mark 3 4 ++ facts ++ name ++ member.2,
    mark 1 2 ++ [UInt8.ofNat packVersion, 3] ++ facts ++ bytesOf 2 0 ++ bytesOf 2 0 ++
      bytesOf 2 0 ++ bytesOf 4 (0o600 * 65536) ++ bytesOf 4 place ++ name)

/-- Packs members into an archive. -/
def pack (members : List (String × List UInt8)) : List UInt8 :=
  let (data, list) := members.foldl (fun (s : List UInt8 × List UInt8) m =>
    let (part, line) := packMember s.1.length m
    (s.1 ++ part, s.2 ++ line)) ([], [])
  data ++ list ++ mark 5 6 ++ bytesOf 2 0 ++ bytesOf 2 0 ++ bytesOf 2 members.length ++
    bytesOf 2 members.length ++ bytesOf 4 list.length ++ bytesOf 4 data.length ++ bytesOf 2 0

/-! ## Tar archives -/

/-- The most bytes in a block that is not compressed. -/
def longestBlock : Nat := 65535

/-- Data as blocks that are not compressed, the last of which is marked. -/
def storeBlocks (fuel : Nat) (data : List UInt8) : List UInt8 :=
  match fuel with
  | 0 => []
  | fuel + 1 =>
    let block := data.take longestBlock
    let rest := data.drop longestBlock
    let body := bytesOf 2 block.length ++ bytesOf 2 (longestBlock - block.length) ++ block
    if rest.isEmpty then 1 :: body else 0 :: body ++ storeBlocks fuel rest

/-- What follows the blocks for data in a gzip stream. -/
def Gzip.trailer (data : List UInt8) : List UInt8 :=
  bytesOf 4 (checksum data) ++ bytesOf 4 data.length

/-- A gzip stream for data. -/
def Gzip.store (data : List UInt8) : List UInt8 :=
  [0x1F, 0x8B, 8, 0, 0, 0, 0, 0, 0, 0xFF] ++
    (storeBlocks (data.length + 1) data ++ Gzip.trailer data)

namespace Tar

/-- Bytes in a field of some width, with zeros behind them. -/
def padded (width : Nat) (bytes : List UInt8) : List UInt8 :=
  bytes ++ List.replicate (width - bytes.length) 0

/-- The last `count` octal digits of a number. -/
def octalDigits : Nat → Nat → List UInt8
  | 0, _ => []
  | count + 1, n => octalDigits count (n / 8) ++ [UInt8.ofNat (0x30 + n % 8)]

/-- A number in a field of some width. -/
def octal (width n : Nat) : List UInt8 := octalDigits (width - 1) n ++ [0]

/-- What stands before the checksum in the header of a file. -/
def packedFront (name : List UInt8) (size : Nat) : List UInt8 :=
  padded 100 name ++ (octal 8 0o644 ++ (octal 8 0 ++ (octal 8 0 ++ (octal 12 size ++ octal 12 0))))

/-- What stands behind the checksum in the header of a file. -/
def packedBack : List UInt8 :=
  0x30 :: (padded 100 [] ++ (padded 6 (Utf8.encode "ustar") ++ (Utf8.encode "00" ++ padded 247 [])))

/-- The checksum in the header of a file. -/
def packedSum (name : List UInt8) (size : Nat) : Nat :=
  (packedFront name size ++ packedBack).foldl (fun n b => n + b.toNat) 256

/-- The header of a file. -/
def packHeader (name : List UInt8) (size : Nat) : List UInt8 :=
  packedFront name size ++ (octal 8 (packedSum name size) ++ packedBack)

/-- The data of a tar archive with files. -/
def packData (files : List (Step × Content)) : List UInt8 :=
  (files.flatMap fun f => packHeader (Utf8.encode f.1.val) f.2.length ++
    padded (roomFor f.2.length) f.2) ++ padded (2 * headerLength) []

/-- Packs files into an archive. -/
def pack (files : List (Step × Content)) : List UInt8 := Gzip.store (packData files)

end Tar

end TypedQuery.Archive
