import TypedQuery.Archive.Gzip
import TypedQuery.Number.Integer

/-!
# Tar archives

A tar archive is a sequence of members. Each starts with a header of 512 bytes, which has a checksum
of its own. `Tar.probe` reads the first header of an archive in a gzip stream, and says what is wrong
with it.
-/

namespace TypedQuery.Archive.Tar

/-- Why an archive cannot be read. -/
inductive Fault where
  | notGzip
  | corruptStream (why : InflateFault)
  /-- The stream ends too early. -/
  | streamEnds
  | empty
  | truncated
  | invalidNumber
  | badChecksum
  deriving DecidableEq

/-- The fault in words. -/
def Fault.message : Fault → String
  | .notGzip => "not a gzip file"
  | .corruptStream why => "zlib error: Error -3 while decompressing data: " ++ why.message
  | .streamEnds => "Compressed file ended before the end-of-stream marker was reached"
  | .empty => "empty file"
  | .truncated => "truncated header"
  | .invalidNumber => "invalid header"
  | .badChecksum => "bad checksum"

/-- The length of a header. -/
def headerLength : Nat := 512

/-- A number of bytes, the highest first. -/
def bigNumber (bytes : List UInt8) : Nat := bytes.foldl (fun n b => 256 * n + b.toNat) 0

/-- The number in a field: in octal digits, up to a zero, or in bytes behind a mark. An empty field
is zero. -/
def number? (field : List UInt8) : Option Int :=
  match field with
  | 0x80 :: rest => some (Int.ofNat (bigNumber rest))
  | 0xFF :: rest => some (Int.ofNat (bigNumber rest) - Int.ofNat (Nat.pow 256 rest.length))
  | field =>
    let bytes := field.takeWhile (· != 0)
    let text := Text.strip (bytes.map fun b => Char.ofNat b.toNat)
    if bytes.any (127 < ·) then none
    else if text.isEmpty then some 0
    else Integer.ofOctal? text

/-- The fields of a header that hold numbers, by where they start and how long they are. -/
def numberFields : List (Nat × Nat) :=
  [(100, 8), (108, 8), (116, 8), (124, 12), (136, 12), (329, 8), (337, 8)]

/-- Where the checksum is. -/
def checksumField : Nat × Nat := (148, 8)

/-- The number in a field of a header. -/
def numberIn? (header : List UInt8) (field : Nat × Nat) : Option Int :=
  number? ((header.drop field.1).take field.2)

/-- The checksums that a header may have: bytes count with or without a sign, and those of the
checksum itself as blanks. -/
def checksums (header : List UInt8) : List Int :=
  let counted := header.take 148 ++ header.drop 156
  let plain : Int := Int.ofNat (counted.foldl (fun n b => n + b.toNat) 256)
  let high : Int := Int.ofNat (counted.countP (128 ≤ ·))
  [plain, plain - 256 * high]

/-- What is wrong with the header of an archive. A header of zeros ends an archive. -/
def headerFault? (header : List UInt8) : Option Fault :=
  if header.isEmpty then some .empty
  else if header.length < headerLength then some .truncated
  else if header.all (· == 0) then none
  else
    match numberIn? header checksumField with
    | none => some .invalidNumber
    | some n =>
      if !(checksums header).contains n then some .badChecksum
      else if numberFields.all fun f => (numberIn? header f).isSome then none
      else some .invalidNumber

/-- What is wrong with an archive in a gzip stream. -/
def probe (bytes : List UInt8) : Option Fault :=
  match Gzip.read headerLength bytes with
  | .error .notGzip => some .notGzip
  | .error .ended => some .streamEnds
  | .error (.corrupt why) => some (.corruptStream why)
  | .ok header => headerFault? header

end TypedQuery.Archive.Tar
