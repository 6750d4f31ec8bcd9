import TypedQuery.Archive.Checksum
import TypedQuery.Archive.Inflate

/-!
# Gzip streams

A gzip stream is a sequence of parts. Each has a header, compressed data, and a checksum with the
length of the data. `Gzip.read` gives the first bytes of the data of all parts together. It looks
only as far into the stream as it has to, so what comes later may be faulty. `Gzip.readAll?` gives
all of the data, if nothing in the stream is faulty.
-/

namespace TypedQuery.Archive.Gzip

/-- Why a stream cannot be read. -/
inductive Fault where
  /-- A header or a checksum is not that of a gzip stream. -/
  | notGzip
  /-- The stream ends too early. -/
  | ended
  | corrupt (why : InflateFault)
  deriving DecidableEq

/-- The bytes behind `count` bytes that must be there. -/
def skip (count : Nat) (bytes : List UInt8) : Except Fault (List UInt8) :=
  if bytes.length < count then .error .ended else .ok (bytes.drop count)

/-- The bytes behind a text that ends with a zero. -/
def skipText (bytes : List UInt8) : List UInt8 := (bytes.dropWhile (· != 0)).drop 1

/-- The bytes behind a field with its length in front. -/
def skipField (bytes : List UInt8) : Except Fault (List UInt8) := do
  let rest ← skip 2 bytes
  skip (numberAt 0 2 bytes) rest

/-- The bytes behind the optional parts of a header. -/
def skipOptions (flags : Nat) (bytes : List UInt8) : Except Fault (List UInt8) := do
  let bytes ← if flags.testBit 2 then skipField bytes else .ok bytes
  let bytes := if flags.testBit 3 then skipText bytes else bytes
  let bytes := if flags.testBit 4 then skipText bytes else bytes
  if flags.testBit 1 then skip 2 bytes else return bytes

/-- The bytes behind a header; none if the stream ends before it. -/
def skipHeader (bytes : List UInt8) : Except Fault (Option (List UInt8)) :=
  match bytes with
  | [] => .ok none
  | 0x1F :: 0x8B :: rest => do
    let body ← skip 8 rest
    if rest.head? ≠ some 8 then .error .notGzip
    else return some (← skipOptions (numberAt 1 1 rest) body)
  | _ => .error .notGzip

/-- The bytes behind the end of a part with the given data. Zeros may follow. -/
def skipTrailer (data bytes : List UInt8) : Except Fault (List UInt8) := do
  let rest ← skip 8 bytes
  if numberAt 0 4 bytes ≠ checksum data || numberAt 4 4 bytes ≠ data.length % 4294967296 then
    .error .notGzip
  else return rest.dropWhile (· == 0)

/-- How much is decompressed at once. -/
def buffer : Nat := 8192

/-- The data of the parts of a stream, until there are at least `count` bytes. -/
def readParts (fuel count : Nat) (bytes : List UInt8) (had : List UInt8) :
    Except Fault (List UInt8) :=
  match fuel with
  | 0 => .ok had
  | fuel + 1 => do
    match ← skipHeader bytes with
    | none => return had
    | some body =>
      let r := inflate body
      let all := had ++ r.data
      match r.rest with
      | .error (.corrupt why) =>
        if all.length < buffer then .error (.corrupt why) else return all
      | .error .ended => if all.length < count then .error .ended else return all
      | .ok left =>
        if count ≤ all.length then return all
        else
          let rest ← skipTrailer r.data (body.drop (body.length - left))
          readParts fuel count rest all

/-- The first `count` bytes of the data of a stream; fewer if there are no more. -/
def read (count : Nat) (bytes : List UInt8) : Except Fault (List UInt8) :=
  (readParts (bytes.length + 1) count bytes []).map (List.take count)

/-- The data of all parts of a stream, behind what was read before. -/
def readWhole? (fuel : Nat) (bytes had : List UInt8) : Option (List UInt8) :=
  match fuel with
  | 0 => none
  | fuel + 1 =>
    match skipHeader bytes with
    | .error _ => none
    | .ok none => some had
    | .ok (some body) => do
      let r := inflate body
      let left ← r.rest.toOption
      let rest ← (skipTrailer r.data (body.drop (body.length - left))).toOption
      readWhole? fuel rest (had ++ r.data)

/-- The data of a stream without any fault. -/
def readAll? (bytes : List UInt8) : Option (List UInt8) := readWhole? (bytes.length + 1) bytes []

end TypedQuery.Archive.Gzip
