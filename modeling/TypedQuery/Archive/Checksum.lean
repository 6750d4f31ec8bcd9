/-!
# Numbers in bytes, and checksums

* `numberOf`, `bytesOf`: a number as bytes, the lowest first.
* `checksum`: the cyclic redundancy check of 32 bits that archives use.
-/

namespace TypedQuery.Archive

/-- The number that bytes stand for, the lowest first. -/
def numberOf (bytes : List UInt8) : Nat := bytes.foldr (fun b n => b.toNat + 256 * n) 0

/-- The number in `width` bytes from `start` on. -/
def numberAt (start width : Nat) (bytes : List UInt8) : Nat :=
  numberOf ((bytes.drop start).take width)

/-- A number in `width` bytes, the lowest first. -/
def bytesOf (width n : Nat) : List UInt8 :=
  match width with
  | 0 => []
  | width + 1 => UInt8.ofNat n :: bytesOf width (n / 256)

/-- One bit of a checksum. -/
def checksumBit (n : UInt32) : UInt32 :=
  if n &&& 1 = 1 then (n >>> 1) ^^^ 0xEDB88320 else n >>> 1

/-- One byte of a checksum. -/
def checksumByte (n : UInt32) (b : UInt8) : UInt32 :=
  (List.range 8).foldl (fun n _ => checksumBit n) (n ^^^ b.toUInt32)

/-- The checksum of data. -/
def checksum (bytes : List UInt8) : Nat :=
  (bytes.foldl checksumByte 0xFFFFFFFF ^^^ 0xFFFFFFFF).toNat

@[simp] theorem length_bytesOf (width n : Nat) : (bytesOf width n).length = width := by
  induction width generalizing n with
  | zero => rfl
  | succ width ih => simp [bytesOf, ih]

end TypedQuery.Archive
