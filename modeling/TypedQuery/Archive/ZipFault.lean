import TypedQuery.Archive.Inflate
import TypedQuery.Text.Encoding

/-!
# What can be wrong with a zip archive

`ZipFault.isBadArchive` tells the faults of an archive apart from what the reader of archives does
not support or does not expect.
-/

namespace TypedQuery.Archive

/-- A number of a member that the list keeps in a larger form. -/
inductive WideField where
  | size | packedSize | header
  deriving DecidableEq

/-- The field in words. -/
def WideField.name : WideField → String
  | .size => "File size"
  | .packedSize => "Compress size"
  | .header => "Header offset"

/-- Why an archive cannot be read. -/
inductive ZipFault where
  | notZip
  | severalDisks
  /-- The list of members would start before the archive. -/
  | listOffset
  | listTruncated
  | listMark
  | extraField (id size : Nat)
  | wideField (field : WideField)
  /-- The header of a member would start before the archive. -/
  | headerOffset
  | headerTruncated
  | headerMark
  | namesDiffer (listed : String) (found : List UInt8)
  | overlapping (name : String)
  | checksum (name : String)
  /-- The name of a member cannot be decoded. -/
  | nameEncoding (why : Encoding.Fault)
  | version (number : Nat)
  | patchedData
  | strongEncryption
  | encrypted (shown : String)
  | method
  | corruptData (why : InflateFault)
  /-- Data in sorted blocks is corrupt. -/
  | sortedData
  /-- Data in range codes is corrupt. -/
  | rangedData
  /-- The properties of range codes are none. -/
  | rangedProperties
  | dataEnds
  | emptyName
  /-- The header of a member would start farther away than files reach. -/
  | hugeOffset
  deriving DecidableEq

/-- The fault in words. -/
def ZipFault.message : ZipFault → String
  | .notZip => "File is not a zip file"
  | .severalDisks => "zipfiles that span multiple disks are not supported"
  | .listOffset => "Bad offset for central directory"
  | .listTruncated => "Truncated central directory"
  | .listMark => "Bad magic number for central directory"
  | .extraField id size =>
    "Corrupt extra field " ++ String.ofList (Text.hex 4 id) ++ " (size=" ++ toString size ++ ")"
  | .wideField field => "Corrupt zip64 extra field. " ++ field.name ++ " not found."
  | .headerOffset => "[Errno 22] Invalid argument"
  | .headerTruncated => "Truncated file header"
  | .headerMark => "Bad magic number for file header"
  | .namesDiffer listed found =>
    "File name in directory " ++ Text.quote listed ++ " and header " ++ Text.quoteBytes found ++
      " differ."
  | .overlapping name => "Overlapped entries: " ++ Text.quote name ++ " (possible zip bomb)"
  | .checksum name => "Bad CRC-32 for file " ++ Text.quote name
  | .nameEncoding why => why.message
  | .version number =>
    "zip file version " ++ toString (number / 10) ++ "." ++ toString (number % 10)
  | .patchedData => "compressed patched data (flag bit 5)"
  | .strongEncryption => "strong encryption (flag bit 6)"
  | .encrypted shown => "File " ++ shown ++ " is encrypted, password required for extraction"
  | .method => "That compression method is not supported"
  | .corruptData why => "Error -3 while decompressing data: " ++ why.message
  | .sortedData => "Invalid data stream"
  | .rangedData => "Corrupt input data"
  | .rangedProperties => "Invalid or unsupported options"
  | .dataEnds => ""
  | .emptyName => "string index out of range"
  | .hugeOffset => "cannot fit 'int' into an offset-sized integer"

/-- Whether the archive itself is to blame, in a way that readers of archives report. -/
def ZipFault.isBadArchive : ZipFault → Bool
  | .nameEncoding _ => false
  | .version _ => false
  | .patchedData => false
  | .strongEncryption => false
  | .encrypted _ => false
  | .method => false
  | .corruptData _ => false
  | .rangedData => false
  | .rangedProperties => false
  | .dataEnds => false
  | .emptyName => false
  | .hugeOffset => false
  | _ => true

end TypedQuery.Archive
