/-!
# Unpacked data

What can be had from packed bytes: data, and how it ended.
-/

namespace TypedQuery.Archive

/-- How packed bytes end. -/
inductive Ending where
  /-- With the mark for the end of the data. -/
  | complete
  /-- Before that mark. -/
  | cut
  /-- With something that no data is packed as. -/
  | corrupt
  deriving DecidableEq

/-- The data in packed bytes, as far as it can be had. -/
structure Unpacked where
  data : List UInt8
  ending : Ending
  deriving DecidableEq

end TypedQuery.Archive
