import TypedQuery.Text.Quoted

/-!
# Errors of the file system

A `FileError` says why a path cannot be used. Most causes are refusals of the file system, which
have a number. A path with a null byte in it never gets that far.
-/

namespace TypedQuery

/-- Why a path cannot be used. -/
inductive FileError.Cause where
  | notFound | alreadyExists | notDirectory | isDirectory | nameTooLong
  /-- The path is no path at all. -/
  | nullByte
  deriving DecidableEq

/-- The number of the cause, if the file system refuses. -/
def FileError.Cause.code? : FileError.Cause → Option Nat
  | .notFound => some 2
  | .alreadyExists => some 17
  | .notDirectory => some 20
  | .isDirectory => some 21
  | .nameTooLong => some 36
  | .nullByte => none

/-- The cause in words. -/
def FileError.Cause.text : FileError.Cause → String
  | .notFound => "No such file or directory"
  | .alreadyExists => "File exists"
  | .notDirectory => "Not a directory"
  | .isDirectory => "Is a directory"
  | .nameTooLong => "File name too long"
  | .nullByte => "embedded null byte"

/-- A cause, and the name of the file that it is about. -/
structure FileError where
  cause : FileError.Cause
  path : String
  deriving DecidableEq

/-- The error in words. -/
def FileError.message (e : FileError) : String :=
  match e.cause.code? with
  | some code => "[Errno " ++ toString code ++ "] " ++ e.cause.text ++ ": " ++ Text.quote e.path
  | none => e.cause.text

/-- Whether the file system refuses. -/
def FileError.isRefusal (e : FileError) : Bool := e.cause.code?.isSome

end TypedQuery
