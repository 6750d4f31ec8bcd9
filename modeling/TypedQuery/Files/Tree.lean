import TypedQuery.Files.Error
import TypedQuery.Text.Split

/-!
# File trees

A `FileTree` holds directories and files by their place, which is the list of names from the top of
the tree. Nothing else of a file system matters here: no links, no permissions.

* `FileTree.locate`: the place that a name stands for, as seen from a directory.
* `FileTree.makeDirs`, `FileTree.write`: change the tree. What was made before a refusal stays.
* `FileTree.removeAll`: removes a directory with everything in it.
-/

namespace TypedQuery

/-- The names that lead from the top of a tree to a file or a directory. -/
abbrev Place := List String

/-- A name that leads one step down: neither empty nor made of dots alone. -/
def IsStep (name : String) : Prop := name ≠ "" ∧ name ≠ "." ∧ name ≠ ".."

instance (name : String) : Decidable (IsStep name) :=
  inferInstanceAs (Decidable (name ≠ "" ∧ name ≠ "." ∧ name ≠ ".."))

/-- What a file holds. -/
abbrev Content := List UInt8

/-- Directories and files by their places. The top of the tree is always a directory. -/
structure FileTree where
  dirs : List Place := []
  files : List (Place × Content) := []
  deriving DecidableEq

namespace FileTree

/-- Whether a directory is at `p`. -/
def isDir (t : FileTree) (p : Place) : Bool := p.isEmpty || t.dirs.contains p

/-- The content of the file at `p`. -/
def file? (t : FileTree) (p : Place) : Option Content :=
  (t.files.find? fun e => e.1 == p).map Prod.snd

/-- Whether a file is at `p`. -/
def isFile (t : FileTree) (p : Place) : Bool := (t.file? p).isSome

/-- Whether anything is at `p`. -/
def has (t : FileTree) (p : Place) : Bool := t.isDir p || t.isFile p

/-- The tree with a directory at `p`. -/
def addDir (t : FileTree) (p : Place) : FileTree :=
  if t.isDir p then t else { t with dirs := t.dirs ++ [p] }

/-- The tree with directories at `p` and at all places that lead to it. -/
def addDirs (t : FileTree) (p : Place) : FileTree :=
  (List.range (p.length + 1)).foldl (fun t n => t.addDir (p.take n)) t

/-- The tree with the given content in the file at `p`. -/
def put (t : FileTree) (p : Place) (c : Content) : FileTree :=
  if t.isFile p then
    { t with files := t.files.map fun e => if e.1 == p then (p, c) else e }
  else { t with files := t.files ++ [(p, c)] }

/-- The tree without `p` and everything below it. -/
def removeAll (t : FileTree) (p : Place) : FileTree :=
  { dirs := t.dirs.filter fun q => !p.isPrefixOf q
    files := t.files.filter fun e => !p.isPrefixOf e.1 }

/-- The files below `p`, each by the names that lead to it from `p`. -/
def below (t : FileTree) (p : Place) : List Place :=
  t.files.filterMap fun e =>
    if p.isPrefixOf e.1 && p.length < e.1.length then some (e.1.drop p.length) else none

/-! ## Names -/

/-- The most bytes that a name may have. -/
def longestName : Nat := 255

/-- The most bytes that a path may have. -/
def longestPath : Nat := 4095

/-- What is wrong with a path, whatever the tree. -/
def textFault? (path : String) : Option FileError.Cause :=
  if path.toList.contains '\x00' then some .nullByte
  else if longestPath < path.utf8ByteSize then some .nameTooLong
  else none

/-- Takes one step from `here`. -/
def step (t : FileTree) (here : Place) (name : String) : Except FileError.Cause Place :=
  if t.isDir here then
    if name = "" ∨ name = "." then .ok here
    else if name = ".." then .ok here.dropLast
    else if longestName < name.utf8ByteSize then .error .nameTooLong
    else .ok (here ++ [name])
  else .error (if t.isFile here then .notDirectory else .notFound)

/-- Takes steps one after the other. -/
def walk (t : FileTree) (here : Place) (names : List String) : Except FileError.Cause Place :=
  names.foldlM t.step here

/-- The names in a path. -/
def namesOf (path : String) : List String :=
  (Text.splitWhere (· == '/') path.toList).map String.ofList

/-- The place that a path stands for in the directory `cwd`. Nothing needs to be there, but the way
to it must be. -/
def locate (t : FileTree) (cwd : Place) (path : String) : Except FileError.Cause Place :=
  match textFault? path with
  | some cause => .error cause
  | none =>
    if path.isEmpty then .error .notFound
    else t.walk (if path.toList.head? = some '/' then [] else cwd) (namesOf path)

/-- The place of something that is there. -/
def find? (t : FileTree) (cwd : Place) (path : String) : Option Place :=
  match t.locate cwd path with
  | .ok p => if t.has p then some p else none
  | .error _ => none

/-- Reads the file at a place. -/
def readAt (t : FileTree) (p : Place) : Except FileError.Cause Content :=
  if t.isDir p then .error .isDirectory
  else
    match t.file? p with
    | some c => .ok c
    | none => .error .notFound

/-- Reads a file. -/
def read (t : FileTree) (cwd : Place) (path : String) : Except FileError Content :=
  match t.locate cwd path >>= t.readAt with
  | .ok c => .ok c
  | .error cause => .error ⟨cause, path⟩

end FileTree

/-! ## Paths to write to -/

/-- A path in its parts. Empty parts and single dots are left out. -/
structure PathText where
  /-- How the top of the tree is written, if the path starts there. -/
  top : Option String := none
  parts : List String
  deriving DecidableEq

namespace PathText

/-- How the top of the tree is written in a path: two slashes stay, more of them count as one. -/
def topOf? (path : String) : Option String :=
  match (path.toList.takeWhile (· == '/')).length with
  | 0 => none
  | 2 => some "//"
  | _ => some "/"

/-- The parts of a path. -/
def ofText (path : String) : PathText :=
  ⟨topOf? path, (FileTree.namesOf path).filter fun n => n != "" && n != "."⟩

/-- A path as it is written. -/
def text (p : PathText) : String :=
  let joined := "/".intercalate p.parts
  match p.top with
  | some top => top ++ joined
  | none => if p.parts.isEmpty then "." else joined

/-- The directory that holds what the path leads to. -/
def parent (p : PathText) : PathText := { p with parts := p.parts.dropLast }

/-- The path of something in the directory that the path leads to. -/
def child (p : PathText) (name : String) : PathText := { p with parts := p.parts ++ [name] }

/-- Where the path starts. -/
def origin (cwd : Place) (p : PathText) : Place := if p.top.isSome then [] else cwd

/-- The place that a path leads to without looking at any tree. -/
def resolve (cwd : Place) (p : PathText) : Place :=
  p.parts.foldl (fun here n => if n = ".." then here.dropLast else here ++ [n]) (p.origin cwd)

end PathText

namespace FileTree

/-- The place that a path stands for. -/
def locatePath (t : FileTree) (cwd : Place) (p : PathText) : Except FileError.Cause Place :=
  match textFault? p.text with
  | some cause => .error cause
  | none => t.walk (p.origin cwd) p.parts

/-- Makes one directory, in a directory that is there. -/
def makeDir (t : FileTree) (cwd : Place) (p : PathText) : Except FileError.Cause FileTree :=
  match t.locatePath cwd p with
  | .error cause => .error cause
  | .ok q => if t.has q then .error .alreadyExists else .ok (t.addDir q)

/-- Makes the directories that names lead through from `here`, which is one itself. `done` is the
path up to here if a directory had to be made on the way; then the error is about the first name
that is refused. Otherwise the whole path `p` is refused. -/
def makeDirsFrom (p : PathText) (t : FileTree) (here : Place) (done : Option PathText) :
    List String → FileTree × Option FileError
  | [] => (t, none)
  | name :: rest =>
    let reached := done.map (·.child name)
    let refuse (cause : FileError.Cause) : FileTree × Option FileError :=
      (t, some ⟨cause, (reached.getD p).text⟩)
    match t.step here name with
    | .error cause => refuse cause
    | .ok q =>
      if t.isDir q then makeDirsFrom p t q reached rest
      else if t.isFile q then
        refuse (if done.isNone && !rest.isEmpty then .notDirectory else .alreadyExists)
      else
        let way := reached.getD ⟨p.top, p.parts.take (p.parts.length - rest.length)⟩
        makeDirsFrom p (t.addDir q) q (some way) rest

/-- Makes a directory and the ones that lead to it, unless they are there. -/
def makeDirs (cwd : Place) (t : FileTree) (p : PathText) : FileTree × Option FileError :=
  match textFault? p.text with
  | some cause => (t, some ⟨cause, p.text⟩)
  | none => t.makeDirsFrom p (p.origin cwd) none p.parts

/-- Writes a file into a directory that is there. -/
def write (cwd : Place) (t : FileTree) (p : PathText) (c : Content) :
    FileTree × Option FileError :=
  match t.locatePath cwd p with
  | .error cause => (t, some ⟨cause, p.text⟩)
  | .ok q => if t.isDir q then (t, some ⟨.isDirectory, p.text⟩) else (t.put q c, none)

end FileTree

end TypedQuery
