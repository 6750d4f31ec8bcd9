import TypedQuery.Archive.Untar
import TypedQuery.Archive.Zip

/-!
# Extracting archives

The members of an archive become files below a directory. The name of a member of a zip archive may
lead anywhere, so its empty parts and its dots are left out. The names of what is made of a tar
archive lead down anyway. So nothing is ever written outside the directory.
-/

namespace TypedQuery

/-- Why a member cannot be extracted. -/
inductive ExtractError where
  | file (why : FileError)
  | archive (why : Archive.ZipFault)
  deriving DecidableEq

namespace FileTree

/-- The names of a member, without the ones that would lead elsewhere. -/
def memberNames (member : String) : List String :=
  (namesOf member).filter fun n => n != "" && n != "." && n != ".."

/-- Makes the directories that names lead through from the directory `base`, one inside the other,
unless something is there already. -/
def makeWay (t : FileTree) (base : PathText) : List String → FileTree × Option FileError
  | [] => (t, none)
  | name :: left =>
    let p := base.child name
    if t.has p.parts then makeWay t p left
    else
      match t.makeDir [] p with
      | .error cause => (t, some ⟨cause, p.text⟩)
      | .ok t => makeWay t p left

/-- Writes the data of a member to a file. The data is found before the file is made, and read
afterwards. -/
def writeMember (t : FileTree) (p : PathText) (m : Archive.Member) :
    FileTree × Option ExtractError :=
  match m.content with
  | .error why => (t, some (.archive why))
  | .ok data =>
    match t.write [] p [], data with
    | (t, some e), _ => (t, some (.file e))
    | (t, none), .error why => (t, some (.archive why))
    | (_, none), .ok data =>
      let (t, e) := t.write [] p data
      (t, e.map .file)

/-- Extracts one member into the directory `base`. A name that ends with a slash is a directory. -/
def extractMember (base : PathText) (t : FileTree) (m : Archive.Member) :
    FileTree × Option ExtractError :=
  let names := memberNames m.name
  let target : PathText := { base with parts := base.parts ++ names }
  match makeWay t base names.dropLast with
  | (t, some e) => (t, some (.file e))
  | (t, none) =>
    match m.name.toList.getLast? with
    | none => (t, some (.archive .emptyName))
    | some '/' =>
      if t.isDir target.parts then (t, none)
      else
        match t.makeDir [] target with
        | .error cause => (t, some (.file ⟨cause, target.text⟩))
        | .ok t => (t, none)
    | some _ => t.writeMember target m

/-- Extracts members into the directory `base`, up to the first that cannot be extracted. -/
def extract (base : PathText) (t : FileTree) :
    List Archive.Member → FileTree × Option ExtractError
  | [] => (t, none)
  | m :: more =>
    match extractMember base t m with
    | (t, some e) => (t, some e)
    | (t, none) => extract base t more

/-- The tree with the directories that names lead through from `base`. -/
def addWay (t : FileTree) (base : Place) : List Archive.Tar.Step → FileTree
  | [] => t
  | name :: left => addWay (t.addDir (base ++ [name.val])) (base ++ [name.val]) left

/-- The tree with what is made of a tar archive below `base`. -/
def addEntry (base : Place) (t : FileTree) (e : Archive.Tar.Entry) : FileTree :=
  match e with
  | .directory way => t.addWay base way
  | .file way name content =>
    (t.addWay base way).put (base ++ way.map Subtype.val ++ [name.val]) content

end FileTree

end TypedQuery
