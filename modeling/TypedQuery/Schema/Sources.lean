import TypedQuery.Files.Tree
import TypedQuery.Schema.Collector
import TypedQuery.Sorting

/-!
# Schemas in files

A schema may be spread over files. `SchemaFiles.collect` finds them: a file by itself, or every
schema file below a directory, sorted by path so that the order in which a directory lists its
entries does not matter. `SchemaFiles.parse` reads all of them into one schema.
-/

namespace TypedQuery

/-- Why schema files cannot be read. -/
inductive SourceError where
  | file (why : FileError)
  | schema (why : SchemaError)
  deriving DecidableEq

/-- The error in words. -/
def SourceError.message : SourceError → String
  | .file e => e.message
  | .schema e => e.message

/-- What happens while schema files are read. -/
inductive SourceEvent where
  | parsing (source : String)
  | built (types : Nat) (root : String)
  deriving DecidableEq

/-- The event in words. -/
def SourceEvent.message : SourceEvent → String
  | .parsing source => "Parsing schema source " ++ source
  | .built types root =>
    "Built schema model: " ++ toString types ++ " types, root query type " ++ root

namespace SchemaFiles

/-- The place of a byte: lines end with line feeds, and columns count bytes. -/
def bytePosition (bytes : List UInt8) (offset : Nat) : Position :=
  let before := bytes.take offset
  ⟨before.count 10 + 1, (before.reverse.takeWhile (· != 10)).length + 1⟩

/-- The text of a schema file. -/
def decode (source : String) (bytes : List UInt8) : Except SchemaError String :=
  match Utf8.decode bytes with
  | .ok text => .ok text
  | .error f => .error (.atPosition source (bytePosition bytes f.start) (.encoding f.reason))

/-- The result of reading files: what happened, what has been collected, and the error if there was
one. -/
structure Run where
  events : List SourceEvent := []
  collector : Collector := {}
  error : Option SourceError := none

/-- Reads one more file. -/
def addFile (t : FileTree) (cwd : Place) (run : Run) (path : String) : Run :=
  match t.read cwd path with
  | .error e => { run with error := some (.file e) }
  | .ok bytes =>
    match decode path bytes with
    | .error e => { run with error := some (.schema e) }
    | .ok text =>
      let (c, e) := run.collector.addSource path text
      ⟨run.events ++ [.parsing path], c, e.map .schema⟩

/-- Reads files up to the first error. -/
def addFiles (t : FileTree) (cwd : Place) (run : Run) : List String → Run
  | [] => run
  | path :: paths =>
    let run := addFile t cwd run path
    if run.error.isSome then run else addFiles t cwd run paths

/-- The endings of schema files. -/
def endings : List String := [".graphql", ".graphqls"]

/-- Whether a file below a directory counts as a schema file. -/
def isSchemaFile (names : Place) : Bool :=
  match names.getLast? with
  | none => false
  | some name => endings.any fun e => e.toList.isSuffixOf name.toList

/-- The path of what `names` lead to from the directory at `path`. -/
def join (path : String) (names : Place) : String :=
  path ++ (if path.toList.getLast? = some '/' then "" else "/") ++ "/".intercalate names

/-- Whether a directory below the one at `path` can be entered: its path must not be too long. -/
def isReached (path : String) (names : Place) : Bool :=
  names.length ≤ 1 || (FileTree.textFault? (join path names.dropLast)).isNone

/-- The schema files that a path stands for. There are none where nothing is, but the path must be
one. -/
def collect (t : FileTree) (cwd : Place) (path : String) : Except SourceError (List String) :=
  match t.locate cwd path with
  | .error .nullByte => .error (.file ⟨.nullByte, path⟩)
  | .error _ => .ok []
  | .ok p =>
    if t.isFile p then .ok [path]
    else if t.isDir p then
      let found := (t.below p).filter fun names => isSchemaFile names && isReached path names
      .ok (Sorting.byName (found.map (join path)))
    else .ok []

/-- The schema of everything that has been read. -/
def build (run : Run) : List SourceEvent × Except SourceError Schema :=
  match run.error with
  | some e => (run.events, .error e)
  | none =>
    match run.collector.build with
    | .error e => (run.events, .error (.schema e))
    | .ok s => (run.events ++ [.built s.types.length s.queryType], .ok s)

/-- The schema in one file. -/
def parseFile (t : FileTree) (cwd : Place) (path : String) :
    List SourceEvent × Except SourceError Schema :=
  build (addFile t cwd {} path)

/-- The schema in all the files that a path stands for. -/
def parse (t : FileTree) (cwd : Place) (path : String) :
    List SourceEvent × Except SourceError Schema :=
  match collect t cwd path with
  | .error e => ([], .error e)
  | .ok paths => build (addFiles t cwd {} paths)

end SchemaFiles

end TypedQuery
