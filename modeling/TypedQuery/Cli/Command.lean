import TypedQuery.Client.Write
import TypedQuery.Files.Extract
import TypedQuery.Schema.Sources

/-!
# Commands

`check` reads a schema and lists what is in it. `generate` reads a schema and writes a client for
it. Both take a schema file, a directory of schema files, or an archive, which is extracted into a
temporary directory and read from there.

* `loadSchema`: reads the schema. The temporary directory is gone afterwards, whatever happened.
* `Report`: what a command prints, the file tree that it leaves, and the error that ended it.
* `CommandError.isShown`: whether an error is reported to the user. Any other error escapes.
-/

namespace TypedQuery.Cli

/-- A line of output: an ordinary one, or one for errors and messages. -/
inductive Echo where
  | out (line : String)
  | err (line : String)
  deriving DecidableEq

/-- Why a schema cannot be read from a file. -/
inductive ReadFault where
  | zip (why : Archive.ZipFault)
  | tar (why : Archive.Tar.Fault)
  | refusedTar (message : String)
  | file (why : FileError)
  deriving DecidableEq

/-- The fault in words. -/
def ReadFault.message : ReadFault → String
  | .zip why => why.message
  | .tar why => why.message
  | .refusedTar message => message
  | .file e => e.message

/-- What ends a command early. -/
inductive CommandError where
  | schema (why : SchemaError)
  | unreadable (path : String) (why : ReadFault)
  /-- The data of an archive ends too early. -/
  | aborted
  | unsupportedArchive (suffix : String)
  /-- An archive has a fault that is not reported. -/
  | archive (why : Archive.ZipFault)
  /-- The extraction of a tar archive fails in a way that is not reported. -/
  | tarArchive (message : String)
  /-- The platform has too little stack for the schema. -/
  | exhausted
  /-- A path among the arguments is no path at all. -/
  | noPath
  | write (why : Client.WriteError)
  deriving DecidableEq

namespace CommandError

/-- The error in words. -/
def message : CommandError → String
  | .schema e => e.message
  | .unreadable path why => "cannot read schema " ++ path ++ ": " ++ why.message
  | .aborted => "Aborted!"
  | .unsupportedArchive suffix => "Unsupported archive format: " ++ suffix
  | .archive why => why.message
  | .tarArchive message => message
  | .exhausted => "maximum recursion depth exceeded"
  | .noPath => FileError.Cause.nullByte.text
  | .write e => e.message

/-- Whether the command reports the error. -/
def isShown : CommandError → Bool
  | .schema _ => true
  | .unreadable _ _ => true
  | .aborted => true
  | .write (.output _ _) => true
  | _ => false

/-- An error of an archive. -/
def ofZip (path : String) (why : Archive.ZipFault) : CommandError :=
  if why.isBadArchive then .unreadable path (.zip why)
  else if why = .dataEnds then .aborted
  else .archive why

/-- Why a command ends if a zip archive cannot be extracted. -/
def ofExtract (path : String) : ExtractError → CommandError
  | .file e => .unreadable path (.file e)
  | .archive why => .ofZip path why

/-- Why a command ends if the extraction of a tar archive stops. -/
def ofTar (path : String) : Archive.Tar.Stop → CommandError
  | .fault .streamEnds => .aborted
  | .fault why => .unreadable path (.tar why)
  | .refused message => .unreadable path (.refusedTar message)
  | .failed message => .tarArchive message

/-- The report of an error. -/
def echoes (e : CommandError) : List Echo :=
  if e = .aborted then [.err "", .err e.message]
  else if e.isShown then [.err ("Error: " ++ e.message)]
  else []

end CommandError

/-! ## Archives -/

/-- The endings of archives. -/
def archiveEndings : List String := [".zip", ".tar.gz", ".tgz"]

/-- Whether a name ends with one of `endings`. -/
def endsWithAny (endings : List String) (name : List Char) : Bool :=
  endings.any fun e => e.toList.isSuffixOf name

/-- Whether a file is an archive by its name. Capital letters do not matter. -/
def isArchiveName (name : String) : Bool :=
  endsWithAny archiveEndings (name.toList.map Char.toLower)

/-- The last part of a name from its dot on. A dot at either end of the name does not count. -/
def suffixOf (name : String) : String :=
  let ending := (name.toList.reverse.takeWhile (· != '.')).reverse
  if ending.isEmpty || name.length ≤ ending.length + 1 then ""
  else "." ++ String.ofList ending

/-- Extracts an archive into the temporary directory. Its format is known by its name, where capital
letters do matter. -/
def unpack (w : Workspace) (t : FileTree) (path name : String) (c : Content) :
    FileTree × Option CommandError :=
  if suffixOf name = ".zip" then
    match Archive.members c with
    | .error why => (t, some (.ofZip path why))
    | .ok members => (t.extract (w.path w.temp) members).map id (Option.map (.ofExtract path))
  else if endsWithAny [".tar.gz", ".tgz"] name.toList then
    let x := w.platform.untar c
    (x.made.foldl (FileTree.addEntry w.temp) t, x.stop.map (.ofTar path))
  else (t, some (.unsupportedArchive (suffixOf name)))

/-- Makes the temporary directory and extracts the archive at `p` into it. The directory is removed
again if that fails. -/
def extractArchive (w : Workspace) (t : FileTree) (p : Place) (name : String) (c : Content) :
    FileTree × Option CommandError :=
  match unpack w (t.addDir w.temp) (w.path p).text name c with
  | (t, some e) => (t.removeAll w.temp, some e)
  | (t, none) => (t, none)

/-! ## Reading the schema -/

/-- A schema or an error, with what was printed and the file tree afterwards. -/
structure Loaded where
  echoes : List Echo
  tree : FileTree
  result : Except CommandError Schema

/-- Lines that are printed only if more of them were asked for. -/
def wordy (verbose : Bool) (lines : List Echo) : List Echo := if verbose then lines else []

/-- A record of what the reader did. -/
def sourceEcho (e : SourceEvent) : Echo := .err ("DEBUG gql_typed.core.parser: " ++ e.message)

/-- Reads the schema at `source`; errors speak of the file at `path`. -/
def parseSchema (w : Workspace) (t : FileTree) (path : String) (source : Place) (verbose : Bool) :
    Loaded :=
  let (events, r) := SchemaFiles.parse t [] (w.path source).text
  { echoes := .out "Parsing schema..." :: wordy verbose (events.map sourceEcho)
    tree := t
    result := r.mapError fun
      | .schema e => .schema e
      | .file e => .unreadable path (.file e) }

/-- Reads the schema at `p`. Nothing is said about what is printed until the stack is exhausted. -/
def loadSchema (w : Workspace) (t : FileTree) (p : Place) (verbose : Bool) : Loaded :=
  let name := p.getLast?.getD ""
  let plain := parseSchema w t (w.path p).text p verbose
  if w.platform.isExhausted t p then ⟨[], t, .error .exhausted⟩
  else match t.file? p with
  | none => plain
  | some c =>
    if isArchiveName name then
      let first := Echo.out ("Extracting archive " ++ name ++ "...")
      match extractArchive w t p name c with
      | (t, some e) => ⟨[first], t, .error e⟩
      | (t, none) =>
        let l := parseSchema w t (w.path p).text w.temp verbose
        { echoes := first ::
            (wordy verbose [.out ("  Extracted to: " ++ (w.path w.temp).text)] ++ l.echoes)
          tree := l.tree.removeAll w.temp
          result := l.result }
    else plain

/-! ## The commands -/

/-- What a command prints, the file tree afterwards, and the error that ended it. -/
structure Report where
  echoes : List Echo
  tree : FileTree
  error : Option CommandError := none

/-- The report of a command that an error ended. -/
def Report.failed (echoes : List Echo) (tree : FileTree) (e : CommandError) : Report :=
  ⟨echoes ++ e.echoes, tree, some e⟩

/-- The lines about one type. -/
def typeLines (s : Schema) (t : ObjectType) : List String :=
  ("type " ++ t.name ++ if t.name = s.queryType then " (root)" else "") ::
    t.fields.map fun f =>
      "  " ++ f.name ++ ": " ++ f.type.render ++
        if f.type.scalar?.isSome then "  [scalar]" else "  [object]"

/-- The lines about a schema. -/
def schemaLines (s : Schema) : List String :=
  s.objects.flatMap (typeLines s) ++
    ["OK: " ++ toString s.types.length ++ " types, root query type " ++ s.queryType]

/-- Reads a schema and lists what is in it. -/
def check (w : Workspace) (t : FileTree) (schema : String) (verbose : Bool) : Report :=
  let l := loadSchema w t ((PathText.ofText schema).resolve w.cwd) verbose
  match l.result with
  | .error e => .failed l.echoes l.tree e
  | .ok s => { echoes := l.echoes ++ (schemaLines s).map .out, tree := l.tree }

/-- A record of what the writer did. -/
def writeEcho (e : Client.WriteEvent) : Echo :=
  .err ("DEBUG gql_typed.core.generator: " ++ e.message)

/-- Reads a schema and writes a client for it. -/
def generate (w : Workspace) (t : FileTree) (schema output : String) (o : Client.WriteOptions)
    (verbose : Bool) : Report :=
  let source := (PathText.ofText schema).resolve w.cwd
  let target := (PathText.ofText output).resolve w.cwd
  let l := loadSchema w t source verbose
  let before := wordy verbose
    [.out ("Schema: " ++ (w.path source).text), .out ("Output: " ++ (w.path target).text)] ++
    l.echoes
  match l.result with
  | .error e => .failed before l.tree e
  | .ok s =>
    let count := toString s.types.length
    let facts := wordy verbose
      [.out ("  Types: " ++ count), .out ("  Root query type: " ++ s.queryType)]
    let r := Client.write w l.tree s o (w.path target)
    let printed := before ++ facts ++ [.out "Generating code..."] ++
      wordy verbose (r.events.map writeEcho)
    match r.error with
    | some e => .failed printed r.tree (.write e)
    | none =>
      { echoes := printed ++
          [.out ("Done! Generated client for " ++ count ++ " types in " ++ (w.path target).text)]
        tree := r.tree }

end TypedQuery.Cli
