import TypedQuery.Cli.Run

/-!
# The program

Reads the files that the arguments name, runs the program on them, prints what it prints and writes
the files that it changed.
-/

namespace TypedQuery.Program

/-- The name of the program. -/
def name : String := "gql-typed"

/-- The path of a place. -/
def pathOf (p : Place) : String := "/" ++ "/".intercalate p

/-- The tree with what is at a place of the disk, and with everything below it if `deep`. -/
partial def load (deep : Bool) (t : FileTree) (p : Place) : IO FileTree := do
  let path := (← IO.currentDir) / pathOf p
  if ← path.isDir then
    let mut t := t.addDir p
    if deep then
      for entry in ← path.readDir do
        t ← load true t (p ++ [entry.fileName])
    return t
  else if ← path.pathExists then
    return t.put p (← IO.FS.readBinFile path).toList
  else return t

/-- The tree with all that leads to a place of the disk. -/
def loadWay (t : FileTree) (p : Place) : IO FileTree :=
  (List.range p.length).foldlM (fun t n => load false t (p.take n)) t

/-- The part of the disk that matters for the arguments. -/
def loadFor (w : Workspace) (args : List String) : IO FileTree := do
  let start ← loadWay (({} : FileTree).addDirs w.temp.dropLast) w.cwd
  let start ← load false start w.cwd
  (Cli.pathsIn args).foldlM (fun t (key, path) => do
    let p := (PathText.ofText path).resolve w.cwd
    load (key != .output) (← loadWay t p) p) start

/-- Brings the disk from one tree to another. -/
def store (before after : FileTree) : IO Unit := do
  for p in after.dirs do
    if !before.isDir p then IO.FS.createDirAll (pathOf p)
  for (p, c) in after.files do
    if before.file? p != some c then IO.FS.writeBinFile (pathOf p) ⟨c.toArray⟩

/-- Runs the program. -/
def run (args : List String) : IO UInt32 := do
  let cwd := (← IO.currentDir).components.filter (· != "")
  let w : Workspace := { cwd, temp := ["tmp", name ++ "-" ++ toString (← IO.monoNanosNow)] }
  let t ← loadFor w args
  let o := Cli.run name w t args
  store t o.tree
  for e in o.echoes do
    match e with
    | .out line => IO.println line
    | .err line => IO.eprintln line
  if let some e := o.escaped then IO.eprintln e.message
  return UInt32.ofNat o.exitCode

end TypedQuery.Program

/-- The entry point. -/
def main (args : List String) : IO UInt32 := TypedQuery.Program.run args
