import TypedQuery.Client.Generate
import TypedQuery.Text.Encoding
import TypedQuery.Workspace

/-!
# Writing a client to a file

`Client.write` generates a module and writes it to a file, together with the directories that lead
to it. Nothing is touched unless the module could be generated.
-/

namespace TypedQuery.Client

/-- The file that holds a user's own template. -/
def templateName : String := "client.py.j2"

/-- What is wrong with the directory of a template. It may be missing, or be no directory at all,
but its name must not be too long. -/
def templateDirFault? (w : Workspace) (t : FileTree) (dir : String) : Option FileError :=
  let p := PathText.ofText dir
  match t.locatePath w.cwd p with
  | .error .nameTooLong => if dir.isEmpty then none else some ⟨.nameTooLong, p.text⟩
  | _ => none

/-- The template in a directory. There is none if the directory or the file in it is not there. -/
def findTemplate (w : Workspace) (t : FileTree) (dir : String) :
    Except Encoding.Fault (Option Template) :=
  if dir.isEmpty then .ok none
  else
    match t.locatePath w.cwd ((PathText.ofText dir).child templateName) with
    | .error _ => .ok none
    | .ok q =>
      match t.file? q with
      | none => .ok none
      | some data =>
        match Utf8.decode data with
        | .ok text => .ok (some (w.platform.template t q text))
        | .error f => .error (.ofUtf8 data f)

/-- What a user can choose when a client is written. -/
structure WriteOptions where
  runtime : String := ({} : Options).runtime
  templateDir : String := ""

/-- Why a client is not written. -/
inductive WriteError where
  | generate (why : GenerateError)
  | templateDir (why : FileError)
  | template (why : Encoding.Fault)
  | output (path : String) (why : FileError)
  /-- The path to write to is no path at all. -/
  | noPath (why : FileError)
  deriving DecidableEq

/-- The error in words. -/
def WriteError.message : WriteError → String
  | .generate e => e.message
  | .templateDir e => e.message
  | .template f => f.message
  | .output path e => "cannot write generated code to " ++ path ++ ": " ++ e.message
  | .noPath e => e.message

/-- What happens while a client is written. -/
inductive WriteEvent where
  | generated (lines types : Nat)
  | wrote (path : String)
  deriving DecidableEq

/-- The event in words. -/
def WriteEvent.message : WriteEvent → String
  | .generated lines types =>
    "Generated " ++ toString lines ++ " lines for " ++ toString types ++ " types"
  | .wrote path => "Wrote " ++ path

/-- Generates a client with the template in a directory, if there is one. The schema is planned
before the template is looked for, but after its directory is. -/
def generateIn (w : Workspace) (t : FileTree) (s : Schema) (o : WriteOptions) :
    Except WriteError String :=
  match templateDirFault? w t o.templateDir, prepare s with
  | some e, _ => .error (.templateDir e)
  | none, .error e => .error (.generate e)
  | none, .ok (plan, root) =>
    match findTemplate w t o.templateDir with
    | .error f => .error (.template f)
    | .ok template =>
      match render { runtime := o.runtime, template } plan root with
      | .error e => .error (.generate e)
      | .ok text => .ok text

/-- The result of writing: the tree, what happened, and the error if there was one. -/
structure Written where
  tree : FileTree
  events : List WriteEvent := []
  error : Option WriteError := none

/-- Writes a text to a file, together with the directories that lead to it. -/
def writeText (w : Workspace) (t : FileTree) (p : PathText) (text : String) :
    FileTree × Option FileError :=
  match t.makeDirs w.cwd p.parent with
  | (t, some e) => (t, some e)
  | (t, none) => t.write w.cwd p (Utf8.encode text)

/-- Generates a client and writes it. -/
def write (w : Workspace) (t : FileTree) (s : Schema) (o : WriteOptions) (p : PathText) : Written :=
  match generateIn w t s o with
  | .error e => { tree := t, error := some e }
  | .ok text =>
    let generated := WriteEvent.generated (text.toList.count '\n') s.types.length
    let path := p.text
    match writeText w t p text with
    | (t, some e) =>
      let error := if e.isRefusal then WriteError.output path e else .noPath e
      { tree := t, events := [generated], error := some error }
    | (t, none) => { tree := t, events := [generated, .wrote path] }

end TypedQuery.Client
