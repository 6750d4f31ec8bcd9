import TypedQuery.Cli.Options
import TypedQuery.Client.Write

/-!
# Invocations

What the arguments of the program ask for. `Invocation.ofArgs` reads them; paths that have to be
there are looked for in the file tree.

The options of the program itself stand before the command, those of a command behind it. An option
that shows something, such as the help, wins over every other one.
-/

namespace TypedQuery.Cli

/-- The commands. -/
inductive Command where
  | check | generate
  deriving DecidableEq

namespace Command

/-- The name of a command. -/
def name : Command → String
  | .check => "check"
  | .generate => "generate"

/-- All commands. -/
def all : List Command := [.check, .generate]

/-- The command with a name. -/
def ofName? (name : String) : Option Command := all.find? fun c => c.name == name

end Command

/-! ## The options -/

def schemaOption : OptionSpec := { key := .schema, long := "--schema", short := some 's' }

def outputOption : OptionSpec := { key := .output, long := "--output", short := some 'o' }

def templateDirOption : OptionSpec :=
  { key := .templateDir, long := "--template-dir", short := some 't' }

def runtimeModuleOption : OptionSpec := { key := .runtimeModule, long := "--runtime-module" }

def verboseOption : OptionSpec :=
  { key := .verbose, long := "--verbose", short := some 'v', takesValue := false }

def helpOption : OptionSpec := { key := .help, long := "--help", takesValue := false }

def versionOption : OptionSpec := { key := .version, long := "--version", takesValue := false }

/-- The options of the program. -/
def programOptions : List OptionSpec := [versionOption, helpOption]

/-- The options of a command. -/
def Command.options : Command → List OptionSpec
  | .check => [schemaOption, verboseOption, helpOption]
  | .generate =>
    [schemaOption, outputOption, templateDirOption, runtimeModuleOption, verboseOption, helpOption]

/-- The options that must be given. -/
def OptionKey.isRequired : OptionKey → Bool
  | .schema => true
  | .output => true
  | _ => false

/-! ## Faults -/

/-- What is wrong with the path that an option names. -/
inductive PathFault where
  | missing | isFile | isDirectory
  /-- The path is no path at all. -/
  | nullByte
  deriving DecidableEq

/-- What is wrong with the arguments. -/
inductive UsageFault where
  | argument (why : ArgumentFault)
  | missingOption (option : OptionSpec)
  | invalidPath (option : OptionSpec) (path : String) (why : PathFault)
  | extraArguments (args : List String)
  | missingCommand
  | unknownCommand (name : String) (similar : List String)
  deriving DecidableEq

/-- What kind of path an option names. -/
def OptionKey.pathKind : OptionKey → String
  | .templateDir => "Directory"
  | .output => "File"
  | _ => "Path"

/-- The fault in words. -/
def PathFault.text : PathFault → String
  | .missing => "does not exist"
  | .isFile => "is a file"
  | .isDirectory => "is a directory"
  | .nullByte => FileError.Cause.nullByte.text

/-- The fault in words. -/
def UsageFault.message : UsageFault → String
  | .argument why => why.message
  | .missingOption o => "Missing option " ++ o.label ++ "."
  | .invalidPath o path why =>
    "Invalid value for " ++ o.label ++ ": " ++ o.key.pathKind ++ " " ++ Text.quote path ++ " " ++
      why.text ++ "."
  | .extraArguments args =>
    "Got unexpected extra argument" ++ (if args.length = 1 then "" else "s") ++
      " (" ++ " ".intercalate args ++ ")"
  | .missingCommand => "Missing command."
  | .unknownCommand name similar =>
    "No such command " ++ Text.quote name ++ "." ++ suggestion similar

/-- A fault, and the command whose arguments have it. -/
structure UsageError where
  command : Option Command
  fault : UsageFault
  deriving DecidableEq

/-- Whether the usage is shown with the message. -/
def UsageError.showsUsage (e : UsageError) : Bool :=
  match e.fault with
  | .argument (.needsValue _) => false
  | .argument (.takesNoValue _) => false
  | _ => true

/-! ## Reading -/

/-- What `generate` is asked to do. -/
structure GenerateArguments where
  schema : String
  output : String
  templateDir : Option String := none
  runtime : Option String := none
  verbose : Bool := false
  deriving DecidableEq

/-- What the program is asked to do. -/
inductive Invocation where
  | bare
  | help (command : Option Command)
  | version
  | check (schema : String) (verbose : Bool)
  | generate (args : GenerateArguments)
  deriving DecidableEq

/-- What is wrong with a path, as seen from the directory `cwd`. -/
def pathFault? (t : FileTree) (cwd : Place) (key : OptionKey) (path : String) : Option PathFault :=
  match key, t.locate cwd path, t.find? cwd path with
  | .runtimeModule, _, _ => none
  | _, .error .nullByte, _ => some .nullByte
  | .schema, _, none => some .missing
  | .templateDir, _, none => some .missing
  | .templateDir, _, some p => if t.isFile p then some .isFile else none
  | .output, _, some p => if t.isDir p then some .isDirectory else none
  | _, _, _ => none

/-- What is wrong with the value of an option, or with its absence. -/
def optionFault? (t : FileTree) (cwd : Place) (a : Arguments) (o : OptionSpec) :
    Option UsageFault :=
  match a.value? o.key with
  | some v => (pathFault? t cwd o.key v).map (.invalidPath o v)
  | none => if o.key.isRequired then some (.missingOption o) else none

/-- The first thing that is wrong with the arguments of a command. -/
def commandFault? (t : FileTree) (cwd : Place) (c : Command) (a : Arguments) : Option UsageFault :=
  match (a.order c.options).findSome? (optionFault? t cwd a) with
  | some f => some f
  | none => if a.rest.isEmpty then none else some (.extraArguments a.rest)

/-- Reads the arguments of a command. -/
def Command.read (t : FileTree) (cwd : Place) (c : Command) (args : List String) :
    Except UsageFault Invocation :=
  match Arguments.parse c.options true args with
  | .error e => .error (.argument e)
  | .ok a =>
    if a.given .help then .ok (.help (some c))
    else
      match commandFault? t cwd c a with
      | some f => .error f
      | none =>
        let schema := (a.value? .schema).getD ""
        let verbose := a.given .verbose
        match c with
        | .check => .ok (.check schema verbose)
        | .generate =>
          .ok (.generate ⟨schema, (a.value? .output).getD "", a.value? .templateDir,
            a.value? .runtimeModule, verbose⟩)

/-- What the options of the program itself ask for; the first one counts. -/
def shown? (a : Arguments) : Option Invocation :=
  a.options.findSome? fun o =>
    match o.key with
    | .help => some (.help none)
    | .version => some .version
    | _ => none

/-- What is wrong with the name of a command. A name that looks like an option is read as one. -/
def refuseCommand (name : String) (args : List String) : Except UsageFault Invocation :=
  let unknown :=
    UsageFault.unknownCommand name (Similar.closest name (Command.all.map Command.name))
  match Arguments.parse programOptions false args with
  | .error e => .error (.argument e)
  | .ok a =>
    match shown? a with
    | some i => .ok i
    | none => .error unknown

/-- Reads the arguments of the program. -/
def Invocation.ofArgs (t : FileTree) (cwd : Place) (args : List String) :
    Except UsageError Invocation :=
  let own (r : Except UsageFault Invocation) : Except UsageError Invocation :=
    r.mapError (⟨none, ·⟩)
  if args.isEmpty then .ok .bare
  else
    match Arguments.parse programOptions false args with
    | .error e => own (.error (.argument e))
    | .ok a =>
      match shown? a, a.rest with
      | some i, _ => .ok i
      | none, [] => own (.error .missingCommand)
      | none, name :: more =>
        match Command.ofName? name with
        | none => own (refuseCommand name a.rest)
        | some c => (c.read t cwd more).mapError (⟨some c, ·⟩)

/-- The paths among the arguments, with what they are for. -/
def pathsIn (args : List String) : List (OptionKey × String) :=
  match Arguments.parse programOptions false args with
  | .ok { rest := name :: more, .. } =>
    match (Command.ofName? name).map fun c => Arguments.parse c.options true more with
    | some (.ok a) =>
      a.options.filterMap fun o =>
        if [OptionKey.schema, .output, .templateDir].contains o.key then o.value.map (o.key, ·)
        else none
    | _ => []
  | _ => []

end TypedQuery.Cli
