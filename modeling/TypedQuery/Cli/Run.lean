import TypedQuery.Cli.Command
import TypedQuery.Cli.Usage

/-!
# Running the program

`run` is the whole program as a function: from its arguments and a file tree to what it prints, the
file tree that it leaves, and its exit code.
-/

namespace TypedQuery.Cli

/-- What a run of the program prints and leaves behind. -/
structure Outcome where
  echoes : List Echo
  tree : FileTree
  exitCode : Nat
  escaped : Option CommandError := none

namespace Outcome

/-- The ordinary output. -/
def stdout (o : Outcome) : String :=
  String.join (o.echoes.map fun
    | .out line => line ++ "\n"
    | .err _ => "")

/-- The output for errors and messages. -/
def stderr (o : Outcome) : String :=
  String.join (o.echoes.map fun
    | .out _ => ""
    | .err line => line ++ "\n")

/-- The outcome of a command. An error gives the exit code 1. -/
def ofReport (r : Report) : Outcome :=
  { echoes := r.echoes
    tree := r.tree
    exitCode := if r.error.isSome then 1 else 0
    escaped := r.error.filter fun e => !e.isShown }

end Outcome

/-- The options for the client that `generate` writes. -/
def GenerateArguments.options (a : GenerateArguments) : Client.WriteOptions :=
  { runtime := a.runtime.getD ({} : Client.WriteOptions).runtime
    templateDir := a.templateDir.getD "" }

/-- Does what the program is asked to do. -/
def Invocation.run (program : String) (w : Workspace) (t : FileTree) : Invocation → Outcome
  | .bare => ⟨(helpLines program none).map .err, t, 2, none⟩
  | .help c => ⟨(helpLines program c).map .out, t, 0, none⟩
  | .version => ⟨[.out (versionLine program)], t, 0, none⟩
  | .check schema verbose => .ofReport (Cli.check w t schema verbose)
  | .generate a => .ofReport (Cli.generate w t a.schema a.output a.options a.verbose)

/-- Runs the program. Faulty arguments give the exit code 2. -/
def run (program : String) (w : Workspace) (t : FileTree) (args : List String) : Outcome :=
  match Invocation.ofArgs t w.cwd args with
  | .error ⟨_, .invalidPath _ _ .nullByte⟩ => ⟨[], t, 1, some .noPath⟩
  | .error e => ⟨(e.lines program).map .err, t, 2, none⟩
  | .ok i => i.run program w t

end TypedQuery.Cli
