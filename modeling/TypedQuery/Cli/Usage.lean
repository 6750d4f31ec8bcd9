import TypedQuery.Cli.Invocation

/-!
# Help and usage

The texts that say how the program is called.
-/

namespace TypedQuery.Cli

/-- The version of the program. -/
def versionNumber : String := "0.1.0"

/-- How the program, or one of its commands, is called. -/
def callOf (program : String) : Option Command → String
  | none => program
  | some c => program ++ " " ++ c.name

/-- The line that shows what can be given. -/
def usageLine (program : String) (c : Option Command) : String :=
  "Usage: " ++ callOf program c ++ " [OPTIONS]" ++
    if c.isNone then " COMMAND [ARGS]..." else ""

/-- What the program, or one of its commands, is for, and what can be given. -/
def helpBody : Option Command → List String
  | none =>
    ["  Typed GraphQL client generator for Python.",
     "",
     "  Generate query builders whose responses only expose the selected fields.",
     "",
     "Options:",
     "  --version  Show the version and exit.",
     "  --help     Show this message and exit.",
     "",
     "Commands:",
     "  check     Parse and validate a schema without generating code.",
     "  generate  Generate a typed client module from a GraphQL schema."]
  | some .check =>
    ["  Parse and validate a schema without generating code.",
     "",
     "Options:",
     "  -s, --schema PATH  Path to GraphQL schema file, directory, or archive (.zip,",
     "                     .tar.gz, .tgz).  [required]",
     "  -v, --verbose      Enable verbose output.",
     "  --help             Show this message and exit."]
  | some .generate =>
    ["  Generate a typed client module from a GraphQL schema.",
     "",
     "  Examples:",
     "",
     "      gql-typed generate --schema ./schema.graphql --output ./starwars_client.py",
     "",
     "      gql-typed generate -s ./schema -o ./client.py -t ./templates",
     "",
     "Options:",
     "  -s, --schema PATH             Path to GraphQL schema file, directory, or",
     "                                archive (.zip, .tar.gz, .tgz).  [required]",
     "  -o, --output FILE             Output file for the generated module (e.g.,",
     "                                starwars_client.py).  [required]",
     "  -t, --template-dir DIRECTORY  Directory with Jinja2 templates overriding",
     "                                client.py.j2.",
     "  --runtime-module TEXT         Import path of the runtime support library in",
     "                                generated code.  [default: gql_typed.runtime]",
     "  -v, --verbose                 Enable verbose output.",
     "  --help                        Show this message and exit."]

/-- The help of the program or of a command. -/
def helpLines (program : String) (c : Option Command) : List String :=
  usageLine program c :: "" :: helpBody c

/-- The version, as it is shown. -/
def versionLine (program : String) : String := program ++ ", version " ++ versionNumber

/-- A fault in the arguments, as it is shown. -/
def UsageError.lines (program : String) (e : UsageError) : List String :=
  let hint := "Try '" ++ callOf program e.command ++ " --help' for help."
  (if e.showsUsage then [usageLine program e.command, hint, ""] else []) ++
    ["Error: " ++ e.fault.message]

end TypedQuery.Cli
