import TypedQuery.Text.Quoted
import TypedQuery.Text.Similar

/-!
# Options of the command line

An option is written `--name value` or `--name=value`, or with one letter as `-n value` or
`-nvalue`. Letters of options without a value may stand together. Everything after `--` is no
option.

* `OptionSpec`: what can be given.
* `Arguments.parse`: what was given, in order, and what is left over.
-/

namespace TypedQuery.Cli

/-- The options. -/
inductive OptionKey where
  | schema | output | templateDir | runtimeModule | verbose | help | version
  deriving DecidableEq

/-- How an option is written, and whether it has a value. -/
structure OptionSpec where
  key : OptionKey
  long : String
  short : Option Char := none
  takesValue : Bool := true
  deriving DecidableEq

/-- An option as messages show it. -/
def OptionSpec.label (s : OptionSpec) : String :=
  "'" ++ s.long ++ "'" ++ match s.short with
    | some c => " / '-" ++ c.toString ++ "'"
    | none => ""

/-- What is wrong with the form of arguments. -/
inductive ArgumentFault where
  | unknownOption (name : String) (similar : List String)
  | needsValue (name : String)
  | takesNoValue (name : String)
  deriving DecidableEq

/-- Words that were perhaps meant. -/
def suggestion (words : List String) : String :=
  match words with
  | [] => ""
  | [w] => " Did you mean " ++ Text.quote w ++ "?"
  | ws => " (Did you mean one of: " ++
      ", ".intercalate ((Sorting.byName ws).map Text.quote) ++ "?)"

/-- The fault in words. -/
def ArgumentFault.message : ArgumentFault → String
  | .unknownOption name similar =>
    "No such option " ++ Text.quote name ++ "." ++ suggestion similar
  | .needsValue name => "Option " ++ Text.quote name ++ " requires an argument."
  | .takesNoValue name => "Option " ++ Text.quote name ++ " does not take a value."

/-- An option that was given, with its value. -/
structure Occurrence where
  key : OptionKey
  value : Option String := none
  deriving DecidableEq

/-- What was given: options in order, and the other arguments. -/
structure Arguments where
  options : List Occurrence := []
  rest : List String := []
  deriving DecidableEq

namespace Arguments

/-- The value of an option that was written as `name`, taken from the next argument. -/
def nextValue (key : OptionKey) (name : String) (next : List String) :
    Except ArgumentFault (List Occurrence × Nat) :=
  match next with
  | [] => .error (.needsValue name)
  | v :: _ => .ok ([⟨key, some v⟩], 1)

/-- Reads options of one letter. The result counts the arguments that were used as values. -/
def parseShort (specs : List OptionSpec) (next : List String) :
    List Char → Except ArgumentFault (List Occurrence × Nat)
  | [] => .ok ([], 0)
  | c :: cs =>
    let name := "-" ++ c.toString
    match specs.find? fun s => s.short == some c with
    | none => .error (.unknownOption name [])
    | some s =>
      if s.takesValue then
        if cs.isEmpty then nextValue s.key name next
        else .ok ([⟨s.key, some (String.ofList cs)⟩], 0)
      else do
        let (more, used) ← parseShort specs next cs
        return (⟨s.key, none⟩ :: more, used)

/-- Reads an option with a long name; `value` is what followed an equals sign. -/
def parseLong (s : OptionSpec) (value : Option String) (next : List String) :
    Except ArgumentFault (List Occurrence × Nat) :=
  match s.takesValue, value with
  | true, some v => .ok ([⟨s.key, some v⟩], 0)
  | true, none => nextValue s.key s.long next
  | false, some _ => .error (.takesNoValue s.long)
  | false, none => .ok ([⟨s.key, none⟩], 0)

/-- Reads one argument that starts with a dash. -/
def parseOption (specs : List OptionSpec) (arg : String) (next : List String) :
    Except ArgumentFault (List Occurrence × Nat) :=
  let cs := arg.toList
  let name := String.ofList (cs.takeWhile (· != '='))
  let value := if cs.contains '=' then
    some (String.ofList ((cs.dropWhile (· != '=')).drop 1)) else none
  match specs.find? fun s => s.long == name with
  | some s => parseLong s value next
  | none =>
    if ['-', '-'].isPrefixOf cs then
      .error (.unknownOption name (Similar.closest name (specs.map OptionSpec.long)))
    else parseShort specs next (cs.drop 1)

/-- Whether an argument is written like an option. -/
def isOption (arg : String) : Bool := arg.toList.head? = some '-' && 1 < arg.length

/-- Reads arguments. Unless options may come between other arguments, the first of those ends the
options. -/
def parse (specs : List OptionSpec) (mixed : Bool) (args : List String) :
    Except ArgumentFault Arguments :=
  match args with
  | [] => .ok {}
  | arg :: more =>
    if arg = "--" then .ok { rest := more }
    else if isOption arg then
      match parseOption specs arg more with
      | .error e => .error e
      | .ok (os, used) => do
        let a ← parse specs mixed (more.drop used)
        return { a with options := os ++ a.options }
    else if mixed then do
      let a ← parse specs mixed more
      return { a with rest := arg :: a.rest }
    else .ok { rest := args }
termination_by args.length
decreasing_by all_goals (simp only [List.length_cons, List.length_drop]; omega)

/-- Whether an option was given. -/
def given (a : Arguments) (key : OptionKey) : Bool := a.options.any fun o => o.key == key

/-- The value of an option; of several, the last. -/
def value? (a : Arguments) (key : OptionKey) : Option String :=
  (a.options.reverse.find? fun o => o.key == key).bind Occurrence.value

/-- The options in the order in which they are looked at: those that were given, as they came, and
then the others. -/
def order (a : Arguments) (specs : List OptionSpec) : List OptionSpec :=
  let first := (a.options.map Occurrence.key).eraseDups
  first.filterMap (fun k => specs.find? fun s => s.key == k) ++
    specs.filter fun s => !first.contains s.key

end Arguments

end TypedQuery.Cli
