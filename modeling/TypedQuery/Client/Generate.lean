import TypedQuery.Client.Layout
import TypedQuery.Client.Template
import TypedQuery.Script.Recognizer

/-!
# Generating a client

`generate` plans the module for a schema, lays it out and checks that the result is Python.
-/

namespace TypedQuery.Client

/-- What a user can choose about the module. -/
structure Options where
  /-- The module that the generated one imports for its support code. -/
  runtime : String := "gql_typed.runtime"
  /-- A layout of the user's own. -/
  template : Option Template := none

/-- Why no module is generated. -/
inductive GenerateError where
  | plan (why : PlanError)
  /-- No planned type is the query root. -/
  | rootless
  /-- A template of the user's own cannot be filled in. -/
  | template (message : String)
  /-- The text is no Python module. -/
  | invalid
  deriving DecidableEq

/-- The plan error in words. -/
def PlanError.message : PlanError → String
  | .missingRoot name => "Root query type " ++ Text.quote name ++ " is not in the model"
  | .noFields type => "Type " ++ Text.quote type ++ " has no fields"
  | .unresolved type field target =>
    type ++ "." ++ field ++ " refers to unresolved type " ++ Text.quote target
  | .unnamed target => Text.quote target

/-- The error in words. -/
def GenerateError.message : GenerateError → String
  | .plan e => e.message
  | .rootless => ""
  | .template message => message
  | .invalid => "Generated invalid Python"

/-- The error of a template. -/
def GenerateError.ofTemplate : TemplateFault → GenerateError
  | .broken message => .template message
  | .invalid => .invalid

/-- The import clause for a module, which is valid if it completes an import statement. -/
def importClause (runtime : String) : Item :=
  .clause runtime (Script.isValid ("import " ++ runtime ++ " as _rt\n"))

/-- The text of the module for a plan. -/
def render (o : Options) (plan : Plan) (root : TypePlan) : Except GenerateError String :=
  match o.template with
  | some t => (t plan root o.runtime).mapError .ofTemplate
  | none =>
    let lines := Layout.lines plan root (importClause o.runtime)
    if Source.isValid lines then .ok (Source.text lines) else .error .invalid

/-- The query root of a plan. -/
def Plan.root? (p : Plan) : Option TypePlan := p.types.find? TypePlan.isRoot

/-- The plan of the module for a schema, with its query root. -/
def prepare (s : Schema) : Except GenerateError (Plan × TypePlan) :=
  match Plan.ofSchema s with
  | .error e => .error (.plan e)
  | .ok plan =>
    match plan.root? with
    | none => .error .rootless
    | some root => .ok (plan, root)

/-- Generates the client module for a schema. -/
def generate (s : Schema) (o : Options) : Except GenerateError String :=
  match prepare s with
  | .error e => .error e
  | .ok (plan, root) => render o plan root

end TypedQuery.Client
