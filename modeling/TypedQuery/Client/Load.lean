import TypedQuery.Client.Plan
import TypedQuery.Query.Builder
import TypedQuery.Response.Wrapper
import TypedQuery.Text.Unified

/-!
# Running a generated module

`Module.ofPlan` runs the declarations of a generated module and gives the classes that it defines.
The body of a class runs line by line, under Python's rules for class bodies:

* A name is looked up among the attributes that the body has set so far, and outside the class only
  then. So an attribute hides what the lines below it would otherwise find.
* Inside a class, a name that starts with two underscores and does not end in two stands for
  another one, with the name of the class in front (`mangle`).
* A name is known by its unified form (`Text.unify`), wherever it stands in the text of the module.
* Some names that start and end with two underscores matter to the making of a class, or to the
  making of its objects. A field of such a name gets in the way (`checkClass`, `wrapFault?`).
-/

namespace TypedQuery.Client

/-- Why a generated module cannot be run. -/
inductive LoadError where
  | undefined (name : String)
  | noAttribute (className member : String)
  | notCallable (className : String)
  /-- A wrapper is given another number of parameters than it takes. -/
  | parameters (wrapper : String) (actual expected : Nat)
  /-- Annotations cannot be kept in an object of this class. -/
  | noItems (className : String)
  /-- Names of attributes cannot be had from an object of this class. -/
  | notIterable (className : String)
  /-- The name of a class cannot be an object of this class. -/
  | notText (className : String)
  /-- A reference to a class cannot be an object of this class. -/
  | notCell (className : String)
  deriving DecidableEq

/-- The error in words. -/
def LoadError.message : LoadError → String
  | .undefined name => "name '" ++ name ++ "' is not defined"
  | .noAttribute c m => "'" ++ c ++ "' object has no attribute '" ++ m ++ "'"
  | .notCallable c => "'" ++ c ++ "' object is not callable"
  | .parameters wrapper actual expected =>
    let (amount, wanted) := if expected < actual then ("many", "") else ("few", "at least ")
    "Too " ++ amount ++ " arguments for " ++ shownClass wrapper ++ "; actual " ++ toString actual ++
      ", expected " ++ wanted ++ toString expected
  | .noItems c => "'" ++ c ++ "' object does not support item assignment"
  | .notIterable c => "'" ++ c ++ "' object is not iterable"
  | .notText c => "type __qualname__ must be a str, not " ++ c
  | .notCell c => "__classcell__ must be a nonlocal cell, not " ++ shownClass c

/-! ## Names in class bodies -/

/-- Whether a name is private to the class whose body holds it. -/
def isPrivate (name : String) : Bool :=
  let cs := name.toList
  ['_', '_'].isPrefixOf cs && !(['_', '_'].isSuffixOf cs)

/-- The name that `name` stands for in the body of a class. -/
def mangle (className name : String) : String :=
  let name := Text.unify name
  let bare := (Text.unify className).toList.dropWhile (· == '_')
  if isPrivate name && !bare.isEmpty then "_" ++ String.ofList bare ++ name else name

/-- The body of a class as far as it has run: the attributes that are set, with the class of the
object that each holds. -/
structure ClassBody (α : Type) where
  className : String
  attributes : Table α := []

namespace ClassBody

variable {α : Type}

/-- What the body itself has set under a name. -/
def find? (b : ClassBody α) (name : String) : Option α :=
  b.attributes.get? (mangle b.className name)

/-- Sets an attribute. -/
def set (b : ClassBody α) (name : String) (value : α) : ClassBody α :=
  { b with attributes := b.attributes.put (mangle b.className name) value }

end ClassBody

/-! ## Response wrappers -/

/-- Finds a decoder class of the support module, unless an attribute hides that module. -/
def supported (b : ClassBody Accessor) (decoderClass : String) : Except LoadError Unit :=
  match b.find? "_rt" with
  | some a => .error (.noAttribute a.className decoderClass)
  | none => .ok ()

/-- The decoder that an expression gives in a class body. -/
def DecoderExpr.eval (b : ClassBody Accessor) : DecoderExpr → Except LoadError Decoder
  | .nullable d => do supported b "Nullable"; return .nullable (← d.eval b)
  | .list d => do supported b "ListOf"; return .list (← d.eval b)
  | .object w => do supported b "ObjectOf"; return .object w
  | .primitive k => do
    supported b "Scalar"
    match b.find? k.name with
    | some a => return .hidden a.className
    | none => return .primitive k

/-- Runs the line of a field. `classes` are the accessor classes of the module. -/
def runAccessorLine (classes : List String) (b : ClassBody Accessor) (f : FieldPlan) :
    Except LoadError (ClassBody Accessor) :=
  match b.find? f.accessorClass with
  | some a => do
    let _ ← f.decoder.eval b
    .error (.notCallable a.className)
  | none =>
    let name := mangle b.className f.accessorClass
    if classes.contains name then do
      let decoder ← f.decoder.eval b
      let b := b.set f.attr ⟨name, f.name, decoder⟩
      match b.find? "__annotations__" with
      | some a => .error (.noItems a.className)
      | none => return b
    else .error (.undefined name)

/-- Makes the class of a body with the given attributes. -/
def checkClass (attributes : Table Accessor) : Except LoadError Unit :=
  match attributes.get? "__slots__", attributes.get? "__qualname__",
    attributes.get? "__classcell__" with
  | some a, _, _ => .error (.notIterable a.className)
  | none, some a, _ => .error (.notText a.className)
  | none, none, some a => .error (.notCell a.className)
  | none, none, none => .ok ()

/-- Why no wrapper of a class with the given attributes can be made. -/
def wrapFault? (wrapper : String) (attributes : Table Accessor) : Option WrapFault :=
  match attributes.get? "__new__" with
  | some a => some (.creation a.className)
  | none =>
    if (attributes.get? "__init__").isSome then some (.filling wrapper)
    else if (attributes.get? "__setattr__").isSome then some (.storing wrapper)
    else none

/-- Runs the body of a response wrapper. -/
def runResponse (classes : List String) (t : TypePlan) : Except LoadError (Table Accessor) := do
  let b ← t.fields.foldlM (runAccessorLine classes) { className := t.names.response }
  checkClass b.attributes
  return b.attributes

/-! ## Field tokens -/

/-- The token of a field. -/
def FieldPlan.token (t : TypePlan) (f : FieldPlan) : FieldToken :=
  ⟨Text.unify f.tokenClass, t.name, f.name, if f.target.isObject then some f.target.name else none⟩

/-- Runs the line of a field in a namespace. `classes` are the token classes of the module. -/
def runTokenLine (classes : Table FieldToken) (b : ClassBody FieldToken) (f : FieldPlan) :
    Except LoadError (ClassBody FieldToken) :=
  match b.find? f.tokenClass with
  | some t => .error (.notCallable t.className)
  | none =>
    let name := mangle b.className f.tokenClass
    match classes.get? name with
    | some t => .ok (b.set f.attr t)
    | none => .error (.undefined name)

/-- Runs the body of a namespace. -/
def runTokens (classes : Table FieldToken) (t : TypePlan) :
    Except LoadError (Table FieldToken) := do
  let b ← t.fields.foldlM (runTokenLine classes) { className := t.names.tokens }
  return b.attributes

/-! ## Builders -/

/-- How many arguments the builder of a type takes. -/
def TypePlan.arity (t : TypePlan) : SelectArity :=
  match t.fields with
  | [f] => if f.target.isObject then .withSelection else .tokenOnly
  | _ => .either

/-- The builder class of a type. -/
def TypePlan.builderClass (t : TypePlan) : BuilderClass :=
  { name := Text.unify t.names.builder
    type := t.name
    order := t.fields.map FieldPlan.name
    arity := t.arity
    request := if t.isRoot then some (Text.unify t.names.response) else none }

/-- The last of the types whose response wrapper is called `wrapper`, which is the one that keeps
the name. -/
def Plan.typeOfWrapper? (plan : Plan) (wrapper : String) : Option TypePlan :=
  plan.types.reverse.find? fun t => Text.unify t.names.response == wrapper

/-- Runs the head of a builder class: it names the response wrapper with a parameter for each field
of the type, and the wrapper takes as many as its own type has. A field of the wrapper may stand
where the step that takes them is looked for. -/
def runBuilderHead (plan : Plan) (responses : Table (Table Accessor)) (t : TypePlan) :
    Except LoadError Unit :=
  let wrapper := Text.unify t.names.response
  let taker := (responses.get? wrapper).bind (·.get? "__class_getitem__")
  match taker, plan.typeOfWrapper? wrapper with
  | some a, _ => .error (.notCallable a.className)
  | none, none => .ok ()
  | none, some u =>
    if t.params.length = u.params.length then .ok ()
    else .error (.parameters wrapper t.params.length u.params.length)

/-! ## Modules -/

/-- A module that has run: response wrappers, namespaces and builder classes by their names. -/
structure Module where
  plan : Plan
  responses : Table (Table Accessor)
  namespaces : Table (Table FieldToken)
  builders : Table BuilderClass

namespace Module

/-- Runs the declarations of a module. -/
def ofPlan (plan : Plan) : Except LoadError Module := do
  let accessors := plan.types.flatMap fun t => t.fields.map fun f => Text.unify f.accessorClass
  let ran ← plan.types.mapM fun t => do
    return (Text.unify t.names.response, ← runResponse accessors t)
  let responses := Table.ofList ran
  let tokens := Table.ofList
    (plan.types.flatMap fun t => t.fields.map fun f => (Text.unify f.tokenClass, f.token t))
  let builders ← plan.types.mapM fun t => do
    runBuilderHead plan responses t
    return (Text.unify t.names.builder, t.builderClass)
  let namespaces ← plan.types.mapM fun t => do
    return (Text.unify t.names.tokens, ← runTokens tokens t)
  return ⟨plan, responses, .ofList namespaces, .ofList builders⟩

/-- The plan of the type called `type`; of several, the last. -/
def type? (m : Module) (type : String) : Option TypePlan :=
  m.plan.types.reverse.find? fun t => t.name == type

/-- The plan of a field. -/
def field? (m : Module) (type field : String) : Option (TypePlan × FieldPlan) := do
  let t ← m.type? type
  let f ← t.fields.find? fun f => f.name == field
  return (t, f)

/-- The scope in which the module's decoders look up response wrappers. -/
def scope (m : Module) : WrapperScope :=
  { module := generatedModule
    wrappers := m.responses.names
    faults := m.responses.filterMap fun (wrapper, attributes) =>
      (wrapFault? wrapper attributes).map fun fault => (wrapper, fault) }

/-- Reads a field of a response. -/
def read (m : Module) (r : Response) (a : Accessor) : Except DecodeError Value :=
  let lost := (m.responses.get? r.wrapper).bind (·.get? "__module__")
  r.read { m.scope with lost := lost.map fun l => l.render.toOption.getD "" } a

end Module

end TypedQuery.Client
