import TypedQuery.Client.ClassTrait

/-!
# Attributes of things that a caller holds

A caller finds the classes of a module by the names that the plan gives them, and what a class holds
for a field by the name of the field's attribute. Neither is there if the name has another unified
form, since the module knows it by that one.

Whoever asks anything but a builder to select a field, or sends anything but a request, learns so
when the attribute that should do it is looked up. Only a response may have such an attribute, where
one of its fields has that name; but what a field holds cannot be called.

* `Module.token`, `Module.accessor`, `Module.empty`, `Module.wrapper`, `Module.readField`: what a
  module holds for a type or a field.
* `Module.lookup`: looks up an attribute.
* `Module.callFault`, `Module.methodFault`, `Module.sendFault`: how a use of attributes ends.
* `Module.render`, `Module.compare`, `Module.hashEqual`: shows, compares and hashes, which look up
  attributes too, so that a field of such a name gets in the way.
-/

namespace TypedQuery.Client

/-- Why an attribute cannot be used. -/
inductive AttributeError where
  | absent (className member : String)
  | absentInClass (name member : String)
  | absentInModule (member : String)
  /-- The attribute is a field, which cannot be read. -/
  | unreadable (cause : DecodeError)
  | notCallable (className : String)
  | unhashable (className : String)

/-- The error in words. -/
def AttributeError.message : AttributeError → String
  | .absent c a => "'" ++ c ++ "' object has no attribute '" ++ a ++ "'"
  | .absentInClass c a => "type object '" ++ c ++ "' has no attribute '" ++ a ++ "'"
  | .absentInModule a => "module '" ++ generatedModule ++ "' has no attribute '" ++ a ++ "'"
  | .unreadable e => e.message
  | .notCallable c => "'" ++ c ++ "' object is not callable"
  | .unhashable c => "unhashable type: '" ++ c ++ "'"

/-- The class of a JSON value. -/
def classOfJson : Json → String
  | .null => "NoneType"
  | .bool _ => "bool"
  | .int _ => "int"
  | .float _ => "float"
  | .str _ => "str"
  | .wide _ => "str"
  | .list _ => "list"
  | .object _ => "dict"

/-- The class of something that a caller holds. -/
def classOf : Operand → String
  | .json v => classOfJson v
  | .value (.list _) => "list"
  | .value (.response r) => r.wrapper
  | .value v => classOfJson (v.leaf?.getD .null)
  | .token t => t.className
  | .accessor a => a.className
  | .builder b => b.cls.name
  | .request _ => "Request"
  | .classObject _ => "type"
  | .other c _ => c

/-- What the lookup of an attribute that `x` lacks says. -/
def absentFrom (x : Operand) (name : String) : AttributeError :=
  match x with
  | .classObject c =>
    .absentInClass (String.ofList (c.toList.reverse.takeWhile (· != '.')).reverse) name
  | x => .absent (classOf x) name

namespace Module

/-! ## Types and fields -/

/-- What a module has under a name. -/
def member {α : Type} (table : Table α) (name : String) : Except AttributeError α :=
  match table.get? name with
  | some x => .ok x
  | none => .error (.absentInModule name)

/-- What a class holds under a name. -/
def classMember {α : Type} (kind : ClassKind) (operand : α → Operand) (className : String)
    (attributes : Table α) (name : String) : Except AttributeError Operand :=
  match kind.trait? className name, attributes.get? name with
  | some x, _ => .ok x
  | none, some x => .ok (operand x)
  | none, none => .error (.absentInClass className name)

/-- What the namespace of a type holds for a field. -/
def token (m : Module) (t : TypePlan) (f : FieldPlan) : Except AttributeError Operand := do
  classMember .tokens .token t.names.tokens (← member m.namespaces t.names.tokens) f.attr

/-- What the response wrapper of a type holds for a field. -/
def accessor (m : Module) (t : TypePlan) (f : FieldPlan) : Except AttributeError Operand := do
  classMember .accessors .accessor t.names.response (← member m.responses t.names.response) f.attr

/-- The builder of a type without a selected field. -/
def empty (m : Module) (t : TypePlan) : Except AttributeError Builder :=
  (member m.builders t.names.builder).map .empty

/-- The response wrapper of a type. -/
def wrapper (m : Module) (t : TypePlan) : Except AttributeError String :=
  (member m.responses t.names.response).map fun _ => t.names.response

/-- Reads a field of a response. -/
def readField (m : Module) (r : Response) (f : FieldPlan) : Except AttributeError Value :=
  match (m.responses.get? r.wrapper).bind (·.get? f.attr) with
  | none => .error (.absent r.wrapper f.attr)
  | some a => (m.read r a).mapError .unreadable

/-! ## Things that a caller holds -/

/-- Looks up an attribute that only a field can provide. -/
def lookup (m : Module) (x : Operand) (name : String) : Except AttributeError Operand :=
  match x with
  | .value (.response r) =>
    match (m.responses.get? r.wrapper).bind (·.get? name) with
    | none => .error (.absent r.wrapper name)
    | some a =>
      match m.read r a with
      | .ok v => .ok (.value v)
      | .error e => .error (.unreadable e)
  | x => .error (absentFrom x name)

/-- How a call of the attribute `name` ends. -/
def callFault (m : Module) (x : Operand) (name : String) : AttributeError :=
  match m.lookup x name with
  | .ok v => .notCallable (classOf v)
  | .error e => e

/-- How a call of `method` on the attribute `name` ends. -/
def methodFault (m : Module) (x : Operand) (name method : String) : AttributeError :=
  match m.lookup x name with
  | .ok v => m.callFault v method
  | .error e => e

/-- How sending `x` ends, if it is no request: the name of the operation is looked up first, then
the type of the selection, then the document and the response wrapper. -/
def sendFault (m : Module) (x : Operand) : AttributeError :=
  let prepared : Except AttributeError Unit := do
    let _ ← m.lookup x "operation_name"
    let selection ← m.lookup x "selection"
    let _ ← m.lookup selection "type_name"
    let _ ← m.lookup x "document"
  match prepared with
  | .ok _ => m.callFault x "response_type"
  | .error e => e

/-! ## Fields that get in the way -/

/-- What a field of a response holds that stands where `method` is looked for. There is no such
field if it cannot be read. -/
def standIn? (m : Module) (x : Operand) (method : String) : Option (Option Operand) :=
  match x with
  | .value (.response r) =>
    ((m.responses.get? r.wrapper).bind (·.get? method)).map fun a =>
      (m.read r a).toOption.map .value
  | _ => none

/-- A response as messages show it. -/
def render (m : Module) (r : Response) : Except AttributeError String :=
  match m.standIn? (.value (.response r)) "__repr__" with
  | some (some v) => .error (.notCallable (classOf v))
  | _ => .ok r.render

/-- What `method` of `x` says of `y`: nothing if a field that cannot be read stands for it.
`plain` is for an `x` without such a field. -/
def ask (m : Module) (x : Operand) (method : String) (plain : Except AttributeError (Option Bool)) :
    Except AttributeError (Option Bool) :=
  match m.standIn? x method with
  | some (some v) => .error (.notCallable (classOf v))
  | some none => .ok none
  | none => plain

/-- Whether the comparison of `x` with `y` is settled without asking `y`. -/
def settles (x y : Operand) : Bool :=
  match x, y with
  | .token _, _ => true
  | .value (.response _), .value (.response _) => true
  | _, _ => false

/-- Asks `x` and, if that settles nothing, `y`. -/
def askBoth (m : Module) (x y : Operand) (method : String)
    (plain : Operand → Operand → Except AttributeError (Option Bool)) :
    Except AttributeError (Option Bool) := do
  match ← m.ask x method (plain x y) with
  | some b => return some b
  | none => m.ask y method (plain y x)

/-- Whether two operands are equal, as far as one of them says so. -/
def equal? (m : Module) (x y : Operand) : Except AttributeError (Option Bool) :=
  m.askBoth x y "__eq__" fun a b =>
    .ok (if settles a b || (m.standIn? b "__eq__").isNone then some (a.equal b) else none)

/-- Whether two operands are equal, and whether they differ. Two of which neither says so are
different. -/
def compare (m : Module) (x y : Operand) : Except AttributeError (Bool × Bool) := do
  let eq := (← m.equal? x y).getD false
  let ne ← m.askBoth x y "__ne__" fun a b =>
    if settles a b || (m.standIn? b "__ne__").isNone then
      (m.equal? a b).map fun answer => answer.map (!·)
    else .ok none
  return (eq, ne.getD true)

/-- Whether the hashes of two operands are equal. -/
def hashEqual (m : Module) (x y : Operand) : Except AttributeError Bool := do
  let key (x : Operand) : Except AttributeError Operand.HashKey :=
    match m.standIn? x "__hash__", x.hashKey with
    | some (some (.value .null)), .error c => .error (.unhashable c)
    | some (some v), _ => .error (.notCallable (classOf v))
    | _, .error c => .error (.unhashable c)
    | _, .ok k => .ok k
  let k ← key x
  return k == (← key y)

end Module

end TypedQuery.Client
