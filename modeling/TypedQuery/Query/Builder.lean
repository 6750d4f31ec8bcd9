import TypedQuery.Query.Request
import TypedQuery.Response.Wrapper

/-!
# Selection builders

A builder collects the selection on one type. It never changes: selecting a field gives a new
builder.

* `Builder.extend`: adds a field, after checking that the field and its sub-selection fit the
  schema. The fields stay in schema order, and a field that is selected again takes its new
  sub-selection.
* `Builder.select`: the same, with as many arguments as the builder of that type takes.
-/

namespace TypedQuery

/-- The token of a field, by which it is selected. -/
structure FieldToken where
  /-- The token's class in the generated module, which no other field shares. -/
  className : String
  type : String
  field : String
  /-- The type of the sub-selection that an object field needs. -/
  target : Option String := none
  deriving DecidableEq

namespace FieldToken

/-- The field with its type. -/
def label (t : FieldToken) : String := t.type ++ "." ++ t.field

/-- A token as messages show it. -/
def render (t : FieldToken) : String := "<field " ++ t.label ++ ">"

end FieldToken

/-- How many arguments a builder takes to select a field. -/
inductive SelectArity where
  /-- A token, and a sub-selection for object fields: the type has several fields. -/
  | either
  /-- A token only: the one field is a scalar. -/
  | tokenOnly
  /-- A token and a sub-selection: the one field is an object. -/
  | withSelection
  deriving DecidableEq

/-- What the builders of a type have in common. -/
structure BuilderClass where
  name : String
  type : String
  /-- The names of the fields, in schema order. -/
  order : List String
  arity : SelectArity
  /-- The response wrapper of requests; only the query root has requests. -/
  request : Option String := none
  deriving DecidableEq

/-- A builder: its class and the fields that are selected. -/
structure Builder where
  cls : BuilderClass
  fields : Selection := .nil
  deriving DecidableEq

/-- An argument of `select`. Whatever is none of the things that a generated module defines is known
only by how messages show it. -/
inductive SelectArgument where
  | none
  | token (value : FieldToken)
  | builder (value : Builder)
  | accessor (value : Accessor)
  | other (shown : String)
  deriving DecidableEq

/-- Why a field cannot be selected. -/
inductive SelectError where
  | notAField (shown type : String)
  | needsSelection (token : FieldToken)
  | notABuilder (shown : String)
  | wrongType (token : FieldToken) (target found : String)
  | emptySelection (token : FieldToken)
  | takesNoSelection (token : FieldToken)
  | tooManyArguments (builder : String)
  | missingArgument (builder : String)
  | emptyRequest (type : String)
  | noRequests (builder : String)
  /-- The message cannot show the argument, since an accessor of that class hides part of it. -/
  | unshowable (accessor : String)
  deriving DecidableEq

namespace SelectError

/-- The error in words. -/
def message : SelectError → String
  | .notAField shown type => shown ++ " is not a field of " ++ type
  | .needsSelection t => t.label ++ " is an object field and needs a sub-selection"
  | .notABuilder shown => "expected a selection builder, got " ++ shown
  | .wrongType t target found =>
    t.label ++ " expects a selection on " ++ target ++ ", got one on " ++ found
  | .emptySelection t => "sub-selection for " ++ t.label ++ " is empty"
  | .takesNoSelection t => t.label ++ " is a scalar field and takes no sub-selection"
  | .tooManyArguments b => b ++ ".select() takes 2 positional arguments but 3 were given"
  | .missingArgument b => b ++ ".select() missing 1 required positional argument: 'selection'"
  | .emptyRequest type => "cannot request an empty selection on " ++ type
  | .noRequests b => "'" ++ b ++ "' object has no attribute 'request'"
  | .unshowable accessor => "'" ++ accessor ++ "' object has no attribute '__name__'"

end SelectError

namespace Builder

/-- The builder without a selected field. -/
def empty (cls : BuilderClass) : Builder := { cls }

/-- What has been selected. -/
def selectionSet (b : Builder) : SelectionSet := ⟨b.cls.type, b.fields⟩

/-- A builder as messages show it. -/
def render (b : Builder) : String := b.cls.name ++ "(" ++ ", ".intercalate b.fields.names ++ ")"

/-- An argument as messages show it; see `Decoder.render`. -/
def shown : SelectArgument → Except String String
  | .none => .ok "None"
  | .token t => .ok t.render
  | .builder b => .ok b.render
  | .accessor a => a.render
  | .other s => .ok s

/-- The error about an argument, which its message shows. -/
def refuse (error : String → SelectError) (argument : SelectArgument) : SelectError :=
  match shown argument with
  | .ok s => error s
  | .error accessor => .unshowable accessor

/-- The fields of a list by name; of several fields of one name, the last. -/
def byName (fs : List SelectedField) : Table SelectedField :=
  fs.foldl (fun t f => t.put f.name f) []

/-- Puts a field among the selected ones and sets them in the given order. -/
def insert (order : List String) (fields : Selection) (f : SelectedField) : Selection :=
  let known := (byName fields.toList).put f.name f
  .ofList (order.filterMap known.get?)

/-- The sub-selection of an object field, if it fits. -/
def subSelection (t : FieldToken) (target : String) :
    SelectArgument → Except SelectError SelectionSet
  | .none => .error (.needsSelection t)
  | .builder b =>
    let s := b.selectionSet
    if s.type ≠ target then .error (.wrongType t target s.type)
    else if s.fields.isEmpty then .error (.emptySelection t)
    else .ok s
  | a => .error (refuse .notABuilder a)

/-- Selects the field of a token. -/
def extendToken (b : Builder) (t : FieldToken) (sub : SelectArgument) :
    Except SelectError Builder :=
  match t.target with
  | some target =>
    match subSelection t target sub with
    | .error e => .error e
    | .ok s => .ok { b with fields := insert b.cls.order b.fields ⟨t.field, some s⟩ }
  | none =>
    match sub with
    | .none => .ok { b with fields := insert b.cls.order b.fields ⟨t.field, none⟩ }
    | _ => .error (.takesNoSelection t)

/-- Selects a field, which must be one of the builder's type. -/
def extend (b : Builder) (token sub : SelectArgument) : Except SelectError Builder :=
  match token with
  | .token t =>
    if t.type = b.cls.type then extendToken b t sub
    else .error (refuse (.notAField · b.cls.type) token)
  | _ => .error (refuse (.notAField · b.cls.type) token)

/-- Selects a field; `sub` is there if a second argument was given. -/
def select (b : Builder) (token : SelectArgument) (sub : Option SelectArgument) :
    Except SelectError Builder :=
  match b.cls.arity, sub with
  | .either, sub => b.extend token (sub.getD .none)
  | .tokenOnly, none => b.extend token .none
  | .tokenOnly, some _ => .error (.tooManyArguments b.cls.name)
  | .withSelection, some s => b.extend token s
  | .withSelection, none => .error (.missingArgument b.cls.name)

/-- The request for what has been selected. -/
def request (b : Builder) (operationName : Option String) : Except SelectError Request :=
  match b.cls.request with
  | none => .error (.noRequests b.cls.name)
  | some response =>
    match Request.ofSelection? b.selectionSet response operationName with
    | some r => .ok r
    | none => .error (.emptyRequest b.cls.type)

end Builder

end TypedQuery
