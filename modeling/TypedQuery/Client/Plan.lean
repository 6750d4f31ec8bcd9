import TypedQuery.Client.Source
import TypedQuery.Schema.Model

/-!
# The plan of a generated module

Before any text is written, every name of the generated module is chosen and every field's types
are worked out. For an object type `T` the module declares a namespace of field tokens, a selection
builder and a response wrapper, and for each field of `T` a token class and an accessor class.
Builder and wrapper have one type parameter per field, which a `Marker` fills: the field is not
selected, selected, or selected with a sub-selection.

* `Plan.ofSchema`: the plan, or why the schema cannot be planned.
* `ValueType.ofRef`, `DecoderExpr.ofRef`: what reading a field gives, and what decodes it.
-/

namespace TypedQuery

/-- The kinds of scalar values that a client sees. -/
inductive Primitive where
  | text | int | float | bool
  deriving DecidableEq

/-- The name of the kind in the generated module. -/
def Primitive.name : Primitive → String
  | .text => "str"
  | .int => "int"
  | .float => "float"
  | .bool => "bool"

/-- The kind of a scalar's values. -/
def Scalar.primitive : Scalar → Primitive
  | .string => .text
  | .int => .int
  | .float => .float
  | .boolean => .bool
  | .id => .text

namespace Client

/-! ## Types and decoders of fields -/

/-- The type of a value in the generated module. -/
inductive ValueType where
  | optional (of : ValueType)
  | list (of : ValueType)
  | primitive (kind : Primitive)
  | bound (name : String)
  deriving DecidableEq

namespace ValueType

/-- The type as the module writes it. -/
def items : ValueType → List Item
  | .optional v => .code "_t.Optional[" :: v.items ++ [.code "]"]
  | .list v => .code "_t.List[" :: v.items ++ [.code "]"]
  | .primitive k => [.code k.name]
  | .bound n => [.name n]

/-- A value type that is optional if `null` holds. -/
def optionalIf (null : Bool) (v : ValueType) : ValueType := if null then .optional v else v

/-- The value type of a reference at a position that is null or never null. -/
def ofRefAt (leaf : ValueType) (null : Bool) : TypeRef → ValueType
  | .nonNull r => ofRefAt leaf false r
  | .list r => optionalIf null (.list (ofRefAt leaf true r))
  | .named _ => optionalIf null leaf

/-- The value type of a reference whose innermost type has values of type `leaf`. A position is
optional unless the reference says that it is never null. -/
def ofRef (leaf : ValueType) (r : TypeRef) : ValueType := ofRefAt leaf true r

end ValueType

/-- The expression of a decoder in the generated module. -/
inductive DecoderExpr where
  | nullable (of : DecoderExpr)
  | list (of : DecoderExpr)
  | primitive (kind : Primitive)
  | object (response : String)
  deriving DecidableEq

namespace DecoderExpr

/-- The expression as the module writes it. -/
def items : DecoderExpr → List Item
  | .nullable d => .code "_rt.Nullable(" :: d.items ++ [.code ")"]
  | .list d => .code "_rt.ListOf(" :: d.items ++ [.code ")"]
  | .primitive k => [.code "_rt.Scalar(", .code k.name, .code ")"]
  | .object c => [.code "_rt.ObjectOf(", .quoted c, .code ")"]

/-- A decoder that lets null pass if `null` holds. -/
def nullableIf (null : Bool) (d : DecoderExpr) : DecoderExpr := if null then .nullable d else d

/-- The decoder of a reference at a position that is null or never null. -/
def ofRefAt (leaf : DecoderExpr) (null : Bool) : TypeRef → DecoderExpr
  | .nonNull r => ofRefAt leaf false r
  | .list r => nullableIf null (.list (ofRefAt leaf true r))
  | .named _ => nullableIf null leaf

/-- The decoder of a reference whose innermost type is decoded by `leaf`. -/
def ofRef (leaf : DecoderExpr) (r : TypeRef) : DecoderExpr := ofRefAt leaf true r

/-- How deep brackets nest in the expression. -/
def depth : DecoderExpr → Nat
  | .nullable d => d.depth + 1
  | .list d => d.depth + 1
  | .primitive _ => 1
  | .object _ => 1

end DecoderExpr

/-! ## Markers -/

/-- An argument for the type parameter of a field. -/
inductive Marker where
  /-- Any marker at all. -/
  | any
  /-- The field is not selected. -/
  | unselected
  /-- A scalar field is selected. -/
  | selected
  /-- An object field is selected, with a sub-selection whose answers have the type `bound`. -/
  | nested (bound : String)
  /-- The type parameter itself. -/
  | param (name : String)
  deriving DecidableEq

namespace Marker

/-- The marker as the module writes it. -/
def items : Marker → List Item
  | .any => [.code "_t.Any"]
  | .unselected => [.code "_rt.Unselected"]
  | .selected => [.code "_rt.Selected"]
  | .nested bound => [.code "_rt.Nested[", .name bound, .code "]"]
  | .param name => [.name name]

/-- Markers as an argument list. -/
def list (ms : List Marker) : List Item := Source.commas (ms.map items)

end Marker

/-! ## Plans -/

/-- The names that the module gives to the parts of an object type. -/
structure TypeNames where
  /-- The namespace of the field tokens. -/
  tokens : String
  response : String
  builder : String
  /-- The type variable for answers of this type. -/
  bound : String
  deriving DecidableEq

/-- What a field comes down to inside lists: a scalar, or an object type of the schema. -/
inductive Target where
  | scalar (kind : Scalar)
  | object (type : String) (names : TypeNames)
  deriving DecidableEq

namespace Target

/-- The name of the type. -/
def name : Target → String
  | .scalar s => s.name
  | .object t _ => t

/-- Whether the target is an object type. -/
def isObject : Target → Bool
  | .scalar _ => false
  | .object _ _ => true

/-- The marker of a selected field. -/
def marker : Target → Marker
  | .scalar _ => .selected
  | .object _ names => .nested names.bound

/-- The type of its values. -/
def valueType : Target → ValueType
  | .scalar s => .primitive s.primitive
  | .object _ names => .bound names.bound

/-- The decoder of its values. -/
def decoder : Target → DecoderExpr
  | .scalar s => .primitive s.primitive
  | .object _ names => .object names.response

/-- The type of the sub-selection that the field takes; nothing for a scalar. -/
def subSelection : Target → List Item
  | .scalar _ => []
  | .object _ names => [.code "_rt.SelectionBuilder[", .name names.bound, .code "]"]

end Target

/-- All that the module says about a field. -/
structure FieldPlan where
  /-- The name in queries and answers. -/
  name : String
  /-- The attribute of the namespace and of the response wrapper. -/
  attr : String
  index : Nat
  target : Target
  tokenClass : String
  accessorClass : String
  /-- The markers of a response in which the field may be read. -/
  owner : List Marker
  /-- The markers of a builder after the field was selected. -/
  result : List Marker
  type : TypeRef
  description : String
  deriving DecidableEq

namespace FieldPlan

/-- The type of the field's values. -/
def valueType (f : FieldPlan) : ValueType := .ofRef f.target.valueType f.type

/-- The expression of the field's decoder. -/
def decoder (f : FieldPlan) : DecoderExpr := .ofRef f.target.decoder f.type

end FieldPlan

/-- All that the module says about an object type. -/
structure TypePlan where
  name : String
  names : TypeNames
  /-- The type parameters, one per field. -/
  params : List String
  fields : List FieldPlan
  isRoot : Bool
  description : String
  deriving DecidableEq

namespace TypePlan

/-- The type parameters as an argument list. -/
def paramList (t : TypePlan) : List Item := Marker.list (t.params.map .param)

/-- The arguments of a builder without a selected field. -/
def empty (t : TypePlan) : List Marker := t.params.map fun _ => .unselected

/-- Arguments that leave everything open. -/
def any (t : TypePlan) : List Marker := t.params.map fun _ => .any

/-- The names of the fields as a tuple. -/
def fieldOrder (t : TypePlan) : List Item :=
  let names := Source.commas (t.fields.map fun f => [.quoted f.name])
  .code "(" :: names ++ [.code (if t.fields.length = 1 then ",)" else ")")]

/-- The response wrapper in which `f` may be read. -/
def ownerType (t : TypePlan) (f : FieldPlan) : List Item :=
  .name t.names.response :: .code "[" :: Marker.list f.owner ++ [.code "]"]

/-- The builder after `f` was selected. -/
def resultType (t : TypePlan) (f : FieldPlan) : List Item :=
  .name t.names.builder :: .code "[" :: Marker.list f.result ++ [.code "]"]

end TypePlan

/-- The plan of a module: its type parameters and its types. -/
structure Plan where
  params : List String
  types : List TypePlan
  deriving DecidableEq

/-- Why a schema cannot be planned. Only a schema that was not read from text can be refused. -/
inductive PlanError where
  | missingRoot (name : String)
  | noFields (type : String)
  | unresolved (type field target : String)
  /-- A field refers to a key of the schema that is not the name of any type. -/
  | unnamed (target : String)
  deriving DecidableEq

namespace Plan

/-! ## Checks -/

/-- The first field of `t` that refers to nothing. -/
def unresolved? (s : Schema) (t : ObjectType) : Option PlanError :=
  t.fields.findSome? fun f =>
    if f.type.scalar?.isNone && (s.find? f.type.target).isNone then
      some (.unresolved t.name f.name f.type.target)
    else none

/-- What is wrong with an object type. -/
def faultOf? (s : Schema) (t : ObjectType) : Option PlanError :=
  if t.fields.isEmpty then some (.noFields t.name) else unresolved? s t

/-- What is wrong with a schema. -/
def fault? (s : Schema) : Option PlanError :=
  if s.root?.isNone then some (.missingRoot s.queryType) else s.objects.findSome? (faultOf? s)

/-! ## Names -/

/-- The names that the module itself relies on. -/
def reserved : List String := ["_t", "_rt", "annotations", "str", "int", "float", "bool"]

/-- The names of the module's types, and its type parameters. -/
structure NamePlan where
  types : Table TypeNames
  params : List String
  taken : List String
  deriving DecidableEq

/-- Chooses namespaces first, then responses, builders and bounds, then one type parameter for each
field of the largest type. -/
def chooseNames (types : List ObjectType) : NamePlan :=
  let names := types.map ObjectType.name
  let (namespaces, taken) := Names.chooseAll reserved names
  let (responses, taken) := Names.chooseAll taken (names.map (· ++ "Response"))
  let (builders, taken) := Names.chooseAll taken (names.map (· ++ "Selection"))
  let (bounds, taken) := Names.chooseAll taken (names.map fun n => "_" ++ n ++ "R")
  let most := (types.map fun t => t.fields.length).foldl max 0
  let (params, taken) := Names.chooseAll taken ((List.range most).map fun i => "_F" ++ toString i)
  let rows := namespaces.zip (responses.zip (builders.zip bounds))
  ⟨.ofList (names.zip (rows.map fun (n, r, b, v) => ⟨n, r, b, v⟩)), params, taken⟩

/-- Attributes with this beginning belong to the response wrapper itself. -/
def reservedAttribute : String := "_gql_"

/-- The attribute that a field asks for. -/
def wantedAttribute (name : String) : String :=
  if reservedAttribute.toList.isPrefixOf name.toList then name ++ "_" else name

/-- What a field of type `ref` comes down to. -/
def target? (names : Table TypeNames) (ref : TypeRef) : Except PlanError Target :=
  match ref.scalar? with
  | some s => .ok (.scalar s)
  | none =>
    match names.get? ref.target with
    | some n => .ok (.object ref.target n)
    | none => .error (.unnamed ref.target)

/-! ## Fields and types -/

/-- The class names that are taken, and the attributes of the type at hand. -/
structure Chosen where
  classes : List String
  attributes : List String

/-- Plans one field of the type called `type`. -/
def planField (names : Table TypeNames) (type : String) (params : List String) (chosen : Chosen)
    (index : Nat) (f : Field) : Except PlanError (FieldPlan × Chosen) := do
  let attr := Names.choose chosen.attributes (wantedAttribute f.name)
  let target ← target? names f.type
  let stem := "_" ++ type ++ pascalCase f.name
  let token := Names.choose chosen.classes (stem ++ "Field")
  let accessor := Names.choose (token :: chosen.classes) (stem ++ "Accessor")
  return ({ name := f.name, attr, index, target, tokenClass := token, accessorClass := accessor,
            owner := (params.map fun _ => Marker.any).set index target.marker,
            result := (params.map Marker.param).set index target.marker,
            type := f.type, description := f.description.getD "" },
          ⟨accessor :: token :: chosen.classes, attr :: chosen.attributes⟩)

/-- Plans fields in declaration order, counting on from `index`. -/
def planFields (names : Table TypeNames) (type : String) (params : List String) (chosen : Chosen)
    (index : Nat) : List Field → Except PlanError (List FieldPlan × Chosen)
  | [] => .ok ([], chosen)
  | f :: fs => do
    let (plan, chosen) ← planField names type params chosen index f
    let (plans, chosen) ← planFields names type params chosen (index + 1) fs
    return (plan :: plans, chosen)

/-- Plans one object type. -/
def planType (s : Schema) (names : NamePlan) (classes : List String) (t : ObjectType) :
    Except PlanError (TypePlan × List String) := do
  let params := names.params.take t.fields.length
  let (fields, chosen) ← planFields names.types t.name params ⟨classes, []⟩ 0 t.fields
  match names.types.get? t.name with
  | none => .error (.unnamed t.name)
  | some own =>
    return ({ name := t.name, names := own, params, fields, isRoot := t.name == s.queryType,
              description := t.description.getD "" }, chosen.classes)

/-- Plans object types in declaration order. -/
def planTypes (s : Schema) (names : NamePlan) (classes : List String) :
    List ObjectType → Except PlanError (List TypePlan)
  | [] => .ok []
  | t :: ts => do
    let (plan, classes) ← planType s names classes t
    let plans ← planTypes s names classes ts
    return plan :: plans

/-- The plan of the module for a schema. -/
def ofSchema (s : Schema) : Except PlanError Plan :=
  match fault? s with
  | some e => .error e
  | none => do
    let names := chooseNames s.objects
    let types ← planTypes s names names.taken s.objects
    return ⟨names.params, types⟩

end Plan

end Client

end TypedQuery
