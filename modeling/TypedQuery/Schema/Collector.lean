import TypedQuery.Schema.Definition

/-!
# Collecting sources into a schema

A `Collector` takes any number of sources and builds the schema that they make together. Names are
resolved only when the schema is built, so types may refer to each other across sources and before
they are declared.

* `Collector.addSource`: the definitions of a source, one after the other. If the source has an
  error, the definitions before it stay.
* `Collector.build`: the schema of everything collected so far. The query root is the declared
  one, else the type `Query`, else the first type.
-/

namespace TypedQuery

/-- What a run over sources has collected. -/
structure Collector where
  types : List ObjectType := []
  root : Option RootDecl := none
  /-- The last source that was read to its end. -/
  lastSource : String := "<schema>"
  /-- Where that source ends. -/
  lastEnd : Option Location := none
  deriving DecidableEq

namespace Collector

/-- The collected type called `name`. -/
def find? (c : Collector) (name : String) : Option ObjectType :=
  c.types.find? (fun t => t.name == name)

/-- Adds a type. Its name must be free, also among the scalars. -/
def addType (c : Collector) (t : ObjectType) : Except SchemaError Collector :=
  if (Scalar.ofName? t.name).isSome then .error ⟨.scalarName t.name, t.location⟩
  else
    match c.find? t.name with
    | some first => .error ⟨.typeTwice t.name first.location, t.location⟩
    | none => .ok { c with types := c.types ++ [t] }

/-- Sets the query root, which only one source may declare. -/
def addRoot (c : Collector) (r : RootDecl) : Except SchemaError Collector :=
  match c.root with
  | some first => .error ⟨.schemaTwice first.declaredAt, some r.declaredAt⟩
  | none => .ok { c with root := some r }

/-- Adds one definition. -/
def add (c : Collector) : Definition → Except SchemaError Collector
  | .object t => c.addType t
  | .root r => c.addRoot r

/-- Adds definitions up to the first that is refused. -/
def addAll (c : Collector) : List Definition → Collector × Option SchemaError
  | [] => (c, none)
  | d :: ds =>
    match c.add d with
    | .error e => (c, some e)
    | .ok c => c.addAll ds

/-- Reads a source and adds its definitions. The source counts as read only without an error. -/
def addSource (c : Collector) (source text : String) : Collector × Option SchemaError :=
  let (ds, ending) := Document.ofText source text
  match c.addAll ds with
  | (c, some e) => (c, some e)
  | (c, none) =>
    match ending with
    | .failed e => (c, some e)
    | .complete p =>
      ({ c with lastSource := source, lastEnd := some (Document.locate source p) }, none)

/-- The first field of `t` whose type is neither a scalar nor collected. -/
def unresolved? (c : Collector) (t : ObjectType) : Option SchemaError :=
  t.fields.findSome? fun f =>
    if f.type.scalar?.isNone && (c.find? f.type.target).isNone then
      some ⟨.unknownType t.name f.name f.type.target, f.location⟩
    else none

/-- The type called `Query` is the root unless a source says otherwise. -/
def defaultRoot : String := "Query"

/-- The name of the query root; `first` is the first type. -/
def rootName (c : Collector) (first : ObjectType) : Except SchemaError String :=
  match c.root with
  | some r =>
    if (c.find? r.typeName).isSome then .ok r.typeName
    else .error ⟨.unknownRoot r.typeName, some r.location⟩
  | none => .ok (if (c.find? defaultRoot).isSome then defaultRoot else first.name)

/-- Builds the schema of the collected types. -/
def build (c : Collector) : Except SchemaError Schema :=
  match c.types with
  | [] => .error ⟨.noTypes, some (c.lastEnd.getD ⟨c.lastSource, 1, 1⟩)⟩
  | first :: _ =>
    match c.types.findSome? c.unresolved? with
    | some e => .error e
    | none => do
      let root ← c.rootName first
      return ⟨c.types.map fun t => (t.name, t), root⟩

end Collector

/-- The schema of one source. -/
def Schema.ofText (text : String) (source : String) : Except SchemaError Schema :=
  match ({} : Collector).addSource source text with
  | (_, some e) => .error e
  | (c, none) => c.build

end TypedQuery
