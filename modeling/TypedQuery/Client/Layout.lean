import TypedQuery.Client.Plan
import TypedQuery.Sorting

/-!
# The text of a generated module

`Layout.lines` lays a plan out as the lines of a module: its docstring and imports, the names that
it exports, its type variables, and then for every object type the field accessors, the response
wrapper, the field tokens, the selection builder and the namespace of tokens.
-/

namespace TypedQuery.Client.Layout

/-- An empty line. -/
def blank : Line := []

/-- A line of fixed code. -/
def fixed (text : String) : Line := [.code text]

/-! ## The head of the module -/

/-- The docstring of the module. It shows how to start a query with the first field of the root. -/
def header (root : TypePlan) : Line :=
  let first := root.fields.head?
  let attr := (first.map FieldPlan.attr).getD ""
  let more := if (first.map fun f => f.target.isObject) = some true then ", ..." else ""
  [.docstring ("Typed GraphQL client generated by gql-typed. Do not edit.\n\n" ++
    "Root query type: " ++ root.name ++ "\n\n" ++
    "Usage:\n" ++
    "    query = " ++ root.names.builder ++ ".empty().select(" ++ root.names.tokens ++ "." ++
      attr ++ more ++ ")\n" ++
    "    response = await client.send(query.request())\n")]

/-- The imports. -/
def imports (runtime : Item) : List Line :=
  [fixed "from __future__ import annotations", blank, fixed "import typing as _t", blank,
    [.code "import ", runtime, .code " as _rt"]]

/-- The names that the module exports, in order. -/
def exported (types : List TypePlan) : List String :=
  Sorting.byName (types.flatMap fun t => [t.names.tokens, t.names.builder, t.names.response])

/-- The list of exported names. -/
def exports (types : List TypePlan) : Line :=
  .code "__all__ = [\n" ::
    ((exported types).flatMap fun n => [.code "    ", .literal n, .code ",\n"]) ++ [.code "]"]

/-- A type parameter of fields. -/
def typeVar (name : String) : Line :=
  [.name name, .code " = _t.TypeVar(", .literal name, .code ")"]

/-- The type variable for answers of an object type. -/
def boundVar (t : TypePlan) : Line :=
  [.name t.names.bound, .code " = _t.TypeVar(", .literal t.names.bound, .code ", bound=",
    .literal (t.names.response ++ "[" ++ Line.text (Marker.list t.any) ++ "]"), .code ")"]

/-- A section heading. -/
def heading (title : String) : List Line := [blank, blank, [.comment title]]

/-! ## Field accessors -/

/-- The accessor class of a field. -/
def accessor (t : TypePlan) (f : FieldPlan) : List Line :=
  [blank, blank,
    [.code "class ", .name f.accessorClass, .code "(_rt.Accessor):"],
    [.code "    ",
      .docstring ("``" ++ t.name ++ "." ++ f.name ++ ": " ++ f.type.render ++ "``")],
    blank,
    .code "    def __get__(self, obj: " :: t.ownerType f ++
      .code ", owner: _t.Any = None) -> " :: f.valueType.items ++ [.code ":"],
    fixed "        return self._gql_read(obj)"]

/-! ## Response wrappers -/

/-- The docstring of a class that stands for a type: a line, and the type's description. -/
def classDoc (line description : String) : Line :=
  let more := if description.isEmpty then "" else
    "\n    " ++ Docstring.indent (Docstring.escape description) ++ "\n"
  [.code "    ", .docstring (line ++ "\n" ++ more ++ "    ")]

/-- The attribute of a response wrapper that reads a field. -/
def accessorLine (f : FieldPlan) : Line :=
  [.code "    ", .name f.attr, .code ": ", .name f.accessorClass, .code " = ",
    .name f.accessorClass, .code "(", .literal f.name, .code ", "] ++ f.decoder.items ++ [.code ")"]

/-- The response wrapper of a type. -/
def response (t : TypePlan) : List Line :=
  [blank, blank,
    .code "class " :: .name t.names.response :: .code "(_rt.Response, _t.Generic[" ::
      t.paramList ++ [.code "]):"],
    classDoc ("Response wrapper for ``" ++ t.name ++ "`` selections.") t.description,
    blank] ++ t.fields.map accessorLine

/-! ## Field tokens -/

/-- The token class of a field. -/
def token (t : TypePlan) (f : FieldPlan) : List Line :=
  let doc : List Line := if f.description.isEmpty then [] else
    [[.code "    ", .docstring (Docstring.indent (Docstring.escape f.description))], blank]
  let object : List Line := if f.target.isObject then
    [fixed "    is_object = True", [.code "    target_type = ", .literal f.target.name]] else []
  [blank, blank, fixed "@_t.final",
    [.code "class ", .name f.tokenClass, .code "(_rt.FieldToken):"]] ++ doc ++
  [[.code "    type_name = ", .literal t.name],
    [.code "    field_name = ", .literal f.name]] ++ object

/-! ## Selection builders -/

/-- The parameters of `select` for a field. -/
def selectParams (f : FieldPlan) : List Item :=
  .code "    def select(self, token: " :: .name f.tokenClass ::
    (if f.target.isObject then .code ", selection: " :: f.target.subSelection else [])

/-- The signature of `select` for one of several fields. -/
def overload (t : TypePlan) (f : FieldPlan) : List Line :=
  [blank, fixed "    @_t.overload",
    selectParams f ++ .code ") -> " :: t.resultType f ++ [.code ": ..."]]

/-- `select` for a type with a single field. -/
def selectOnly (t : TypePlan) (f : FieldPlan) : List Line :=
  let (doc, call) : String × String :=
    if f.target.isObject then ("with a sub-selection.", "(token, selection)")
    else ("to the selection.", "(token)")
  [blank,
    selectParams f ++ .code ") -> " :: t.resultType f ++ [.code ":"],
    [.code "        ", .docstring ("Add ``" ++ f.name ++ "`` " ++ doc)],
    fixed ("        return self._gql_extend" ++ call)]

/-- `select` for a type with several fields. -/
def selectAny (t : TypePlan) : List Line :=
  t.fields.flatMap (overload t) ++
  [blank,
    fixed ("    def select(self, token: _rt.FieldToken, selection: " ++
      "_t.Optional[_rt.SelectionBuilder[_t.Any]] = None) -> _t.Any:"),
    [.code "        ",
      .docstring "Add a field to the selection; object fields take a sub-selection."],
    fixed "        return self._gql_extend(token, selection)"]

/-- The method `select`. -/
def select (t : TypePlan) : List Line :=
  match t.fields with
  | [f] => selectOnly t f
  | _ => selectAny t

/-- The method `request`, which only the builder of the query root has. -/
def request (t : TypePlan) : List Line :=
  if t.isRoot then
    [blank,
      .code "    def request(self, operation_name: _t.Optional[str] = None) -> _rt.Request[" ::
        .name t.names.response :: .code "[" :: t.paramList ++ [.code "]]:"],
      [.code "        ", .docstring "Describe a query for the current selection."],
      [.code "        return _rt.Request(self.selection_set, ", .name t.names.response,
        .code ", operation_name)"]]
  else []

/-- The selection builder of a type. -/
def builder (t : TypePlan) : List Line :=
  [blank, blank,
    .code "class " :: .name t.names.builder :: .code "(_rt.SelectionBuilder[" ::
      .name t.names.response :: .code "[" :: t.paramList ++ .code "]], _t.Generic[" ::
      t.paramList ++ [.code "]):"],
    [.code "    ", .docstring ("Selection builder for ``" ++ t.name ++ "``.")],
    blank,
    [.code "    _gql_type = ", .literal t.name],
    .code "    _gql_field_order = " :: t.fieldOrder,
    blank,
    fixed "    @staticmethod",
    .code "    def empty() -> " :: .name t.names.builder :: .code "[" :: Marker.list t.empty ++
      [.code "]:"],
    [.code "        ", .docstring "Start a selection with no fields."],
    [.code "        return ", .name t.names.builder, .code "()"]] ++
  select t ++ request t

/-! ## Namespaces -/

/-- The attribute of a namespace that holds a token. -/
def tokenLine (f : FieldPlan) : Line :=
  [.code "    ", .name f.attr, .code ": _t.Final = ", .name f.tokenClass, .code "()"]

/-- The namespace of a type's tokens. -/
def tokens (t : TypePlan) : List Line :=
  [blank, blank,
    [.code "class ", .name t.names.tokens, .code ":"],
    classDoc ("Field tokens of ``" ++ t.name ++ "``.") t.description,
    blank] ++ t.fields.map tokenLine

/-! ## The module -/

/-- The lines of the module for a plan with the query root `root`. -/
def lines (plan : Plan) (root : TypePlan) (runtime : Item) : List Line :=
  [header root, blank] ++ imports runtime ++ [blank, exports plan.types, blank] ++
  plan.params.map typeVar ++ plan.types.map boundVar ++
  heading "Field accessors" ++ plan.types.flatMap (fun t => t.fields.flatMap (accessor t)) ++
  heading "Response wrappers" ++ plan.types.flatMap response ++
  heading "Field tokens" ++ plan.types.flatMap (fun t => t.fields.flatMap (token t)) ++
  heading "Selection builders" ++ plan.types.flatMap builder ++
  heading "Field token namespaces" ++ plan.types.flatMap tokens

end TypedQuery.Client.Layout
