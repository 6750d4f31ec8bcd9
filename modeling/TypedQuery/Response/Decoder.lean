import TypedQuery.Client.Plan
import TypedQuery.Json.Literal

/-!
# Decoding answers

A `Decoder` turns a JSON value into the value that a field is read as. Scalars are taken strictly:
only an integer passes for a float, and nothing else for anything else. Objects are not decoded
here but wrapped, to be read field by field.

* `Decoder.decode`: the value, or the first mismatch, depth first and from left to right.
* `Path`: where in an answer a value stands.
-/

namespace TypedQuery

/-! ## Places in an answer -/

/-- A step into a JSON value. -/
inductive Path.Step where
  | member (name : String)
  | item (index : Nat)
  deriving DecidableEq

/-- A place in an answer: where reading began, and the steps from there. -/
structure Path where
  start : String := "data"
  steps : List Path.Step := []
  deriving DecidableEq

namespace Path

/-- One step further. -/
def push (p : Path) (s : Step) : Path := { p with steps := p.steps ++ [s] }

/-- A step as messages show it. -/
def Step.render : Step → String
  | .member name => "." ++ name
  | .item i => "[" ++ toString i ++ "]"

/-- A place as messages show it. -/
def render (p : Path) : String := p.start ++ String.join (p.steps.map Step.render)

end Path

/-! ## Wrappers and values -/

/-- The members of a JSON object, to be read through the response wrapper called `wrapper`. -/
structure Response where
  wrapper : String
  data : Table Json
  path : Path := {}

/-- A value that a field is read as. -/
inductive Value where
  | null
  | bool (value : Bool)
  | int (value : Int)
  | float (value : Binary64)
  | text (value : String)
  | list (items : List Value)
  | response (value : Response)

/-! ## Decoders -/

/-- How a field's JSON value is read. -/
inductive Decoder where
  /-- A scalar. -/
  | primitive (kind : Primitive)
  /-- Null, or what the inner decoder reads. -/
  | nullable (of : Decoder)
  /-- A list of what the inner decoder reads. -/
  | list (of : Decoder)
  /-- An object, wrapped in the response wrapper of that name. -/
  | object (wrapper : String)
  /-- A scalar whose kind is hidden behind a field's accessor, of the class `accessor`. -/
  | hidden (accessor : String)
  /-- No way of reading at all. -/
  | blank
  deriving DecidableEq

/-- Why a response wrapper cannot be made: the accessor of a field stands where a step of the making
is looked for. -/
inductive WrapFault where
  /-- The step that creates the wrapper is an accessor, of the class `accessor`. -/
  | creation (accessor : String)
  /-- So is the step that fills it. -/
  | filling (wrapper : String)
  /-- So is the step that stores an attribute. -/
  | storing (wrapper : String)
  deriving DecidableEq

/-- The fault in words. An accessor that is asked for such a step looks for the place of the answer,
which is not there yet. -/
def WrapFault.message : WrapFault → String
  | .creation accessor => "'" ++ accessor ++ "' object is not callable"
  | .filling wrapper => "'" ++ wrapper ++ "' object has no attribute '_gql_path'"
  | .storing wrapper => "'" ++ wrapper ++ "' object has no attribute '_gql_path'"

/-- Why a value cannot be read. -/
inductive DecodeError where
  | notPrimitive (path : Path) (kind : Primitive) (found : Json)
  | notList (path : Path) (found : Json)
  | notObject (path : Path) (found : Json)
  /-- The object lacks the field. -/
  | missing (path : Path)
  /-- The module has no such response wrapper. -/
  | unknownWrapper (module wrapper : String)
  /-- There is no module whose name is what messages show so. -/
  | unknownModule (shown : String)
  /-- The response wrapper cannot be made. -/
  | unwrappable (fault : WrapFault)
  /-- The kind of the scalar is hidden. -/
  | hiddenKind
  /-- There is no decoder. -/
  | undecodable

namespace DecodeError

/-- The error in words. -/
def message : DecodeError → String
  | .notPrimitive p k v => p.render ++ ": expected " ++ k.name ++ ", got " ++ v.literal
  | .notList p v => p.render ++ ": expected a list, got " ++ v.literal
  | .notObject p v => p.render ++ ": expected an object, got " ++ v.literal
  | .missing p => p.render ++ ": field missing from response"
  | .unknownWrapper module wrapper =>
    "module '" ++ module ++ "' has no attribute '" ++ wrapper ++ "'"
  | .unknownModule shown => shown
  | .unwrappable fault => fault.message
  | .hiddenKind => ""
  | .undecodable => ""

end DecodeError

/-- The module in which response wrappers are looked up: its name, the names of its wrappers, and
those that cannot be made. If an accessor stands where the module's name is looked for, `lost` is
how messages show it, and nothing is found. -/
structure WrapperScope where
  module : String
  lost : Option String := none
  wrappers : List String
  faults : Table WrapFault := []

/-- Puts the members of an object into a wrapper. -/
def Response.make (scope : WrapperScope) (wrapper : String) (path : Path) (members : Table Json) :
    Except DecodeError Response :=
  match scope.faults.get? wrapper with
  | some fault => .error (.unwrappable fault)
  | none => .ok ⟨wrapper, members, path⟩

namespace Primitive

/-- Reads a scalar. -/
def decode? : Primitive → Json → Option Value
  | .text, .str s => some (.text s)
  | .int, .int i => some (.int i)
  | .float, .float x => some (.float x)
  | .float, .int i => (Binary64.ofInt? i).map .float
  | .bool, .bool b => some (.bool b)
  | _, _ => none

end Primitive

namespace Decoder

/-- Reads the items of a list that stands at `path`, counting on from `index`. -/
def decodeItems (read : Path → Json → Except DecodeError Value) (path : Path) (index : Nat) :
    List Json → Except DecodeError (List Value)
  | [] => .ok []
  | v :: vs => do
    let w ← read (path.push (.item index)) v
    let ws ← decodeItems read path (index + 1) vs
    return w :: ws

/-- Reads a value that stands at `path`. -/
def decode (scope : WrapperScope) : Decoder → Path → Json → Except DecodeError Value
  | .primitive k, path, raw =>
    match k.decode? raw with
    | some v => .ok v
    | none => .error (.notPrimitive path k raw)
  | .nullable d, path, raw =>
    match raw with
    | .null => .ok .null
    | raw => decode scope d path raw
  | .list d, path, raw =>
    match raw with
    | .list items => (decodeItems (decode scope d) path 0 items).map .list
    | raw => .error (.notList path raw)
  | .object wrapper, path, raw =>
    match raw with
    | .object members =>
      match scope.lost with
      | some shown => .error (.unknownModule shown)
      | none =>
        if scope.wrappers.contains wrapper then
          (Response.make scope wrapper path members).map .response
        else .error (.unknownWrapper scope.module wrapper)
    | raw => .error (.notObject path raw)
  | .hidden _, _, _ => .error .hiddenKind
  | .blank, _, _ => .error .undecodable

/-- A decoder as messages show it. A hidden kind cannot be shown; then the class that hides it is
given. -/
def render : Decoder → Except String String
  | .primitive k => .ok ("Scalar(" ++ k.name ++ ")")
  | .nullable d => do return "Nullable(" ++ (← d.render) ++ ")"
  | .list d => do return "ListOf(" ++ (← d.render) ++ ")"
  | .object w => .ok ("ObjectOf(" ++ Text.quote w ++ ")")
  | .hidden accessor => .error accessor
  | .blank => .ok "Decoder"

end Decoder

end TypedQuery
