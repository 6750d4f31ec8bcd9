import TypedQuery.Json.Literal

/-!
# Answers of a server

A server answers with an object that may hold `data` and `errors`. `Envelope.ofJson` checks its
form, and `Envelope.data` gives the data unless there are errors.
-/

namespace TypedQuery

/-- The parts of an answer. -/
structure Envelope where
  data : Option (Table Json)
  errors : Option (List (Table Json))

namespace Envelope

/-- What is wrong with the form of an answer. -/
inductive Fault where
  | notObject
  | dataNotObject
  | errorsNotList
  | errorNotObject (index : Nat)
  deriving DecidableEq

/-- The members of an object. -/
def members? : Json → Option (Table Json)
  | .object ms => some ms
  | _ => none

/-- Whether `data` may have this value. -/
def dataFaults : Option Json → List Fault
  | none | some .null | some (.object _) => []
  | _ => [.dataNotObject]

/-- The errors that are no objects, counted from `index`. -/
def itemFaults (index : Nat) : List Json → List Fault
  | [] => []
  | .object _ :: items => itemFaults (index + 1) items
  | _ :: items => .errorNotObject index :: itemFaults (index + 1) items

/-- What is wrong with `errors`. -/
def errorFaults : Option Json → List Fault
  | none | some .null => []
  | some (.list items) => itemFaults 0 items
  | _ => [.errorsNotList]

/-- The data of an answer whose form is right. -/
def dataOf : Option Json → Option (Table Json)
  | some (.object ms) => some ms
  | _ => none

/-- The errors of an answer whose form is right. -/
def errorsOf : Option Json → Option (List (Table Json))
  | some (.list items) => some (items.filterMap members?)
  | _ => none

/-- Checks the form of an answer; all faults are found, those of `data` first. -/
def ofJson : Json → Except (List Fault) Envelope
  | .object ms =>
    match dataFaults (Table.get? ms "data") ++ errorFaults (Table.get? ms "errors") with
    | [] => .ok ⟨dataOf (Table.get? ms "data"), errorsOf (Table.get? ms "errors")⟩
    | faults => .error faults
  | _ => .error [.notObject]

/-- What an error says: its message, or all of it if it has none. -/
def errorText (e : Table Json) : String :=
  match e.get? "message" with
  | some m => m.plain
  | none => (Json.object e).literal

/-- The errors in words. -/
def errorsText (errors : List (Table Json)) : String :=
  "GraphQL errors: " ++ "; ".intercalate (errors.map errorText)

/-- The data of an answer, or its errors if there are any. No data counts as no members. -/
def result (e : Envelope) : Except (List (Table Json)) (Table Json) :=
  match e.errors with
  | some (err :: more) => .error (err :: more)
  | _ => .ok (e.data.getD [])

end Envelope

end TypedQuery
