import TypedQuery.Sorting
import TypedQuery.Table
import TypedQuery.Text.Quoted

/-!
# Selections

A `Selection` lists the fields that a query asks for. A scalar field stands alone, an object field
carries the selection on its own type. A `SelectionSet` is a selection together with the type that
it is made on.

* `Selection.toList`, `Selection.ofList`: a selection as a list of fields.
* `SelectionSet.render`: the text of a selection in a query, one field a line.
* `SelectionSet.literal`: a selection as messages show it.
-/

namespace TypedQuery

/-- Selected fields, one after the other. -/
inductive Selection where
  | nil
  | scalar (name : String) (rest : Selection)
  | object (name : String) (type : String) (sub : Selection) (rest : Selection)
  deriving DecidableEq

/-- A selection on a type. -/
structure SelectionSet where
  type : String
  fields : Selection
  deriving DecidableEq

/-- One selected field, with the selection on its own type if it is an object field. -/
structure SelectedField where
  name : String
  sub : Option SelectionSet := none
  deriving DecidableEq

namespace Selection

/-- The fields of a selection. -/
def toList : Selection → List SelectedField
  | .nil => []
  | .scalar name rest => ⟨name, none⟩ :: rest.toList
  | .object name type sub rest => ⟨name, some ⟨type, sub⟩⟩ :: rest.toList

/-- A selection with one more field in front. -/
def cons (f : SelectedField) (rest : Selection) : Selection :=
  match f.sub with
  | none => .scalar f.name rest
  | some s => .object f.name s.type s.fields rest

/-- The selection of the given fields. -/
def ofList : List SelectedField → Selection
  | [] => .nil
  | f :: fs => cons f (ofList fs)

@[simp] theorem toList_cons (f : SelectedField) (rest : Selection) :
    (cons f rest).toList = f :: rest.toList := by
  obtain ⟨name, sub⟩ := f
  cases sub <;> rfl

@[simp] theorem toList_ofList (fs : List SelectedField) : (ofList fs).toList = fs := by
  induction fs with
  | nil => rfl
  | cons f fs ih => simp [ofList, ih]

@[simp] theorem ofList_toList (s : Selection) : ofList s.toList = s := by
  induction s with
  | nil => rfl
  | scalar name rest ih => simp [toList, ofList, cons, ih]
  | object name type sub rest _ ih => simp [toList, ofList, cons, ih]

/-- The names of the selected fields, in order. -/
def names (s : Selection) : List String := s.toList.map SelectedField.name

/-- Whether no field is selected. -/
def isEmpty : Selection → Bool
  | .nil => true
  | _ => false

/-- Two blanks for each level; none below level zero. -/
def indentation (depth : Int) : String := String.ofList (List.replicate (2 * depth.toNat) ' ')

/-- The lines of a selection at a level. -/
def lines (depth : Int) : Selection → List String
  | .nil => []
  | .scalar name rest => (indentation depth ++ name) :: lines depth rest
  | .object name _ sub rest =>
    (indentation depth ++ name ++ " \x7b") :: lines (depth + 1) sub ++
      (indentation depth ++ "\x7d") :: lines depth rest

/-- Texts between round brackets. A comma follows a text that stands alone. -/
def tuple : List String → String
  | [x] => "(" ++ x ++ ",)"
  | xs => "(" ++ ", ".intercalate xs ++ ")"

/-- A selection on a type as messages show it, given how its fields are shown. -/
def shownOn (type : String) (fields : List String) : String :=
  "SelectionSet(type_name=" ++ Text.quote type ++ ", fields=" ++ tuple fields ++ ")"

/-- A field as messages show it, given how the selection on its own type is shown. -/
def shownField (name sub : String) : String :=
  "SelectedField(name=" ++ Text.quote name ++ ", selection=" ++ sub ++ ")"

/-- The fields of a selection as messages show them. -/
def literals : Selection → List String
  | .nil => []
  | .scalar name rest => shownField name "None" :: literals rest
  | .object name type sub rest => shownField name (shownOn type (literals sub)) :: literals rest

end Selection

namespace SelectionSet

/-- The text of a selection at a level. -/
def render (s : SelectionSet) (depth : Int) : String := "\n".intercalate (s.fields.lines depth)

/-- A selection as messages show it. -/
def literal (s : SelectionSet) : String := Selection.shownOn s.type s.fields.literals

/-- The names of the selected fields, sorted and without repetition. -/
def fieldNames (s : SelectionSet) : List String :=
  (Sorting.byName s.fields.names).eraseDups

end SelectionSet

end TypedQuery
