import TypedQuery.Client.Plan
import TypedQuery.Script.Recognizer
import TypedQuery.Text.Split

/-!
# Templates of a user's own

A template replaces the layout of the generated module by a text of the user's. A `Template` is what
the text stands for: it makes a module of the plan, its query root and the module with the support
code, or fails to. How texts are read as templates is up to the platform.

* `Template.ofText`: templates that may name the query root, by `root.graphql_name` between double
  braces, and are taken as they are otherwise.
-/

namespace TypedQuery.Client

/-- Why a template makes no module. -/
inductive TemplateFault where
  /-- The template cannot be filled in. -/
  | broken (message : String)
  /-- The text is no Python module. -/
  | invalid
  deriving DecidableEq

/-- A layout of the user's own: the text of a module for its plan, the query root, and the module
that is imported for support code. -/
abbrev Template := Plan → TypePlan → String → Except TemplateFault String

namespace Template

/-- A part of a text. -/
inductive Part where
  | char (c : Char)
  /-- The place of the root's name. -/
  | root
  deriving DecidableEq

/-- A blank inside braces. -/
def isBlank (c : Char) : Bool := c == ' ' || c == '\t' || c == '\n'

/-- What follows the place of the root's name, if `cs` starts with it. -/
def afterRoot? (cs : List Char) : Option (List Char) :=
  match cs with
  | '\x7b' :: '\x7b' :: rest =>
    let name := "root.graphql_name".toList
    let rest := rest.dropWhile isBlank
    if name.isPrefixOf rest then
      match (rest.drop name.length).dropWhile isBlank with
      | '\x7d' :: '\x7d' :: rest => some rest
      | _ => none
    else none
  | _ => none

theorem length_afterRoot?_lt {cs rest : List Char} (h : afterRoot? cs = some rest) :
    rest.length < cs.length := by
  unfold afterRoot? at h
  split at h
  · rename_i more
    dsimp only at h
    split at h
    · split at h
      · rename_i tail hd
        cases h
        have h1 : (List.dropWhile isBlank ((more.dropWhile isBlank).drop
            "root.graphql_name".toList.length)).length ≤ _ :=
          (List.dropWhile_suffix isBlank).length_le
        have h2 : (more.dropWhile isBlank).length ≤ more.length :=
          (List.dropWhile_suffix isBlank).length_le
        rw [hd] at h1
        simp only [List.length_cons, List.length_drop] at h1 ⊢
        omega
      · cases h
    · cases h
  · cases h

/-- The parts of a text. -/
def parts (cs : List Char) : List Part :=
  match _h : afterRoot? cs with
  | some rest => .root :: parts rest
  | none =>
    match cs with
    | [] => []
    | c :: cs => .char c :: parts cs
termination_by cs.length
decreasing_by
  · exact length_afterRoot?_lt ‹_›
  · simp

/-- The text of parts for the query root `root`. -/
def fill (ps : List Part) (root : TypePlan) : String :=
  String.ofList (ps.flatMap fun
    | .char c => [c]
    | .root => root.name.toList)

/-- The template that a text stands for. -/
def ofText (text : String) : Template := fun _ root _ =>
  let filled := fill (parts (Text.unifyLines text.toList)) root
  if Script.isValid filled then .ok filled else .error .invalid

end Template

end TypedQuery.Client
