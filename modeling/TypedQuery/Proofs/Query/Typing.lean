import Mathlib.Data.List.Nodup
import TypedQuery.Proofs.Query.Selecting
import TypedQuery.Proofs.Schema.WellFormed

/-!
# Selections that fit a schema

A selection fits an object type if its fields are some of the type's, in declaration order, if a
scalar field stands alone, and if an object field carries a selection on its own type that is not
empty and fits in turn.

* `Schema.WellTyped`: this, of a selection with its type.
* `Schema.Selects`: the same for a given type, in the form that calls keep.
* `Schema.Selects.insert`: one more field keeps it.
* `Schema.looped`: a schema with such selections of any depth.
-/

namespace TypedQuery

/-- A selection on a type of the schema that makes a valid query there. Its fields are fields of the
type, in declaration order and none of them twice. A scalar field stands alone, and an object field
carries a selection on its own type that is not empty and well typed in turn. -/
inductive Schema.WellTyped (s : Schema) : SelectionSet → Prop where
  | intro {t : ObjectType} {sel : Selection} (object : t ∈ s.objects)
    (order : sel.names.Sublist (t.fields.map Field.name)) (nodup : sel.names.Nodup)
    (own : ∀ x ∈ sel.toList, ∃ f ∈ t.fields, f.name = x.name ∧
      (x.sub = none ↔ f.type.scalar?.isSome) ∧
      ∀ sub, x.sub = some sub → sub.type = f.type.target ∧ sub.fields ≠ .nil)
    (inner : ∀ x ∈ sel.toList, ∀ sub, x.sub = some sub → WellTyped s sub) :
    WellTyped s ⟨t.name, sel⟩

/-- `sel` fits the object type `t` of the schema `s`. -/
inductive Schema.Selects (s : Schema) : ObjectType → Selection → Prop where
  | intro {t : ObjectType} {sel : Selection}
    (names : sel.names.Sublist (t.fields.map Field.name))
    (kind : ∀ x ∈ sel.toList, ∀ f ∈ t.fields, f.name = x.name →
      (x.sub = none ↔ f.type.scalar?.isSome))
    (target : ∀ x ∈ sel.toList, ∀ sub, x.sub = some sub → ∀ f ∈ t.fields, f.name = x.name →
      sub.type = f.type.target ∧ sub.fields ≠ .nil)
    (sub : ∀ x ∈ sel.toList, ∀ sub, x.sub = some sub → ∀ u ∈ s.objects, u.name = sub.type →
      Selects s u sub.fields) :
    Selects s t sel

namespace Schema.Selects

variable {s : Schema} {t : ObjectType} {sel : Selection}

theorem names_sublist (h : s.Selects t sel) : sel.names.Sublist (t.fields.map Field.name) := by
  cases h
  assumption

theorem names_nodup (h : s.Selects t sel) (ht : t.WellFormed) : sel.names.Nodup :=
  h.names_sublist.nodup ht.fields_nodup

theorem sub_eq_none_iff (h : s.Selects t sel) {x : SelectedField} (hx : x ∈ sel.toList)
    {f : Field} (hf : f ∈ t.fields) (hname : f.name = x.name) :
    x.sub = none ↔ f.type.scalar?.isSome := by
  cases h with
  | intro _ kind _ _ => exact kind x hx f hf hname

theorem target_eq (h : s.Selects t sel) {x : SelectedField} (hx : x ∈ sel.toList)
    {sub : SelectionSet} (hsub : x.sub = some sub) {f : Field} (hf : f ∈ t.fields)
    (hname : f.name = x.name) : sub.type = f.type.target ∧ sub.fields ≠ .nil := by
  cases h with
  | intro _ _ target _ => exact target x hx sub hsub f hf hname

theorem of_sub (h : s.Selects t sel) {x : SelectedField} (hx : x ∈ sel.toList)
    {sub : SelectionSet} (hsub : x.sub = some sub) {u : ObjectType} (hu : u ∈ s.objects)
    (hname : u.name = sub.type) : s.Selects u sub.fields := by
  cases h with
  | intro _ _ _ inner => exact inner x hx sub hsub u hu hname

/-- Every selected field is a field of the type. -/
theorem exists_field (h : s.Selects t sel) {x : SelectedField} (hx : x ∈ sel.toList) :
    ∃ f ∈ t.fields, f.name = x.name :=
  List.mem_map.1 (h.names_sublist.subset (List.mem_map_of_mem hx))

theorem nil (s : Schema) (t : ObjectType) : s.Selects t .nil :=
  .intro (List.nil_sublist _) (by simp [Selection.toList]) (by simp [Selection.toList])
    (by simp [Selection.toList])

/-- What remains of a fitting selection behind its first field fits too. -/
theorem of_cons {x : SelectedField} (h : s.Selects t (.cons x sel)) : s.Selects t sel := by
  have hmem : ∀ y ∈ sel.toList, y ∈ (Selection.cons x sel).toList := fun y hy => by
    rw [Selection.toList_cons]
    exact List.mem_cons_of_mem x hy
  refine .intro ?_ ?_ ?_ ?_
  · have hnames := h.names_sublist
    rw [Selection.names_cons] at hnames
    exact (List.sublist_cons_self _ _).trans hnames
  · exact fun y hy f hf hname => h.sub_eq_none_iff (hmem y hy) hf hname
  · exact fun y hy sub hsub f hf hname => h.target_eq (hmem y hy) hsub hf hname
  · exact fun y hy sub hsub u hu hname => h.of_sub (hmem y hy) hsub hu hname

/-- One more field keeps a selection fitting, if the field itself fits. -/
theorem insert (ht : t.WellFormed) (h : s.Selects t sel) {x : SelectedField} {f : Field}
    (hf : f ∈ t.fields) (hname : f.name = x.name) (hkind : x.sub = none ↔ f.type.scalar?.isSome)
    (hsub : ∀ sub, x.sub = some sub → sub.type = f.type.target ∧ sub.fields ≠ .nil ∧
      ∀ u ∈ s.objects, u.name = sub.type → s.Selects u sub.fields) :
    s.Selects t (Builder.insert (t.fields.map Field.name) sel x) := by
  have hn := h.names_nodup ht
  -- The field of a name is unique, so what holds of `f` holds of every field of that name.
  have huniq : ∀ g ∈ t.fields, g.name = x.name → g = f := fun g hg hgx =>
    List.inj_on_of_nodup_map ht.fields_nodup hg hf (hgx.trans hname.symm)
  refine .intro (Builder.sublist_names_insert hn) ?_ ?_ ?_
  · intro y hy g hg hgy
    rcases Builder.mem_insert hn hy with rfl | hy
    · rw [huniq g hg hgy]
      exact hkind
    · exact h.sub_eq_none_iff hy hg hgy
  · intro y hy sub hys g hg hgy
    rcases Builder.mem_insert hn hy with rfl | hy
    · obtain ⟨htype, hne, -⟩ := hsub sub hys
      rw [huniq g hg hgy]
      exact ⟨htype, hne⟩
    · exact h.target_eq hy hys hg hgy
  · intro y hy sub hys u hu huname
    rcases Builder.mem_insert hn hy with rfl | hy
    · exact (hsub sub hys).2.2 u hu huname
    · exact h.of_sub hy hys hu huname

end Schema.Selects

/-! ## A type that refers to itself -/

/-- A type whose second field is a list of the type itself. -/
def ObjectType.looped : ObjectType where
  name := "Query"
  fields := [⟨"n", .named "Int", none, some ⟨"a", 1, 14⟩⟩,
    ⟨"q", .list (.nonNull (.named "Query")), none, some ⟨"a", 1, 21⟩⟩]
  location := some ⟨"a", 1, 1⟩

/-- The schema with that type alone. -/
def Schema.looped : Schema := ⟨[("Query", .looped)], "Query"⟩

/-- The calls that build it. -/
def Collector.loopedCalls : List Collector.Call :=
  [.addSource "a" "type Query \x7b n: Int q: [Query!] \x7d", .build]

theorem Collector.looped_mem_built : Schema.looped ∈ Collector.built {} loopedCalls := by
  decide +kernel

/-- A selection on that type, two levels deep. -/
def SelectionSet.looped : SelectionSet :=
  ⟨"Query", .scalar "n" (.object "q" "Query" (.scalar "n" .nil) .nil)⟩

theorem Schema.wellTyped_looped : looped.WellTyped .looped := by
  have hleaf : looped.WellTyped ⟨"Query", .scalar "n" .nil⟩ := by
    refine .intro (t := .looped) (.head _) (by decide) (by decide) ?_ ?_
    · intro x hx
      cases List.mem_singleton.1 hx
      exact ⟨_, .head _, rfl, by decide, nofun⟩
    · intro x hx sub hsub
      cases List.mem_singleton.1 hx
      cases hsub
  refine .intro (t := .looped) (.head _) (by decide) (by decide) ?_ ?_
  · intro x hx
    rcases List.mem_cons.1 hx with rfl | hx
    · exact ⟨_, .head _, rfl, by decide, nofun⟩
    · cases List.mem_singleton.1 hx
      exact ⟨_, .tail _ (.head _), rfl, by decide, by rintro _ ⟨⟩; exact ⟨rfl, nofun⟩⟩
  · intro x hx sub hsub
    rcases List.mem_cons.1 hx with rfl | hx
    · cases hsub
    · cases List.mem_singleton.1 hx
      cases hsub
      exact hleaf

end TypedQuery
