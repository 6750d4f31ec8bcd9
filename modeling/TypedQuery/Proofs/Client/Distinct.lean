import TypedQuery.Client.Layout
import TypedQuery.Proofs.Client.Coherent

/-!
# Distinct names

The names of all types and fields of a generated module come from one pool, whatever names the
schema uses. No two of them collide.

* `FieldPlan.Named`, `TypePlan.Named`, `Plan.Named`: what a plan names, and how.
* `Plan.attr_ne`: no attribute of a field is one of the response wrapper itself.
* `Plan.pairwise_exported`: the exported names rise strictly.
* `Plan.exists_named`: every schema that passes the checks has a plan with distinct names.
-/

namespace TypedQuery.Client

/-- The names of a field of the type called `type`: each is the wanted name with underscores behind
it, and the attribute is none of those that the response wrapper keeps for itself. -/
structure FieldPlan.Named (type : String) (f : Field) (p : FieldPlan) : Prop where
  attr : Names.Pads f.name p.attr
  attr_ne_data : p.attr ≠ "_gql_data"
  attr_ne_path : p.attr ≠ "_gql_path"
  tokenClass : Names.Pads ("_" ++ type ++ pascalCase f.name ++ "Field") p.tokenClass
  accessorClass : Names.Pads ("_" ++ type ++ pascalCase f.name ++ "Accessor") p.accessorClass

/-- The names of a type in a plan with the type parameters `params`. -/
structure TypePlan.Named (params : List String) (t : ObjectType) (p : TypePlan) : Prop where
  names : p.names.Of t.name
  params_eq : p.params = params.take t.fields.length
  params_length : p.params.length = t.fields.length
  fields : Aligned (fun _ => FieldPlan.Named t.name) t.fields p.fields
  attrs : Names.Apart (p.fields.map FieldPlan.attr)

/-- The names of a plan for the schema `s`. All names that the module declares stand apart, and none
is one that it relies on. -/
structure Plan.Named (s : Schema) (plan : Plan) : Prop where
  declared : Names.Apart plan.declared
  not_reserved : ∀ n ∈ plan.declared, n ∉ Plan.reserved
  params : ∀ (i : Nat) n, plan.params[i]? = some n → Names.Pads ("_F" ++ toString i) n
  types : Aligned (fun _ => TypePlan.Named plan.params) s.objects plan.types
  exported : (Layout.exported plan.types).Pairwise (· < ·)
  mem_exported : ∀ n, n ∈ Layout.exported plan.types ↔
    ∃ t ∈ plan.types, n = t.names.tokens ∨ n = t.names.builder ∨ n = t.names.response

namespace Plan

variable {s : Schema} {plan : Plan}

/-! ## Attributes -/

/-- A name that belongs to the response wrapper and ends in a letter is no attribute of a field. -/
theorem attr_ne {name attr own : String} (h : Names.Pads (wantedAttribute name) attr)
    (hown : reservedAttribute.toList.isPrefixOf own.toList = true)
    (hlast : own.toList.getLast? ≠ some '_') : attr ≠ own := by
  rintro rfl
  have hname : attr = name := ((pads_wantedAttribute name).trans h).eq_of_last hlast
  have hwanted := h.eq_of_last hlast
  -- The field asks for its own name, so this name does not belong to the wrapper.
  rw [wantedAttribute, ← hname, if_pos hown] at hwanted
  refine hlast ?_
  rw [hwanted]
  simp

/-! ## Exported names -/

theorem perm_names (types : List TypePlan) :
    (types.flatMap fun t => [t.names.tokens, t.names.builder, t.names.response]).Perm
      (types.map (·.names.tokens) ++
        (types.map (·.names.response) ++ types.map (·.names.builder))) := by
  refine List.perm_iff_count.2 fun n => ?_
  induction types with
  | nil => rfl
  | cons t types ih =>
    simp only [List.flatMap_cons, List.map_cons, List.count_append, List.count_cons,
      List.count_nil] at ih ⊢
    omega

theorem mem_exported {types : List TypePlan} {n : String} : n ∈ Layout.exported types ↔
    ∃ t ∈ types, n = t.names.tokens ∨ n = t.names.builder ∨ n = t.names.response := by
  simp [Layout.exported, Sorting.byName]

theorem pairwise_exported (h : plan.declared.Nodup) :
    (Layout.exported plan.types).Pairwise (· < ·) := by
  refine Sorting.pairwise_byName ((perm_names plan.types).nodup_iff.2 ?_)
  rw [declared, ← List.append_assoc, ← List.append_assoc] at h
  rw [← List.append_assoc]
  exact (List.nodup_append.1 h).1

/-! ## All names of a plan -/

theorem typeNamed (hk : s.Keyed) (h : ofSchema s = .ok plan) {t : ObjectType} {p : TypePlan}
    (ht : t ∈ s.objects) (hp : p.Of s (chooseNames s.objects) t) : p.Named plan.params t := by
  have hfits := chooseNames_fits_of_keyed hk
  have hparams : p.params = plan.params.take t.fields.length := by
    rw [hp.params, (ofSchema_eq_ok h).1]
  refine ⟨hfits.of _ _ (Table.mem_of_get? hp.names_eq), hparams, ?_, ?_, hp.attrs⟩
  · have hle := hfits.length_le t ht
    rw [← (ofSchema_eq_ok h).1] at hle
    rw [hparams, List.length_take]
    omega
  · refine hp.fields.mono fun i f q hq => ?_
    refine ⟨(pads_wantedAttribute f.name).trans hq.attr, ?_, ?_, hq.tokenClass, hq.accessorClass⟩
    · exact attr_ne hq.attr (by decide) (by decide)
    · exact attr_ne hq.attr (by decide) (by decide)

/-- **Names never collide.** Take a schema whose keys are the names of its types. If it passes the
checks, it can be planned. All names that the plan declares are distinct, none of them is a keyword
or a name that the module relies on, and each is the wanted name with underscores behind it. The
same holds of the attributes of each type, and none of these belongs to the response wrapper. The
exported names rise strictly: they are the namespaces, builders and responses of the types. -/
theorem exists_named (s : Schema) (hk : s.Keyed) (hfault : fault? s = none) :
    ∃ plan, ofSchema s = .ok plan ∧ plan.Named s := by
  obtain ⟨plan, h⟩ := exists_ofSchema_of_keyed hk hfault
  have hapart := apart_declared hk h
  obtain ⟨hnodup, -, hreserved⟩ := List.nodup_append.1 hapart.nodup
  refine ⟨plan, h, ⟨hnodup, ?_⟩, ?_, ?_, ?_, pairwise_exported hnodup, fun n => mem_exported⟩
  · exact fun n hn => hapart.not_keyword n (List.mem_append_left _ hn)
  · exact fun n hn hmem => hreserved n hn n hmem rfl
  · rw [(ofSchema_eq_ok h).1]
    exact (chooseNames_fits_of_keyed hk).params
  · have hall := aligned_of_ofSchema h
    exact ⟨hall.length_eq, fun i t p ht hp =>
      typeNamed hk h (List.mem_of_getElem? ht) (hall.rel i t p ht hp)⟩

/-- Types and fields that ask for the names of others, for keywords and for reserved names. -/
theorem exists_named_crowded :
    let s : Schema :=
      ⟨[("str", { name := "str", fields := [⟨"class", .named "Int", none, none⟩,
          ⟨"class_", .list (.named "str_"), none, none⟩] }),
        ("str_", { name := "str_", fields := [⟨"a_b", .named "ID", none, none⟩,
          ⟨"aB", .named "ID", none, none⟩, ⟨"_gql_data", .named "ID", none, none⟩] }),
        ("strResponse", { name := "strResponse", fields := [⟨"f", .named "_F0", none, none⟩] }),
        ("_F0", { name := "_F0", fields := [⟨"f", .named "strResponse", none, none⟩] })], "str"⟩
    s.Keyed ∧ fault? s = none ∧ ∃ plan, ofSchema s = .ok plan ∧ plan.Named s := by
  intro s
  have hk : s.Keyed := ⟨by decide, by decide⟩
  have hfault : fault? s = none := by decide +kernel
  exact ⟨hk, hfault, exists_named s hk hfault⟩

end Plan

end TypedQuery.Client
