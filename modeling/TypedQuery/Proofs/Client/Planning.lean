import TypedQuery.Proofs.Basic
import TypedQuery.Proofs.Client.Naming
import TypedQuery.Proofs.Schema.WellFormed

/-!
# The plan of a schema

What planning makes of a schema stands beside it: a plan for each type and, in it, a plan for each
field, in declaration order.

* `FieldPlan.Of`, `TypePlan.Of`: what a plan has to do with the field or the type that it is for.
* `Plan.planTypes_aligned`, `Plan.apart_planTypes`: all plans at once, and their class names.
* `Plan.exists_ofSchema`: planning succeeds if every name refers to something.
* `Collector.plannable_of_mem_built`: what a collector builds can always be planned, with one root.
-/

namespace TypedQuery.Client

/-- `p` is the plan of the field `f`, which stands at the place `i` in the type called `type`. -/
structure FieldPlan.Of (names : Table TypeNames) (type : String) (params : List String) (i : Nat)
    (f : Field) (p : FieldPlan) : Prop where
  name : p.name = f.name
  index : p.index = i
  type_eq : p.type = f.type
  target : Plan.target? names f.type = .ok p.target
  owner : p.owner = (params.map fun _ => Marker.any).set i p.target.marker
  result : p.result = (params.map Marker.param).set i p.target.marker
  attr : Names.Pads (Plan.wantedAttribute f.name) p.attr
  tokenClass : Names.Pads ("_" ++ type ++ pascalCase f.name ++ "Field") p.tokenClass
  accessorClass : Names.Pads ("_" ++ type ++ pascalCase f.name ++ "Accessor") p.accessorClass

/-- `p` is the plan of the object type `t`. -/
structure TypePlan.Of (s : Schema) (names : Plan.NamePlan) (t : ObjectType) (p : TypePlan) :
    Prop where
  name : p.name = t.name
  names_eq : names.types.get? t.name = some p.names
  params : p.params = names.params.take t.fields.length
  isRoot : p.isRoot = (t.name == s.queryType)
  fields : Aligned (FieldPlan.Of names.types t.name p.params) t.fields p.fields
  attrs : Names.Apart (p.fields.map FieldPlan.attr)

namespace Plan

/-! ## Fields -/

/-- The token and accessor classes of fields. -/
def classNames (fs : List FieldPlan) : List String :=
  fs.flatMap fun f => [f.tokenClass, f.accessorClass]

variable {s : Schema} {names : Table TypeNames} {type : String} {params : List String}

/-- One field: its plan, and the names that are taken with it. -/
theorem planField_eq_ok {chosen chosen' : Chosen} {i : Nat} {f : Field} {p : FieldPlan}
    (h : planField names type params chosen i f = .ok (p, chosen')) :
    p.Of names type params i f ∧
      chosen' = ⟨p.accessorClass :: p.tokenClass :: chosen.classes, p.attr :: chosen.attributes⟩ ∧
      (Names.Apart chosen.classes → Names.Apart chosen'.classes) ∧
      (Names.Apart chosen.attributes → Names.Apart chosen'.attributes) := by
  simp only [planField, bind_eq_ok, pure_eq_ok, Prod.mk.injEq] at h
  obtain ⟨target, ht, rfl, rfl⟩ := h
  refine ⟨⟨rfl, rfl, rfl, ht, rfl, rfl, ?_, ?_, ?_⟩, rfl, fun hn => ?_, fun hn => ?_⟩
  · exact Names.pads_choose _ _
  · exact Names.pads_choose _ _
  · exact Names.pads_choose _ _
  · exact Names.apart_choose (Names.apart_choose hn _) _
  · exact Names.apart_choose hn _

theorem planFields_aligned {chosen chosen' : Chosen} {i : Nat} {fs : List Field}
    {ps : List FieldPlan} (h : planFields names type params chosen i fs = .ok (ps, chosen')) :
    Aligned (fun j => FieldPlan.Of names type params (i + j)) fs ps := by
  induction fs generalizing chosen i ps with
  | nil =>
    cases h
    exact .nil
  | cons f fs ih =>
    simp only [planFields, bind_eq_ok, pure_eq_ok, Prod.exists, Prod.mk.injEq] at h
    obtain ⟨p, c₁, hp, ps, c₂, hps, rfl, rfl⟩ := h
    refine .cons (planField_eq_ok hp).1 ((ih hps).mono fun j f q hq => ?_)
    rwa [Nat.add_right_comm] at hq

/-- The names that are taken after the fields. They stand apart if those before them do. -/
theorem planFields_chosen {chosen chosen' : Chosen} {i : Nat} {fs : List Field}
    {ps : List FieldPlan} (h : planFields names type params chosen i fs = .ok (ps, chosen')) :
    chosen'.classes = (classNames ps).reverse ++ chosen.classes ∧
      chosen'.attributes = (ps.map FieldPlan.attr).reverse ++ chosen.attributes ∧
      (Names.Apart chosen.classes → Names.Apart chosen'.classes) ∧
      (Names.Apart chosen.attributes → Names.Apart chosen'.attributes) := by
  induction fs generalizing chosen i ps with
  | nil =>
    cases h
    exact ⟨rfl, rfl, id, id⟩
  | cons f fs ih =>
    simp only [planFields, bind_eq_ok, pure_eq_ok, Prod.exists, Prod.mk.injEq] at h
    obtain ⟨p, c₁, hp, ps, c₂, hps, rfl, rfl⟩ := h
    obtain ⟨-, rfl, hclass, hattr⟩ := planField_eq_ok hp
    obtain ⟨hclasses, hattrs, hcn, han⟩ := ih hps
    refine ⟨?_, ?_, fun hn => hcn (hclass hn), fun hn => han (hattr hn)⟩
    · rw [hclasses]
      simp [classNames]
    · rw [hattrs]
      simp

theorem exists_planFields (type : String) (params : List String) (chosen : Chosen) (i : Nat)
    {fs : List Field} (h : ∀ f ∈ fs, ∃ t, target? names f.type = .ok t) :
    ∃ r, planFields names type params chosen i fs = .ok r := by
  induction fs generalizing chosen i with
  | nil => exact ⟨_, rfl⟩
  | cons f fs ih =>
    obtain ⟨t, ht⟩ := h f (List.mem_cons_self ..)
    have hf : ∃ r, planField names type params chosen i f = .ok r := by
      simp only [planField, ht]
      exact ⟨_, rfl⟩
    obtain ⟨⟨p, c₁⟩, hp⟩ := hf
    obtain ⟨⟨ps, c₂⟩, hps⟩ := ih c₁ (i + 1) fun g hg => h g (List.mem_cons_of_mem _ hg)
    refine ⟨(p :: ps, c₂), ?_⟩
    simp only [planFields, bind_eq_ok, pure_eq_ok]
    exact ⟨_, hp, _, hps, rfl⟩

/-! ## Types -/

variable {all : NamePlan}

theorem planType_eq_ok {classes classes' : List String} {t : ObjectType} {p : TypePlan}
    (h : planType s all classes t = .ok (p, classes')) :
    p.Of s all t ∧ classes' = (classNames p.fields).reverse ++ classes ∧
      (Names.Apart classes → Names.Apart classes') := by
  simp only [planType, bind_eq_ok, Prod.exists] at h
  obtain ⟨fs, chosen, hfs, h⟩ := h
  split at h
  · cases h
  · rename_i own hown
    simp only [pure_eq_ok, Prod.mk.injEq] at h
    obtain ⟨rfl, rfl⟩ := h
    obtain ⟨hclasses, hattrs, hcn, han⟩ := planFields_chosen hfs
    refine ⟨⟨rfl, hown, rfl, rfl, ?_, ?_⟩, hclasses, hcn⟩
    · simpa only [Nat.zero_add] using planFields_aligned hfs
    · have hn := han Names.apart_nil
      rw [hattrs, List.append_nil] at hn
      exact hn.perm (List.reverse_perm _)

theorem planTypes_aligned {classes : List String} {ts : List ObjectType} {ps : List TypePlan}
    (h : planTypes s all classes ts = .ok ps) : Aligned (fun _ => TypePlan.Of s all) ts ps := by
  induction ts generalizing classes ps with
  | nil =>
    cases h
    exact .nil
  | cons t ts ih =>
    simp only [planTypes, bind_eq_ok, pure_eq_ok, Prod.exists] at h
    obtain ⟨p, classes', hp, ps, hps, rfl⟩ := h
    exact .cons (planType_eq_ok hp).1 (ih hps)

theorem apart_planTypes {classes : List String} {ts : List ObjectType} {ps : List TypePlan}
    (h : planTypes s all classes ts = .ok ps) (hn : Names.Apart classes) :
    Names.Apart ((ps.flatMap fun p => classNames p.fields).reverse ++ classes) := by
  induction ts generalizing classes ps with
  | nil =>
    cases h
    exact hn
  | cons t ts ih =>
    simp only [planTypes, bind_eq_ok, pure_eq_ok, Prod.exists] at h
    obtain ⟨p, classes', hp, ps, hps, rfl⟩ := h
    obtain ⟨-, rfl, hkeep⟩ := planType_eq_ok hp
    have htail := ih hps (hkeep hn)
    rwa [List.flatMap_cons, List.reverse_append, List.append_assoc]

theorem exists_planType (s : Schema) (classes : List String) {t : ObjectType} {own : TypeNames}
    (hown : all.types.get? t.name = some own)
    (h : ∀ f ∈ t.fields, ∃ r, target? all.types f.type = .ok r) :
    ∃ r, planType s all classes t = .ok r := by
  obtain ⟨⟨fs, chosen⟩, hfs⟩ :=
    exists_planFields t.name (all.params.take t.fields.length) ⟨classes, []⟩ 0 h
  simp only [planType, hfs, hown]
  exact ⟨_, rfl⟩

theorem exists_planTypes (s : Schema) (classes : List String) {ts : List ObjectType}
    (hown : ∀ t ∈ ts, ∃ n, all.types.get? t.name = some n)
    (h : ∀ t ∈ ts, ∀ f ∈ t.fields, ∃ r, target? all.types f.type = .ok r) :
    ∃ ps, planTypes s all classes ts = .ok ps := by
  induction ts generalizing classes with
  | nil => exact ⟨_, rfl⟩
  | cons t ts ih =>
    obtain ⟨hown, howns⟩ := List.forall_mem_cons.1 hown
    obtain ⟨h, hs⟩ := List.forall_mem_cons.1 h
    obtain ⟨own, ho⟩ := hown
    obtain ⟨⟨p, classes'⟩, hp⟩ := exists_planType s classes ho h
    obtain ⟨ps, hps⟩ := ih classes' howns hs
    refine ⟨p :: ps, ?_⟩
    simp only [planTypes, bind_eq_ok, pure_eq_ok]
    exact ⟨_, hp, _, hps, rfl⟩

/-! ## Schemas -/

theorem map_name_objects (hk : s.Keyed) : s.objects.map ObjectType.name = s.types.names := by
  unfold Schema.objects Table.values Table.names
  rw [List.map_map]
  exact List.map_congr_left fun e he => (hk.key_eq_name e he).symm

theorem find?_isSome {n : String} : (s.find? n).isSome ↔ n ∈ s.types.names := Table.get?_isSome

theorem unresolved?_eq_none_iff {t : ObjectType} : unresolved? s t = none ↔
    ∀ f ∈ t.fields, f.type.scalar?.isSome ∨ f.type.target ∈ s.types.names := by
  rw [unresolved?, List.findSome?_eq_none_iff]
  refine forall₂_congr fun f _ => ?_
  rw [← find?_isSome]
  cases f.type.scalar? <;> cases s.find? f.type.target <;> simp

/-- What the checks before planning ask for. -/
theorem fault?_eq_none_iff : fault? s = none ↔ s.queryType ∈ s.types.names ∧ ∀ t ∈ s.objects,
    t.fields ≠ [] ∧ ∀ f ∈ t.fields, f.type.scalar?.isSome ∨ f.type.target ∈ s.types.names := by
  have hfault : ∀ t, faultOf? s t = none ↔ t.fields ≠ [] ∧ unresolved? s t = none := fun t => by
    by_cases h : t.fields = [] <;> simp [faultOf?, h]
  simp only [← unresolved?_eq_none_iff, ← hfault]
  rw [← find?_isSome, fault?, Schema.root?]
  cases s.find? s.queryType <;> simp

/-- The checks before planning find nothing wrong with a well-formed schema. -/
theorem fault?_eq_none (hw : s.WellFormed) : fault? s = none :=
  fault?_eq_none_iff.2 ⟨hw.queryType_mem, fun t ht =>
    ⟨(hw.types_wellFormed t ht).fields_ne_nil, hw.resolved t ht⟩⟩

/-- The names that are chosen for a schema fit its types. -/
theorem chooseNames_fits_of_keyed (hk : s.Keyed) : (chooseNames s.objects).Fits s.objects := by
  refine chooseNames_fits ?_
  rw [map_name_objects hk]
  exact hk.keys_nodup

/-- Names are chosen for every key of a schema. -/
theorem exists_names_of_keyed (hk : s.Keyed) {n : String} (h : n ∈ s.types.names) :
    ∃ own, (chooseNames s.objects).types.get? n = some own := by
  refine Table.exists_get? ?_
  rw [(chooseNames_fits_of_keyed hk).keys, map_name_objects hk]
  exact h

theorem exists_names (hw : s.WellFormed) {n : String} (h : n ∈ s.types.names) :
    ∃ own, (chooseNames s.objects).types.get? n = some own :=
  exists_names_of_keyed hw.keyed h

theorem exists_names_of_mem (hw : s.WellFormed) {t : ObjectType} (h : t ∈ s.objects) :
    ∃ own, (chooseNames s.objects).types.get? t.name = some own := by
  refine exists_names hw ?_
  rw [← map_name_objects hw.keyed]
  exact List.mem_map_of_mem h

theorem exists_target (hk : s.Keyed) {f : Field}
    (hf : f.type.scalar?.isSome ∨ f.type.target ∈ s.types.names) :
    ∃ r, target? (chooseNames s.objects).types f.type = .ok r := by
  unfold target?
  split
  · exact ⟨_, rfl⟩
  · rename_i hnone
    rcases hf with h | h
    · rw [hnone] at h
      cases h
    · obtain ⟨own, ho⟩ := exists_names_of_keyed hk h
      rw [ho]
      exact ⟨_, rfl⟩

/-- A schema that passes the checks can be planned. -/
theorem exists_ofSchema_of_keyed (hk : s.Keyed) (hfault : fault? s = none) :
    ∃ plan, ofSchema s = .ok plan := by
  have hown : ∀ t ∈ s.objects, ∃ own, (chooseNames s.objects).types.get? t.name = some own :=
    fun t ht => exists_names_of_keyed hk (map_name_objects hk ▸ List.mem_map_of_mem ht)
  obtain ⟨ps, hps⟩ := exists_planTypes s (chooseNames s.objects).taken hown fun t ht f hf =>
    exists_target hk (((fault?_eq_none_iff.1 hfault).2 t ht).2 f hf)
  refine ⟨⟨(chooseNames s.objects).params, ps⟩, ?_⟩
  rw [ofSchema, hfault]
  simp only [bind_eq_ok, pure_eq_ok]
  exact ⟨ps, hps, rfl⟩

/-- A well-formed schema can be planned. -/
theorem exists_ofSchema (hw : s.WellFormed) : ∃ plan, ofSchema s = .ok plan :=
  exists_ofSchema_of_keyed hw.keyed (fault?_eq_none hw)

/-- What a plan is made of. -/
theorem ofSchema_eq_ok {plan : Plan} (h : ofSchema s = .ok plan) :
    plan.params = (chooseNames s.objects).params ∧
      planTypes s (chooseNames s.objects) (chooseNames s.objects).taken s.objects =
        .ok plan.types := by
  rw [ofSchema] at h
  split at h
  · cases h
  · simp only [bind_eq_ok, pure_eq_ok] at h
    obtain ⟨ps, hps, rfl⟩ := h
    exact ⟨rfl, hps⟩

theorem aligned_of_ofSchema {plan : Plan} (h : ofSchema s = .ok plan) :
    Aligned (fun _ => TypePlan.Of s (chooseNames s.objects)) s.objects plan.types :=
  planTypes_aligned (ofSchema_eq_ok h).2

theorem map_name_types {plan : Plan} (h : ofSchema s = .ok plan) :
    plan.types.map TypePlan.name = s.objects.map ObjectType.name :=
  (aligned_of_ofSchema h).map_eq_map fun _ _ _ hp => hp.name

/-- Exactly one planned type is the query root. -/
theorem countP_isRoot (hw : s.WellFormed) {plan : Plan} (h : ofSchema s = .ok plan) :
    plan.types.countP TypePlan.isRoot = 1 := by
  have hroots : plan.types.map TypePlan.isRoot =
      s.objects.map fun t => t.name == s.queryType :=
    (aligned_of_ofSchema h).map_eq_map fun _ _ _ hp => hp.isRoot
  calc plan.types.countP TypePlan.isRoot
      = (plan.types.map TypePlan.isRoot).countP id := by rw [List.countP_map]; rfl
    _ = (s.objects.map ObjectType.name).count s.queryType := by
        rw [hroots, List.countP_map, List.count, List.countP_map]; rfl
    _ = 1 := by
        rw [map_name_objects hw.keyed]
        have hpos : 0 < s.types.names.count s.queryType := List.count_pos_iff.2 hw.queryType_mem
        have hle : s.types.names.count s.queryType ≤ 1 := List.nodup_iff_count.1 hw.keys_nodup _
        omega

end Plan

end TypedQuery.Client

namespace TypedQuery.Collector

open TypedQuery.Client

/-- **Every schema that was ever built.** Whatever sources were added before it, in whatever order,
accepted or refused halfway: a schema that a collector builds is well formed. So the checks before
planning find nothing wrong, every look-up of chosen names finds them, the schema can be planned,
and exactly one planned type is the query root. -/
theorem plannable_of_mem_built (calls : List Call) (s : Schema) (h : s ∈ built {} calls) :
    s.WellFormed ∧ Plan.fault? s = none ∧
      (∀ t ∈ s.objects, ((Plan.chooseNames s.objects).types.get? t.name).isSome ∧
        ∀ f ∈ t.fields, f.type.scalar? = none →
          ((Plan.chooseNames s.objects).types.get? f.type.target).isSome) ∧
      ∃ plan, Plan.ofSchema s = .ok plan ∧ plan.types.countP TypePlan.isRoot = 1 := by
  have hw := wellFormed_of_mem_built h
  refine ⟨hw, Plan.fault?_eq_none hw, fun t ht => ⟨?_, fun f hf hnone => ?_⟩, ?_⟩
  · exact Option.isSome_iff_exists.2 (Plan.exists_names_of_mem hw ht)
  · rcases hw.resolved t ht f hf with hs | hm
    · rw [hnone] at hs
      cases hs
    · exact Option.isSome_iff_exists.2 (Plan.exists_names hw hm)
  · obtain ⟨plan, hp⟩ := Plan.exists_ofSchema hw
    exact ⟨plan, hp, Plan.countP_isRoot hw hp⟩

/-- A source that breaks off after its first type, and a schema built from what it leaves behind. -/
theorem plannable_after_refused_source :
    ∃ s, built {} [.addSource "a" "type Query \x7b q: [Query!]! \x7d type", .build] = [s] ∧
      s.WellFormed ∧ Plan.fault? s = none ∧
      (∀ t ∈ s.objects, ((Plan.chooseNames s.objects).types.get? t.name).isSome ∧
        ∀ f ∈ t.fields, f.type.scalar? = none →
          ((Plan.chooseNames s.objects).types.get? f.type.target).isSome) ∧
      ∃ plan, Plan.ofSchema s = .ok plan ∧ plan.types.countP TypePlan.isRoot = 1 := by
  let query : ObjectType :=
    { name := "Query"
      fields := [⟨"q", .nonNull (.list (.nonNull (.named "Query"))), none, some ⟨"a", 1, 14⟩⟩]
      location := some ⟨"a", 1, 1⟩ }
  have hbuilt : built {} [.addSource "a" "type Query \x7b q: [Query!]! \x7d type", .build] =
      [⟨[("Query", query)], "Query"⟩] := by decide +kernel
  exact ⟨_, hbuilt, plannable_of_mem_built _ _ (hbuilt ▸ List.mem_singleton_self _)⟩

end TypedQuery.Collector
