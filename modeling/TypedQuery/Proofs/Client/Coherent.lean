import Mathlib.Data.List.Nodup
import TypedQuery.Proofs.Client.Planning
import TypedQuery.Text.Unified

/-!
# Coherent plans

What the parts of a generated module rely on, said of the plan alone: names are declared once, each
type has one type parameter per field, markers stand at the place of their field, and a field of an
object type refers to a planned type.

* `Plan.Coherent`: these facts.
* `Plan.coherent_of_ofSchema`: the plan of a well-formed schema has them.
-/

namespace TypedQuery

/-! ## ASCII -/

/-- All characters of a text are ASCII. Such a text is its own unified form. -/
def IsAscii (s : String) : Prop := s.toList.all (·.toNat < 128) = true

instance (s : String) : Decidable (IsAscii s) :=
  inferInstanceAs (Decidable (s.toList.all (·.toNat < 128) = true))

theorem isAscii_iff {s : String} : IsAscii s ↔ ∀ c ∈ s.toList, c.toNat < 128 := by
  simp [IsAscii]

theorem Text.unify_of_isAscii {s : String} (h : IsAscii s) : Text.unify s = s := if_pos h

theorem IsAscii.append {s t : String} (hs : IsAscii s) (ht : IsAscii t) : IsAscii (s ++ t) := by
  rw [IsAscii, String.toList_append, List.all_append, hs, ht]
  rfl

/-- What can be checked for each code below 128 holds of each ASCII character. -/
theorem forall_ascii {P : Char → Prop} (h : ∀ n < 128, P (Char.ofNat n)) :
    ∀ c : Char, c.toNat < 128 → P c := by
  intro c hc
  have hp := h c.toNat hc
  rwa [Char.ofNat_toNat] at hp

theorem toNat_lt_of_isNameChar {c : Char} (h : Lexeme.isNameChar c = true) : c.toNat < 128 := by
  simp only [Lexeme.isNameChar, Lexeme.isNameStart, Bool.or_eq_true, Bool.and_eq_true, beq_iff_eq,
    decide_eq_true_eq] at h
  rcases h with ((rfl | ⟨-, h⟩) | ⟨-, h⟩) | ⟨-, h⟩
  · decide
  all_goals
    have hle := UInt32.le_iff_toNat_le.1 (Char.le_def.1 h)
    exact Nat.lt_of_le_of_lt hle (by decide)

theorem IsName.isAscii {n : String} (h : IsName n) : IsAscii n := by
  obtain ⟨c, cs, hn, hc, hcs⟩ := h
  refine isAscii_iff.2 fun d hd => ?_
  rw [hn] at hd
  rcases List.mem_cons.1 hd with rfl | hd
  · exact toNat_lt_of_isNameChar (by rw [Lexeme.isNameChar, hc]; rfl)
  · exact toNat_lt_of_isNameChar (hcs d hd)

namespace Client

theorem Names.Pads.isAscii {wanted name : String} (h : Pads wanted name) (hw : IsAscii wanted) :
    IsAscii name := by
  obtain ⟨k, rfl⟩ := h
  refine hw.append (isAscii_iff.2 fun c hc => ?_)
  rw [String.toList_ofList] at hc
  rw [List.eq_of_mem_replicate hc]
  decide

theorem toNat_toUpper_lt : ∀ c : Char, c.toNat < 128 → c.toUpper.toNat < 128 :=
  forall_ascii (by decide)

theorem mem_of_mem_splitWhere {p : Char → Bool} {cs part : List Char} {c : Char}
    (h : part ∈ Text.splitWhere p cs) (hc : c ∈ part) : c ∈ cs := by
  induction cs generalizing part with
  | nil =>
    rw [Text.splitWhere, List.mem_singleton] at h
    rw [h] at hc
    cases hc
  | cons d cs ih =>
    rw [Text.splitWhere] at h
    split at h
    · rcases List.mem_cons.1 h with rfl | h
      · cases hc
      · exact List.mem_cons_of_mem _ (ih h hc)
    · split at h
      · rw [List.mem_singleton.1 h] at hc
        rw [List.mem_singleton.1 hc]
        exact List.mem_cons_self ..
      · rename_i first parts hsplit
        rcases List.mem_cons.1 h with rfl | h
        · rcases List.mem_cons.1 hc with rfl | hc
          · exact List.mem_cons_self ..
          · exact List.mem_cons_of_mem _ (ih (hsplit ▸ List.mem_cons_self ..) hc)
        · exact List.mem_cons_of_mem _ (ih (hsplit ▸ List.mem_cons_of_mem _ h) hc)

theorem isAscii_pascalCase {name : String} (h : IsAscii name) : IsAscii (pascalCase name) := by
  simp only [pascalCase]
  split
  · decide
  · refine isAscii_iff.2 fun c hc => ?_
    rw [String.toList_ofList, List.mem_flatMap] at hc
    obtain ⟨part, hpart, hc⟩ := hc
    have hold : ∀ d ∈ part, d.toNat < 128 := fun d hd =>
      isAscii_iff.1 h d (mem_of_mem_splitWhere hpart hd)
    cases part with
    | nil => cases hc
    | cons d ds =>
      have hd : d.toNat < 128 := hold d (List.mem_cons_self ..)
      rcases List.mem_append.1 hc with hc | hc
      · rw [Text.capital, if_pos hd, List.mem_singleton] at hc
        rw [hc]
        exact toNat_toUpper_lt d hd
      · exact hold c (List.mem_cons_of_mem _ hc)

/-! ## Plans -/

/-- The names that a module declares: namespaces, response wrappers, builders, type variables, and
the token and accessor classes of fields. -/
def Plan.declared (plan : Plan) : List String :=
  plan.types.map (·.names.tokens) ++ (plan.types.map (·.names.response) ++
    (plan.types.map (·.names.builder) ++ (plan.types.map (·.names.bound) ++
    (plan.params ++ plan.types.flatMap fun t => Plan.classNames t.fields))))

/-- The names of a planned type and of its fields are ASCII. -/
structure TypePlan.Ascii (t : TypePlan) : Prop where
  tokens : IsAscii t.names.tokens
  response : IsAscii t.names.response
  builder : IsAscii t.names.builder
  attr : ∀ f ∈ t.fields, IsAscii f.attr
  tokenClass : ∀ f ∈ t.fields, IsAscii f.tokenClass
  accessorClass : ∀ f ∈ t.fields, IsAscii f.accessorClass

/-- What the parts of a module rely on. -/
structure Plan.Coherent (plan : Plan) : Prop where
  names_nodup : (plan.types.map TypePlan.name).Nodup
  declared_nodup : (plan.declared ++ Plan.reserved).Nodup
  ascii : ∀ t ∈ plan.types, t.Ascii
  fields_nodup : ∀ t ∈ plan.types, (t.fields.map FieldPlan.name).Nodup
  attrs_nodup : ∀ t ∈ plan.types, (t.fields.map FieldPlan.attr).Nodup
  params : ∀ t ∈ plan.types, t.params = plan.params.take t.fields.length
  params_length : ∀ t ∈ plan.types, t.params.length = t.fields.length
  owner : ∀ t ∈ plan.types, ∀ i f, t.fields[i]? = some f →
    f.owner = (t.params.map fun _ => Marker.any).set i f.target.marker
  result : ∀ t ∈ plan.types, ∀ i f, t.fields[i]? = some f →
    f.result = (t.params.map Marker.param).set i f.target.marker
  /-- The type of an object field is planned too. -/
  target : ∀ t ∈ plan.types, ∀ f ∈ t.fields, ∀ n names, f.target = .object n names →
    ∃ u ∈ plan.types, u.name = n ∧ u.names = names

namespace Plan

variable {s : Schema} {plan : Plan}

/-- What the distinct names of a module come down to for each kind of them. -/
theorem Coherent.distinct (hc : plan.Coherent) :
    (plan.types.map (·.names.tokens)).Nodup ∧ (plan.types.map (·.names.response)).Nodup ∧
      (plan.types.map (·.names.builder)).Nodup ∧ plan.params.Nodup ∧
      (plan.types.flatMap fun t => classNames t.fields).Nodup ∧
      ∀ u ∈ plan.types, u.names.bound ∉ plan.params := by
  have h := hc.declared_nodup
  simp only [declared, List.nodup_append] at h
  obtain ⟨⟨htokens, ⟨hresponses, ⟨hbuilders, ⟨-, ⟨hparams, hclasses, -⟩, hbounds⟩, -⟩, -⟩, -⟩,
    -⟩ := h
  refine ⟨htokens, hresponses, hbuilders, hparams, hclasses, fun u hu hmem => ?_⟩
  exact hbounds _ (List.mem_map_of_mem hu) _ (List.mem_append_left _ hmem) rfl

/-- A planned type is known by its name. -/
theorem Coherent.type_unique (hc : plan.Coherent) {t u : TypePlan} (ht : t ∈ plan.types)
    (hu : u ∈ plan.types) (h : t.name = u.name) : t = u :=
  List.inj_on_of_nodup_map hc.names_nodup ht hu h

/-- A planned field is known by its name. -/
theorem Coherent.field_unique (hc : plan.Coherent) {t : TypePlan} (ht : t ∈ plan.types)
    {f g : FieldPlan} (hf : f ∈ t.fields) (hg : g ∈ t.fields) (h : f.name = g.name) : f = g :=
  List.inj_on_of_nodup_map (hc.fields_nodup t ht) hf hg h

theorem sublist_classNames (fs : List FieldPlan) :
    (fs.map FieldPlan.tokenClass).Sublist (classNames fs) := by
  induction fs with
  | nil => exact .slnil
  | cons f fs ih => exact (ih.cons _).cons_cons _

/-- No two fields have the same token class. -/
theorem Coherent.tokenClass_nodup (hc : plan.Coherent) {t : TypePlan} (ht : t ∈ plan.types) :
    (t.fields.map FieldPlan.tokenClass).Nodup := by
  obtain ⟨-, -, -, -, hclasses, -⟩ := hc.distinct
  exact (sublist_classNames t.fields).nodup ((List.nodup_flatMap.1 hclasses).1 t ht)

/-- The names that were chosen for types are those of the planned types. -/
theorem map_names_types (hk : s.Keyed) (h : ofSchema s = .ok plan) :
    plan.types.map TypePlan.names = (chooseNames s.objects).types.values := by
  have hkeys := (chooseNames_fits_of_keyed hk).keys
  have hnodup : (chooseNames s.objects).types.names.Nodup := by
    rw [hkeys, map_name_objects hk]
    exact hk.keys_nodup
  have hsome : (plan.types.map TypePlan.names).map some =
      (chooseNames s.objects).types.values.map some := by
    calc (plan.types.map TypePlan.names).map some
        = s.objects.map (fun t => (chooseNames s.objects).types.get? t.name) := by
          rw [List.map_map]
          exact (aligned_of_ofSchema h).map_eq_map fun _ _ _ hp => hp.names_eq.symm
      _ = (chooseNames s.objects).types.names.map (chooseNames s.objects).types.get? := by
          rw [hkeys, List.map_map]
          rfl
      _ = (chooseNames s.objects).types.values.map some := Table.map_get?_names hnodup
  exact List.map_inj_right (fun _ _ => Option.some.inj) |>.1 hsome

/-- No name is declared twice, and none is a keyword or one that the module relies on. -/
theorem apart_declared (hk : s.Keyed) (h : ofSchema s = .ok plan) :
    Names.Apart (plan.declared ++ reserved) := by
  obtain ⟨hparams, htypes⟩ := ofSchema_eq_ok h
  have hfits := chooseNames_fits_of_keyed hk
  have hall := apart_planTypes htypes hfits.taken_apart
  rw [hfits.taken, ← map_names_types hk h, ← hparams] at hall
  refine hall.perm (List.perm_iff_count.2 fun n => ?_)
  simp only [declared, List.map_map, List.count_append, List.count_reverse, Function.comp_def]
  omega

theorem ascii_of_of {t : ObjectType} {p : TypePlan} (ht : t.WellFormed)
    (hnames : p.names.Of t.name) (hp : p.Of s (chooseNames s.objects) t) : p.Ascii := by
  have hname : IsAscii t.name := ht.isName.isAscii
  have hfield : ∀ q ∈ p.fields, ∃ f ∈ t.fields, IsAscii f.name ∧
      ∃ i, q.Of (chooseNames s.objects).types t.name p.params i f := fun q hq => by
    obtain ⟨i, f, hf, -, hof⟩ := hp.fields.exists_of_mem_right hq
    have hmem := List.mem_of_getElem? hf
    exact ⟨f, hmem, (ht.fields_isName f hmem).isAscii, i, hof⟩
  have hstem : ∀ f : Field, IsAscii f.name → IsAscii ("_" ++ t.name ++ pascalCase f.name) :=
    fun f hf => (IsAscii.append (by decide) hname).append (isAscii_pascalCase hf)
  refine ⟨hnames.tokens.isAscii hname, hnames.response.isAscii (hname.append (by decide)),
    hnames.builder.isAscii (hname.append (by decide)), ?_, ?_, ?_⟩
  · intro q hq
    obtain ⟨f, -, hf, i, hof⟩ := hfield q hq
    refine hof.attr.isAscii ?_
    unfold wantedAttribute
    split
    · exact hf.append (by decide)
    · exact hf
  · intro q hq
    obtain ⟨f, -, hf, i, hof⟩ := hfield q hq
    exact hof.tokenClass.isAscii ((hstem f hf).append (by decide))
  · intro q hq
    obtain ⟨f, -, hf, i, hof⟩ := hfield q hq
    exact hof.accessorClass.isAscii ((hstem f hf).append (by decide))

/-- A field of an object type refers to the plan of that type. -/
theorem exists_target_type (hk : s.Keyed) (h : ofSchema s = .ok plan) {r : TypeRef}
    {n : String} {names : TypeNames}
    (ht : target? (chooseNames s.objects).types r = .ok (.object n names)) :
    ∃ u ∈ plan.types, u.name = n ∧ u.names = names := by
  unfold target? at ht
  split at ht
  · cases ht
  · split at ht
    · rename_i own hown
      cases ht
      have hmem : r.target ∈ s.objects.map ObjectType.name := by
        rw [← (chooseNames_fits_of_keyed hk).keys]
        exact Table.get?_isSome.1 (by rw [hown]; rfl)
      obtain ⟨o, ho, hname⟩ := List.mem_map.1 hmem
      obtain ⟨i, u, -, hu, hof⟩ := (aligned_of_ofSchema h).exists_of_mem_left ho
      refine ⟨u, List.mem_of_getElem? hu, hof.name.trans hname, ?_⟩
      have hsame := hof.names_eq
      rw [hname, hown] at hsame
      exact (Option.some.inj hsame).symm
    · cases ht

/-- The plan of a well-formed schema is coherent. -/
theorem coherent_of_ofSchema (hw : s.WellFormed) (h : ofSchema s = .ok plan) : plan.Coherent := by
  have hfits := chooseNames_fits_of_keyed hw.keyed
  have htype : ∀ p ∈ plan.types, ∃ t ∈ s.objects, p.Of s (chooseNames s.objects) t := by
    intro p hp
    obtain ⟨i, t, ht, -, hof⟩ := (aligned_of_ofSchema h).exists_of_mem_right hp
    exact ⟨t, List.mem_of_getElem? ht, hof⟩
  have hlength : ∀ p ∈ plan.types, p.params = plan.params.take p.fields.length ∧
      p.fields.length ≤ plan.params.length := by
    intro p hp
    obtain ⟨t, ht, hof⟩ := htype p hp
    rw [hof.params, (ofSchema_eq_ok h).1, hof.fields.length_eq]
    exact ⟨rfl, hfits.length_le t ht⟩
  refine ⟨?_, (apart_declared hw.keyed h).nodup, ?_, ?_, ?_, fun p hp => (hlength p hp).1, ?_, ?_,
    ?_, ?_⟩
  · rw [map_name_types h, map_name_objects hw.keyed]
    exact hw.keys_nodup
  · intro p hp
    obtain ⟨t, ht, hof⟩ := htype p hp
    exact ascii_of_of (hw.types_wellFormed t ht)
      (hfits.of _ _ (Table.mem_of_get? hof.names_eq)) hof
  · intro p hp
    obtain ⟨t, ht, hof⟩ := htype p hp
    have hnames : p.fields.map FieldPlan.name = t.fields.map Field.name :=
      hof.fields.map_eq_map fun _ _ _ hf => hf.name
    rw [hnames]
    exact (hw.types_wellFormed t ht).fields_nodup
  · intro p hp
    obtain ⟨t, -, hof⟩ := htype p hp
    exact hof.attrs.nodup
  · intro p hp
    obtain ⟨hp, hle⟩ := hlength p hp
    rw [hp, List.length_take]
    omega
  · intro p hp i q hq
    obtain ⟨t, -, hof⟩ := htype p hp
    obtain ⟨f, -, hf⟩ := hof.fields.exists_left hq
    exact hf.owner
  · intro p hp i q hq
    obtain ⟨t, -, hof⟩ := htype p hp
    obtain ⟨f, -, hf⟩ := hof.fields.exists_left hq
    exact hf.result
  · intro p hp q hq n names htarget
    obtain ⟨t, -, hof⟩ := htype p hp
    obtain ⟨i, f, -, -, hf⟩ := hof.fields.exists_of_mem_right hq
    have hok := hf.target
    rw [htarget] at hok
    exact exists_target_type hw.keyed h hok

/-! ## Types and their plans -/

/-- `p` is the plan of the type `o` in the plan of the schema `s`. -/
structure Pairs (s : Schema) (plan : Plan) (o : ObjectType) (p : TypePlan) : Prop where
  object : o ∈ s.objects
  type : p ∈ plan.types
  of : p.Of s (chooseNames s.objects) o

theorem exists_pairs (h : ofSchema s = .ok plan) {p : TypePlan} (hp : p ∈ plan.types) :
    ∃ o, Pairs s plan o p := by
  obtain ⟨i, o, ho, -, hof⟩ := (aligned_of_ofSchema h).exists_of_mem_right hp
  exact ⟨o, List.mem_of_getElem? ho, hp, hof⟩

/-- A type of a schema is known by its name. -/
theorem object_unique (hw : s.WellFormed) {o u : ObjectType} (ho : o ∈ s.objects)
    (hu : u ∈ s.objects) (h : o.name = u.name) : o = u := by
  refine List.inj_on_of_nodup_map ?_ ho hu h
  rw [map_name_objects hw.keyed]
  exact hw.keys_nodup

namespace Pairs

variable {o : ObjectType} {p : TypePlan}

theorem map_name_fields (h : Pairs s plan o p) :
    p.fields.map FieldPlan.name = o.fields.map Field.name :=
  h.of.fields.map_eq_map fun _ _ _ hf => hf.name

theorem exists_field (h : Pairs s plan o p) {f : FieldPlan} (hf : f ∈ p.fields) :
    ∃ g ∈ o.fields, ∃ i, f.Of (chooseNames s.objects).types o.name p.params i g := by
  obtain ⟨i, g, hg, -, hof⟩ := h.of.fields.exists_of_mem_right hf
  exact ⟨g, List.mem_of_getElem? hg, i, hof⟩

theorem exists_plan (h : Pairs s plan o p) {g : Field} (hg : g ∈ o.fields) :
    ∃ f ∈ p.fields, ∃ i, f.Of (chooseNames s.objects).types o.name p.params i g := by
  obtain ⟨i, f, -, hf, hof⟩ := h.of.fields.exists_of_mem_left hg
  exact ⟨f, List.mem_of_getElem? hf, i, hof⟩

end Pairs

end Plan

namespace FieldPlan.Of

variable {names : Table TypeNames} {type : String} {params : List String} {i : Nat} {f : Field}
  {p : FieldPlan}

/-- A field is planned as a scalar or as an object, as its type says. -/
theorem target_cases (h : p.Of names type params i f) :
    (∃ k, f.type.scalar? = some k ∧ p.target = .scalar k) ∨
      (f.type.scalar? = none ∧ ∃ own, p.target = .object f.type.target own) := by
  have ht := h.target
  unfold Plan.target? at ht
  split at ht
  · rename_i k hk
    exact .inl ⟨k, hk, (Except.ok.inj ht).symm⟩
  · rename_i hnone
    split at ht
    · rename_i own _
      exact .inr ⟨hnone, own, (Except.ok.inj ht).symm⟩
    · cases ht

theorem isObject_eq (h : p.Of names type params i f) :
    p.target.isObject = f.type.scalar?.isNone := by
  rcases h.target_cases with ⟨k, hk, ht⟩ | ⟨hnone, own, ht⟩
  · rw [ht, hk]
    rfl
  · rw [ht, hnone]
    rfl

theorem target_of_object (h : p.Of names type params i f) {n : String} {own : TypeNames}
    (ht : p.target = .object n own) : f.type.target = n := by
  rcases h.target_cases with ⟨k, -, hk⟩ | ⟨-, own', hown⟩
  · rw [hk] at ht
    cases ht
  · rw [hown] at ht
    cases ht
    rfl

end FieldPlan.Of

/-- In a coherent plan, a field that is no scalar refers to the plan of its type. -/
theorem Plan.Coherent.target_cases {plan : Plan} (hc : plan.Coherent) {t : TypePlan}
    (ht : t ∈ plan.types) {f : FieldPlan} (hf : f ∈ t.fields) {names : Table TypeNames}
    {type : String} {params : List String} {i : Nat} {g : Field}
    (h : f.Of names type params i g) :
    (∃ k, g.type.scalar? = some k ∧ f.target = .scalar k) ∨
      (g.type.scalar? = none ∧ ∃ u ∈ plan.types, u.name = g.type.target ∧
        f.target = .object u.name u.names) := by
  rcases h.target_cases with hscalar | ⟨hnone, own, hown⟩
  · exact .inl hscalar
  · obtain ⟨u, hu, hname, rfl⟩ := hc.target t ht f hf _ _ hown
    exact .inr ⟨hnone, u, hu, hname, by rw [hown, hname]⟩

end Client

end TypedQuery
