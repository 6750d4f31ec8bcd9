import TypedQuery.Client.Attribute
import TypedQuery.Proofs.Client.Coherent
import TypedQuery.Proofs.Query.Typing

/-!
# Calls of a module

A caller of a generated module starts with the empty builder of a type and selects fields by their
tokens, with sub-selections that were made in the same way. A `Chain` says how, and `Chain.run` does
it. Whatever the calls are, what they select fits the schema.

* `Module.exists_of_token`, `Module.empty_eq_ok`: the tokens and builders that a module holds.
* `Chain.run_empty`, `Chain.run_select`, `Chain.run_selectWith`: what each call gives.
* `Chain.selects_of_run`: what a chain of calls selects.
-/

namespace TypedQuery.Client

/-! ## What a module holds -/

/-- The accessor classes of a module. -/
def Plan.accessorClasses (plan : Plan) : List String :=
  plan.types.flatMap fun t => t.fields.map fun f => Text.unify f.accessorClass

/-- The token classes of a module, with their tokens. -/
def Plan.tokenTable (plan : Plan) : Table FieldToken :=
  Table.ofList (plan.types.flatMap fun t => t.fields.map fun f =>
    (Text.unify f.tokenClass, f.token t))

theorem Plan.exists_of_mem_tokenTable {plan : Plan} {e : String × FieldToken}
    (h : e ∈ plan.tokenTable) : ∃ t ∈ plan.types, ∃ f ∈ t.fields, e.2 = f.token t := by
  obtain ⟨t, ht, he⟩ := List.mem_flatMap.1 (Table.mem_ofList h)
  obtain ⟨f, hf, rfl⟩ := List.mem_map.1 he
  exact ⟨t, ht, f, hf, rfl⟩

namespace Module

variable {plan : Plan} {m : Module}

/-- What running the declarations of a plan makes. -/
theorem ofPlan_eq_ok (h : ofPlan plan = .ok m) : ∃ responses spaces,
    Aligned (fun _ t e => ∃ as, runResponse plan.accessorClasses t = .ok as ∧
      e = (Text.unify t.names.response, as)) plan.types responses ∧
    Aligned (fun _ t e => ∃ as, runTokens plan.tokenTable t = .ok as ∧
      e = (Text.unify t.names.tokens, as)) plan.types spaces ∧
    m = ⟨plan, .ofList responses, .ofList spaces,
      .ofList (plan.types.map fun t => (Text.unify t.names.builder, t.builderClass))⟩ := by
  simp only [ofPlan, bind_eq_ok, mapM_eq_ok, pure_eq_ok] at h
  obtain ⟨responses, hresponses, builders, hbuilders, spaces, hspaces, rfl⟩ := h
  have hb : builders = plan.types.map fun t => (Text.unify t.names.builder, t.builderClass) := by
    have := hbuilders.map_eq_map (f := fun t => (Text.unify t.names.builder, t.builderClass))
      (g := id) fun _ t e ⟨_, _, he⟩ => he.symm
    rwa [List.map_id] at this
  rw [hb]
  refine ⟨responses, spaces, hresponses.mono ?_, hspaces.mono ?_, rfl⟩
  · rintro _ t e ⟨as, has, rfl⟩
    exact ⟨as, has, rfl⟩
  · rintro _ t e ⟨as, has, rfl⟩
    exact ⟨as, has, rfl⟩

theorem plan_of_ofPlan (h : ofPlan plan = .ok m) : m.plan = plan := by
  obtain ⟨_, _, -, -, rfl⟩ := ofPlan_eq_ok h
  rfl

theorem mem_of_type? (h : ofPlan plan = .ok m) {type : String} {t : TypePlan}
    (ht : m.type? type = some t) : t ∈ plan.types ∧ t.name = type := by
  unfold type? at ht
  rw [plan_of_ofPlan h] at ht
  refine ⟨List.mem_reverse.1 (List.mem_of_find?_eq_some ht), ?_⟩
  simpa using List.find?_some ht

theorem type?_of_mem (hc : plan.Coherent) (h : ofPlan plan = .ok m) {t : TypePlan}
    (ht : t ∈ plan.types) : m.type? t.name = some t := by
  have hsome : (m.type? t.name).isSome := by
    unfold type?
    rw [plan_of_ofPlan h, List.find?_isSome]
    exact ⟨t, List.mem_reverse.2 ht, by simp⟩
  obtain ⟨u, hu⟩ := Option.isSome_iff_exists.1 hsome
  obtain ⟨hmem, hname⟩ := mem_of_type? h hu
  rw [hu, hc.type_unique hmem ht hname]

end Module

/-! ### Tokens -/

/-- A namespace holds only tokens of the module. -/
theorem exists_of_runTokens {classes : Table FieldToken} {t : TypePlan}
    {attributes : Table FieldToken} (h : runTokens classes t = .ok attributes) :
    ∀ e ∈ attributes, ∃ n, (n, e.2) ∈ classes := by
  simp only [runTokens, bind_eq_ok, pure_eq_ok] at h
  obtain ⟨b, hb, rfl⟩ := h
  refine foldlM_induction (P := fun b : ClassBody FieldToken =>
    ∀ e ∈ b.attributes, ∃ n, (n, e.2) ∈ classes) ?_ hb (by simp)
  intro b f _ b' hf hold e he
  simp only [runTokenLine] at hf
  split at hf
  · cases hf
  · split at hf
    · rename_i x hx
      cases hf
      rcases Table.mem_put he with he | rfl
      · exact hold e he
      · exact ⟨_, Table.mem_of_get? hx⟩
    · cases hf

theorem ClassKind.trait?_ne_token (kind : ClassKind) (className name : String) (t : FieldToken) :
    kind.trait? className name ≠ some (.token t) := by
  unfold trait?
  split <;> simp

namespace Module

variable {plan : Plan} {m : Module}

/-- A token that a caller finds in a module is the token of a planned field. -/
theorem exists_of_token (h : ofPlan plan = .ok m) {t : TypePlan} {f : FieldPlan} {tok : FieldToken}
    (ht : m.token t f = .ok (.token tok)) :
    ∃ u ∈ plan.types, ∃ g ∈ u.fields, tok = g.token u := by
  obtain ⟨_, spaces, -, hspaces, rfl⟩ := ofPlan_eq_ok h
  simp only [token, bind_eq_ok] at ht
  obtain ⟨attributes, hmember, hclass⟩ := ht
  have hattrs : (t.names.tokens, attributes) ∈ Table.ofList spaces := by
    unfold member at hmember
    split at hmember
    · cases hmember
      exact Table.mem_of_get? ‹_›
    · cases hmember
  obtain ⟨_, u, -, -, as, has, he⟩ := hspaces.exists_of_mem_right (Table.mem_ofList hattrs)
  obtain ⟨-, rfl⟩ := Prod.mk.inj he
  unfold classMember at hclass
  split at hclass
  · rename_i x htrait
    cases hclass
    exact absurd htrait (ClassKind.trait?_ne_token _ _ _ _)
  · rename_i x _ hget
    cases hclass
    obtain ⟨n, hn⟩ := exists_of_runTokens has _ (Table.mem_of_get? hget)
    exact Plan.exists_of_mem_tokenTable hn
  · cases hclass

/-! ### Builders -/

theorem builders_of_ofPlan (hc : plan.Coherent) (h : ofPlan plan = .ok m) :
    m.builders = plan.types.map fun t => (t.names.builder, t.builderClass) := by
  obtain ⟨_, _, -, -, rfl⟩ := ofPlan_eq_ok h
  have hascii : (plan.types.map fun t => (Text.unify t.names.builder, t.builderClass)) =
      plan.types.map fun t => (t.names.builder, t.builderClass) :=
    List.map_congr_left fun t ht => by rw [Text.unify_of_isAscii (hc.ascii t ht).builder]
  show Table.ofList _ = _
  rw [hascii]
  refine Table.ofList_of_nodup ?_
  rw [List.map_map]
  exact hc.distinct.2.2.1

/-- The empty builder of a type. -/
theorem empty_eq_ok (hc : plan.Coherent) (h : ofPlan plan = .ok m) {t : TypePlan}
    (ht : t ∈ plan.types) : m.empty t = .ok (.empty t.builderClass) := by
  have hbuilders := builders_of_ofPlan hc h
  have hget : m.builders.get? t.names.builder = some t.builderClass := by
    rw [hbuilders]
    refine Table.get?_eq_some ?_ (List.mem_map.2 ⟨t, ht, rfl⟩)
    rw [Table.names, List.map_map]
    exact hc.distinct.2.2.1
  rw [empty, member, hget]
  rfl

end Module

/-! ## Selected fields -/

/-- A selected field is a scalar and stands alone, or it refers to the plan of the type that its
sub-selection is on. -/
theorem Plan.Pairs.selected_cases {s : Schema} {plan : Plan} (hc : plan.Coherent) {o : ObjectType}
    {t : TypePlan} (hp : Plan.Pairs s plan o t) {sel : Selection} (hsel : s.Selects o sel)
    {x : SelectedField} (hx : x ∈ sel.toList) {f : FieldPlan} (hf : f ∈ t.fields)
    (hname : f.name = x.name) :
    (∃ k, f.type.scalar? = some k ∧ f.target = .scalar k ∧ x.sub = none) ∨
      ∃ sub, ∃ u ∈ plan.types, x.sub = some sub ∧ u.name = sub.type ∧
        f.target = .object sub.type u.names := by
  obtain ⟨g, hg, i, hof⟩ := hp.exists_field hf
  have hgx : g.name = x.name := hof.name.symm.trans hname
  have hkind := hsel.sub_eq_none_iff hx hg hgx
  rcases hc.target_cases hp.type hf hof with ⟨k, hk, htarget⟩ | ⟨hnone, u, hu, huname, htarget⟩
  · rw [hof.type_eq]
    exact .inl ⟨k, hk, htarget, hkind.2 (by rw [hk]; rfl)⟩
  · rw [hnone] at hkind
    cases hsub : x.sub with
    | none => simp [hsub] at hkind
    | some sub =>
      have htype := (hsel.target_eq hx hsub hg hgx).1
      exact .inr ⟨sub, u, hu, rfl, huname.trans htype.symm, by rw [htarget, huname, htype]⟩

/-! ## Chains of calls -/

/-- How a caller comes to a builder. A field is given by its type and its name. -/
inductive Chain where
  /-- The empty builder of a type. -/
  | empty (type : String)
  /-- `select` with a token alone or, if `null` holds, with none as its sub-selection. -/
  | select (on : Chain) (type field : String) (null : Bool)
  /-- `select` with a token and a builder. -/
  | selectWith (on : Chain) (type field : String) (sub : Chain)
  deriving DecidableEq

namespace Chain

/-- The argument that a caller passes for a field. -/
def token? (m : Module) (type field : String) : Option SelectArgument := do
  let (t, f) ← m.field? type field
  let x ← (m.token t f).toOption
  return x.argument

/-- The builder that the calls give, if all of them succeed. -/
def run (m : Module) : Chain → Option Builder
  | .empty type => do
    let t ← m.type? type
    (m.empty t).toOption
  | .select on type field null => do
    let b ← on.run m
    let token ← token? m type field
    (b.select token (if null then some .none else none)).toOption
  | .selectWith on type field sub => do
    let b ← on.run m
    let token ← token? m type field
    let s ← sub.run m
    (b.select token (some (.builder s))).toOption

variable {plan : Plan} {m : Module}

theorem run_empty (hc : plan.Coherent) (h : Module.ofPlan plan = .ok m) {type : String}
    {b : Builder} (hb : (Chain.empty type).run m = some b) :
    ∃ t ∈ plan.types, m.type? type = some t ∧ b = .empty t.builderClass := by
  simp only [run, Option.bind_eq_bind, Option.bind_eq_some_iff] at hb
  obtain ⟨t, ht, hb⟩ := hb
  have hmem := (Module.mem_of_type? h ht).1
  rw [Module.empty_eq_ok hc h hmem] at hb
  exact ⟨t, hmem, ht, (Option.some.inj hb).symm⟩

/-- A token that a caller passes on is the token of a planned field. -/
theorem exists_of_token? (h : Module.ofPlan plan = .ok m) {type field : String} {tok : FieldToken}
    (ht : token? m type field = some (.token tok)) :
    ∃ t ∈ plan.types, ∃ f ∈ t.fields, tok = f.token t := by
  simp only [token?, Option.bind_eq_bind, Option.bind_eq_some_iff, Option.pure_def,
    Option.some.injEq, Prod.exists, toOption_eq_some] at ht
  obtain ⟨t, f, -, x, hx, harg⟩ := ht
  cases x with
  | token tok' =>
    cases harg
    exact Module.exists_of_token h hx
  | json v => cases v <;> cases harg
  | value v => cases v <;> cases harg
  | _ => cases harg

/-- What a call without a builder gives: one more scalar field. -/
theorem run_select (h : Module.ofPlan plan = .ok m) {on : Chain} {type field : String}
    {null : Bool} {b' : Builder} (hb : (Chain.select on type field null).run m = some b') :
    ∃ b, on.run m = some b ∧ ∃ t ∈ plan.types, ∃ f ∈ t.fields, t.name = b.cls.type ∧
      token? m type field = some (.token (f.token t)) ∧ f.target.isObject = false ∧
      b' = { b with fields := Builder.insert b.cls.order b.fields ⟨f.name, none⟩ } := by
  simp only [run, Option.bind_eq_bind, Option.bind_eq_some_iff, toOption_eq_some] at hb
  obtain ⟨b, hon, token, htoken, hselect⟩ := hb
  obtain ⟨tok, sub, rfl, htype, hpass, rfl⟩ := Builder.select_eq_ok hselect
  obtain ⟨t, ht, f, hf, rfl⟩ := exists_of_token? h htoken
  refine ⟨b, hon, t, ht, f, hf, htype, htoken, ?_⟩
  cases null with
  | false =>
    cases hpass with
    | scalar _ htarget _ => exact ⟨by simpa [FieldPlan.token] using htarget, rfl⟩
  | true =>
    cases hpass with
    | scalar _ htarget _ => exact ⟨by simpa [FieldPlan.token] using htarget, rfl⟩

/-- What a call with a builder gives: one more object field, with what the builder has selected. -/
theorem run_selectWith (h : Module.ofPlan plan = .ok m) {on sub : Chain} {type field : String}
    {b' : Builder} (hb : (Chain.selectWith on type field sub).run m = some b') :
    ∃ b q, on.run m = some b ∧ sub.run m = some q ∧ ∃ t ∈ plan.types, ∃ f ∈ t.fields,
      t.name = b.cls.type ∧ token? m type field = some (.token (f.token t)) ∧
      (∃ names, f.target = .object q.cls.type names) ∧ q.fields ≠ .nil ∧
      b' = { b with
        fields := Builder.insert b.cls.order b.fields ⟨f.name, some q.selectionSet⟩ } := by
  simp only [run, Option.bind_eq_bind, Option.bind_eq_some_iff, toOption_eq_some] at hb
  obtain ⟨b, hon, token, htoken, q, hsub, hselect⟩ := hb
  obtain ⟨tok, sub, rfl, htype, hpass, rfl⟩ := Builder.select_eq_ok hselect
  obtain ⟨t, ht, f, hf, rfl⟩ := exists_of_token? h htoken
  refine ⟨b, q, hon, hsub, t, ht, f, hf, htype, htoken, ?_⟩
  cases hpass with
  | scalar _ _ harg => cases harg
  | object _ htarget hne =>
    refine ⟨?_, hne, rfl⟩
    rcases hft : f.target with k | ⟨n, names⟩
    · simp [FieldPlan.token, hft, Target.isObject] at htarget
    · simp [FieldPlan.token, hft, Target.isObject, Target.name] at htarget
      exact ⟨names, by rw [htarget]⟩

/-- One more call keeps the selection fitting: the field is one of the builder's own type, and what
is passed for it is of the field's kind. -/
theorem selects_insert {s : Schema} (hw : s.WellFormed) (hc : plan.Coherent) {o : ObjectType}
    {p : TypePlan} (hp : Plan.Pairs s plan o p) {b : Builder} (hcls : b.cls = p.builderClass)
    (hsel : s.Selects o b.fields) {t : TypePlan} (ht : t ∈ plan.types)
    (htype : t.name = b.cls.type) {f : FieldPlan} (hf : f ∈ t.fields)
    {sub : Option SelectionSet} (hkind : sub = none ↔ f.target.isObject = false)
    (hsub : ∀ q, sub = some q → (∃ names, f.target = .object q.type names) ∧ q.fields ≠ .nil ∧
      ∀ u ∈ s.objects, u.name = q.type → s.Selects u q.fields) :
    s.Selects o (Builder.insert b.cls.order b.fields ⟨f.name, sub⟩) := by
  obtain rfl := hc.type_unique ht hp.type (htype.trans (by rw [hcls]; rfl))
  obtain ⟨g, hg, i, hof⟩ := hp.exists_field hf
  have horder : b.cls.order = o.fields.map Field.name := by
    rw [hcls, ← hp.map_name_fields]
    rfl
  rw [horder]
  refine hsel.insert (hw.types_wellFormed o hp.object) hg hof.name.symm ?_ fun q hq => ?_
  · rw [hof.isObject_eq] at hkind
    simpa using hkind
  · obtain ⟨⟨names, htarget⟩, hne, hinner⟩ := hsub q hq
    exact ⟨(hof.target_of_object htarget).symm, hne, hinner⟩

/-- Whatever the calls are, what they have selected fits the type of the builder. -/
theorem selects_of_run {s : Schema} (hw : s.WellFormed) (hs : Plan.ofSchema s = .ok plan)
    (h : Module.ofPlan plan = .ok m) {c : Chain} {b : Builder} (hb : c.run m = some b) :
    ∃ o p, Plan.Pairs s plan o p ∧ b.cls = p.builderClass ∧ s.Selects o b.fields := by
  have hc := Plan.coherent_of_ofSchema hw hs
  induction c generalizing b with
  | empty type =>
    obtain ⟨t, ht, -, rfl⟩ := run_empty hc h hb
    obtain ⟨o, hp⟩ := Plan.exists_pairs hs ht
    exact ⟨o, t, hp, rfl, .nil s o⟩
  | select on type field null ih =>
    obtain ⟨b, hon, t, ht, f, hf, htype, -, hscalar, rfl⟩ := run_select h hb
    obtain ⟨o, p, hp, hcls, hsel⟩ := ih hon
    refine ⟨o, p, hp, hcls, selects_insert hw hc hp hcls hsel ht htype hf ?_ nofun⟩
    simp [hscalar]
  | selectWith on type field sub ih ihsub =>
    obtain ⟨b, q, hon, hq, t, ht, f, hf, htype, -, htarget, hne, rfl⟩ := run_selectWith h hb
    obtain ⟨o, p, hp, hcls, hsel⟩ := ih hon
    obtain ⟨o', p', hp', hcls', hsel'⟩ := ihsub hq
    refine ⟨o, p, hp, hcls, selects_insert hw hc hp hcls hsel ht htype hf ?_ ?_⟩
    · obtain ⟨names, htarget⟩ := htarget
      simp [htarget, Target.isObject]
    · rintro _ ⟨⟩
      refine ⟨htarget, hne, fun u hu hname => ?_⟩
      -- The schema has one type of this name: the one that the sub-selection was made on.
      have hu' : u = o' := by
        refine Plan.object_unique hw hu hp'.object (hname.trans ?_)
        rw [← hp'.of.name, Builder.selectionSet, hcls']
        rfl
      rw [hu']
      exact hsel'

end Chain

end TypedQuery.Client
