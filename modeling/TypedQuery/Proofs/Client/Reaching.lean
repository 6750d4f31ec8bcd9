import TypedQuery.Proofs.Client.Calls

/-!
# Builders within reach

A caller starts with the empty builder of a type and calls `select` as often as they like, with
tokens of the module, with builders they have come to in the same way, or with anything else. A call
that fails leaves them with the builder they had. What they can select in this way are the
well-typed selections, and nothing else.

* `Schema.WellFormed.wellTyped_iff`: well-typed selections by the type that they are made on.
* `Module.Reaches`, `Module.Passable`: the builders within reach, and what may be passed.
* `Module.Reaches.induction`: what holds of all of them.
* `builderFits_select`, `Module.Reaches.fits`: what one call keeps, and so what every builder within
  reach is like.
* `exists_reaches`: a builder with a given selection.
* `Module.reaches_iff_wellTyped`: both together.
-/

namespace TypedQuery

/-! ## Well-typed selections -/

namespace Schema

variable {s : Schema} {t : ObjectType} {sel : Selection}

/-- The type of an object field is a type of the schema. -/
theorem WellFormed.exists_object (hw : s.WellFormed) (ht : t ∈ s.objects) {f : Field}
    (hf : f ∈ t.fields) (hnone : f.type.scalar? = none) :
    ∃ u ∈ s.objects, u.name = f.type.target := by
  rcases hw.resolved t ht f hf with h | h
  · rw [hnone] at h
    cases h
  · rw [← Client.Plan.map_name_objects hw.keyed] at h
    exact List.mem_map.1 h

theorem Selects.wellTyped (hw : s.WellFormed) (ht : t ∈ s.objects) (h : s.Selects t sel) :
    s.WellTyped ⟨t.name, sel⟩ := by
  induction h with
  | @intro t sel names kind target sub ih =>
    have hsel : s.Selects t sel := .intro names kind target sub
    refine .intro ht names (hsel.names_nodup (hw.types_wellFormed t ht)) ?_ ?_
    · intro x hx
      obtain ⟨f, hf, hname⟩ := hsel.exists_field hx
      exact ⟨f, hf, hname, kind x hx f hf hname, fun sub hsub => target x hx sub hsub f hf hname⟩
    · intro x hx inner hinner
      obtain ⟨f, hf, hname⟩ := hsel.exists_field hx
      have hnone : f.type.scalar? = none := by
        rw [← Option.not_isSome_iff_eq_none, ← kind x hx f hf hname, hinner]
        exact nofun
      obtain ⟨u, hu, huname⟩ := hw.exists_object ht hf hnone
      have htype : u.name = inner.type :=
        huname.trans (target x hx inner hinner f hf hname).1.symm
      have hwell := ih x hx inner hinner u hu htype hu
      rwa [htype] at hwell

theorem WellTyped.selects (hw : s.WellFormed) {set : SelectionSet} (h : s.WellTyped set) :
    ∃ t ∈ s.objects, t.name = set.type ∧ s.Selects t set.fields := by
  induction h with
  | @intro t sel object order nodup own inner ih =>
    -- The field of a name is unique, so what holds of one field holds of every field of that name.
    have hown : ∀ x ∈ sel.toList, ∀ f ∈ t.fields, f.name = x.name →
        (x.sub = none ↔ f.type.scalar?.isSome) ∧
        ∀ sub, x.sub = some sub → sub.type = f.type.target ∧ sub.fields ≠ .nil := by
      intro x hx f hf hname
      obtain ⟨g, hg, hgname, hfacts⟩ := own x hx
      have hfg : f = g := List.inj_on_of_nodup_map (hw.types_wellFormed t object).fields_nodup hf hg
        (hname.trans hgname.symm)
      rwa [hfg]
    refine ⟨t, object, rfl, .intro order ?_ ?_ ?_⟩
    · exact fun x hx f hf hname => (hown x hx f hf hname).1
    · exact fun x hx sub hsub f hf hname => (hown x hx f hf hname).2 sub hsub
    · intro x hx sub hsub u hu hname
      obtain ⟨v, hv, hvname, hsel⟩ := ih x hx sub hsub
      rwa [Client.Plan.object_unique hw hu hv (hname.trans hvname.symm)]

theorem WellFormed.wellTyped_iff (hw : s.WellFormed) {set : SelectionSet} :
    s.WellTyped set ↔ ∃ t ∈ s.objects, t.name = set.type ∧ s.Selects t set.fields := by
  constructor
  · exact WellTyped.selects hw
  · rintro ⟨t, ht, hname, hsel⟩
    have hwell := hsel.wellTyped hw ht
    rwa [hname] at hwell

end Schema

/-! ## Calls -/

/-- The builder in use after a call of `select`: the new one, or the old one if the call fails. -/
def Builder.afterSelect (b : Builder) (token : SelectArgument) (sub : Option SelectArgument) :
    Builder :=
  match b.select token sub with
  | .ok b' => b'
  | .error _ => b

namespace Client

namespace Module

/-- The tokens of a module are the objects of its token classes. -/
def HasToken (m : Module) (token : FieldToken) : Prop :=
  ∃ t ∈ m.plan.types, ∃ f ∈ t.fields, token = f.token t

mutual

/-- The builders that a caller comes to from the empty builder of the type called `type`. -/
inductive Reaches (m : Module) : String → Builder → Prop where
  | empty {type : String} {t : TypePlan} {b : Builder} (ht : m.type? type = some t)
    (hb : m.empty t = .ok b) : Reaches m type b
  | select {type : String} {b : Builder} {token : SelectArgument} {sub : Option SelectArgument}
    (on : Reaches m type b) (htoken : Passable m token)
    (hsub : ∀ x, sub = some x → Passable m x) : Reaches m type (b.afterSelect token sub)

/-- What a caller may pass to `select`: any token of the module, any builder within reach, and
whatever is neither of them. -/
inductive Passable (m : Module) : SelectArgument → Prop where
  | none : Passable m .none
  | token {token : FieldToken} (h : m.HasToken token) : Passable m (.token token)
  | builder {type : String} {b : Builder} (h : Reaches m type b) : Passable m (.builder b)
  | accessor (a : Accessor) : Passable m (.accessor a)
  | other (shown : String) : Passable m (.other shown)

end

/-- What holds of the empty builders, and after a call with builders of which it holds, holds of
every builder within reach. -/
theorem Reaches.induction {m : Module} {P : String → Builder → Prop}
    (hempty : ∀ {type t b}, m.type? type = some t → m.empty t = .ok b → P type b)
    (hselect : ∀ {type b token sub}, P type b → m.Passable token →
      (∀ q, sub = some (.builder q) → ∃ u, P u q) → P type (b.afterSelect token sub))
    {type : String} {b : Builder} (h : m.Reaches type b) : P type b := by
  refine @Reaches.rec m (fun type b _ => P type b) (fun x _ => ∀ q, x = .builder q → ∃ u, P u q)
    hempty ?select ?none ?token ?builder ?accessor ?other type b h
  case select =>
    intro type b token sub _ htoken _ hb _ hsub
    exact hselect hb htoken fun q hq => hsub _ hq q rfl
  case builder =>
    rintro type b _ hb q ⟨⟩
    exact ⟨type, hb⟩
  all_goals
    intros
    contradiction

end Module

/-! ### Tokens -/

namespace FieldPlan

variable {t : TypePlan} {f : FieldPlan}

/-- A token asks for no sub-selection exactly if its field is a scalar. -/
theorem token_target_eq_none : (f.token t).target = none ↔ f.target.isObject = false := by
  simp [token]

theorem token_target_eq_some {n : String} :
    (f.token t).target = some n ↔ ∃ names, f.target = .object n names := by
  rcases hf : f.target with k | ⟨n', names⟩
  · simp [token, hf, Target.isObject]
  · simp [token, hf, Target.isObject, Target.name]

end FieldPlan

/-! ## What calls keep -/

section

variable {s : Schema} {plan : Plan} {m : Module}

/-- What is known of a builder that began as the empty one of the type called `type`: it is a
builder of this type, and what it has selected fits the type. -/
def BuilderFits (s : Schema) (plan : Plan) (type : String) (b : Builder) : Prop :=
  ∃ o p, Plan.Pairs s plan o p ∧ o.name = type ∧ b.cls = p.builderClass ∧ s.Selects o b.fields

theorem BuilderFits.wellTyped (hw : s.WellFormed) {type : String} {b : Builder}
    (h : BuilderFits s plan type b) :
    b.selectionSet.type = type ∧ s.WellTyped b.selectionSet := by
  obtain ⟨o, p, hp, rfl, hcls, hsel⟩ := h
  have htype : b.cls.type = o.name := by rw [hcls]; exact hp.of.name
  exact ⟨htype, hw.wellTyped_iff.2 ⟨o, hp.object, htype.symm, hsel⟩⟩

/-- One call that succeeds: the token is one of the builder's own type, and the sub-selection is on
the type of the field. -/
theorem builderFits_select (hw : s.WellFormed) (hs : Plan.ofSchema s = .ok plan)
    (hm : Module.ofPlan plan = .ok m) {type : String} {b b' : Builder} {token : SelectArgument}
    {sub : Option SelectArgument} (hb : BuilderFits s plan type b) (htoken : m.Passable token)
    (hsub : ∀ q, sub = some (.builder q) → ∃ u, BuilderFits s plan u q)
    (h : b.select token sub = .ok b') : BuilderFits s plan type b' := by
  have hc := Plan.coherent_of_ofSchema hw hs
  obtain ⟨o, p, hp, hname, hcls, hsel⟩ := hb
  obtain ⟨tok, x, rfl, htype, hpass, rfl⟩ := Builder.select_eq_ok h
  cases htoken with
  | token htok =>
    obtain ⟨t, ht, f, hf, rfl⟩ := htok
    rw [Module.plan_of_ofPlan hm] at ht
    refine ⟨o, p, hp, hname, hcls, Chain.selects_insert hw hc hp hcls hsel ht htype hf ?_ ?_⟩
    · cases hpass with
      | scalar _ htarget _ => simpa using FieldPlan.token_target_eq_none.1 htarget
      | object q htarget _ =>
        obtain ⟨names, htarget⟩ := FieldPlan.token_target_eq_some.1 htarget
        simp [htarget, Target.isObject]
    · cases hpass with
      | scalar _ _ _ =>
        intro q hq
        cases hq
      | object q htarget hne =>
        rintro _ ⟨⟩
        refine ⟨FieldPlan.token_target_eq_some.1 htarget, hne, fun u hu huname => ?_⟩
        obtain ⟨_, o', p', hp', -, hcls', hsel'⟩ := hsub q rfl
        have hu' : u = o' := by
          refine Plan.object_unique hw hu hp'.object (huname.trans ?_)
          rw [← hp'.of.name, Builder.selectionSet, hcls']
          rfl
        rwa [hu']

theorem Module.Reaches.fits (hw : s.WellFormed) (hs : Plan.ofSchema s = .ok plan)
    (hm : Module.ofPlan plan = .ok m) {type : String} {b : Builder} (h : m.Reaches type b) :
    BuilderFits s plan type b := by
  refine h.induction (P := BuilderFits s plan) ?_ ?_
  · intro type t b ht hb
    obtain ⟨hmem, hname⟩ := Module.mem_of_type? hm ht
    obtain ⟨o, hp⟩ := Plan.exists_pairs hs hmem
    rw [Module.empty_eq_ok (Plan.coherent_of_ofSchema hw hs) hm hmem] at hb
    cases hb
    exact ⟨o, t, hp, hp.of.name.symm.trans hname, rfl, .nil s o⟩
  · intro type b token sub hb htoken hsub
    unfold Builder.afterSelect
    split
    · exact builderFits_select hw hs hm hb htoken hsub ‹_›
    · exact hb

/-! ## What can be selected -/

section

variable {p : TypePlan} {f : FieldPlan} {b : Builder}

/-- A builder takes as many arguments for a field as the kind of the field asks for. -/
theorem select_eq_extend (hf : f ∈ p.fields) (hcls : b.cls = p.builderClass)
    {token : SelectArgument} {sub : Option SelectArgument}
    (hsub : sub.isSome = f.target.isObject) :
    b.select token sub = b.extend token (sub.getD .none) := by
  have harity : b.cls.arity = .either ∨
      b.cls.arity = if f.target.isObject then .withSelection else .tokenOnly := by
    rw [hcls]
    show p.arity = _ ∨ p.arity = _
    unfold TypePlan.arity
    split
    · rename_i g hg
      rw [hg] at hf
      rw [← List.mem_singleton.1 hf]
      exact .inr rfl
    · exact .inl rfl
  rw [← hsub] at harity
  rcases harity with h | h
  · simp only [Builder.select, h]
  · cases sub <;> simp only [Builder.select, h, Option.isSome] <;> rfl

theorem select_scalar (hf : f ∈ p.fields) (hcls : b.cls = p.builderClass)
    (hscalar : f.target.isObject = false) : b.select (.token (f.token p)) none =
      .ok { b with fields := Builder.insert b.cls.order b.fields ⟨f.name, none⟩ } := by
  have htarget : (f.token p).target = none := FieldPlan.token_target_eq_none.2 hscalar
  have htype : (f.token p).type = b.cls.type := by rw [hcls]; rfl
  rw [select_eq_extend hf hcls (by rw [hscalar]; rfl)]
  simp only [Builder.extend, htype, if_true, Builder.extendToken, htarget]
  rfl

theorem select_object (hf : f ∈ p.fields) (hcls : b.cls = p.builderClass) {q : Builder}
    {names : TypeNames} (htarget : f.target = .object q.cls.type names) (hne : q.fields ≠ .nil) :
    b.select (.token (f.token p)) (some (.builder q)) =
      .ok { b with
        fields := Builder.insert b.cls.order b.fields ⟨f.name, some q.selectionSet⟩ } := by
  have htoken : (f.token p).target = some q.cls.type :=
    FieldPlan.token_target_eq_some.2 ⟨names, htarget⟩
  have htype : (f.token p).type = b.cls.type := by rw [hcls]; rfl
  have hempty : q.fields.isEmpty = false := Selection.isEmpty_eq_false.2 hne
  rw [select_eq_extend hf hcls (by rw [htarget]; rfl)]
  simp only [Builder.extend, htype, if_true, Builder.extendToken, htoken, Option.getD_some,
    Builder.subSelection, Builder.selectionSet, ne_eq, not_true_eq_false, if_false, hempty]
  rfl

end

/-- Selecting the first field of a fitting selection, after all the others. -/
theorem Module.Reaches.cons (hw : s.WellFormed) (hm : Module.ofPlan plan = .ok m)
    {o : ObjectType} {p : TypePlan} (hp : Plan.Pairs s plan o p) {b : Builder}
    (hb : m.Reaches o.name b) (hcls : b.cls = p.builderClass) {x : SelectedField}
    (hsel : s.Selects o (.cons x b.fields)) {f : FieldPlan} (hf : f ∈ p.fields)
    {sub : Option SelectArgument} (hsub : ∀ y, sub = some y → m.Passable y)
    (hok : b.select (.token (f.token p)) sub =
      .ok { b with fields := Builder.insert b.cls.order b.fields x }) :
    ∃ b', m.Reaches o.name b' ∧ b'.cls = p.builderClass ∧ b'.fields = .cons x b.fields := by
  have htoken : m.Passable (.token (f.token p)) :=
    .token ⟨p, by rw [Module.plan_of_ofPlan hm]; exact hp.type, f, hf, rfl⟩
  have hreach := hb.select htoken hsub
  rw [Builder.afterSelect, hok] at hreach
  refine ⟨_, hreach, hcls, ?_⟩
  have horder : b.cls.order = o.fields.map Field.name := by
    rw [hcls, ← hp.map_name_fields]
    rfl
  have hnames := hsel.names_sublist
  rw [Selection.names_cons] at hnames
  rw [horder]
  exact Builder.insert_eq_cons (hw.types_wellFormed o hp.object).fields_nodup hnames

/-- A selection that fits a type is within reach. -/
theorem exists_reaches (hw : s.WellFormed) (hs : Plan.ofSchema s = .ok plan)
    (hm : Module.ofPlan plan = .ok m) {o : ObjectType} {p : TypePlan}
    (hp : Plan.Pairs s plan o p) {sel : Selection} (hsel : s.Selects o sel) :
    ∃ b, m.Reaches o.name b ∧ b.cls = p.builderClass ∧ b.fields = sel := by
  have hc := Plan.coherent_of_ofSchema hw hs
  induction sel generalizing o p with
  | nil =>
    have htype := Module.type?_of_mem hc hm hp.type
    rw [hp.of.name] at htype
    exact ⟨_, .empty htype (Module.empty_eq_ok hc hm hp.type), rfl, rfl⟩
  | scalar name rest ih =>
    have hx : ⟨name, none⟩ ∈ (Selection.scalar name rest).toList := List.mem_cons_self ..
    have hcons : s.Selects o (.cons ⟨name, none⟩ rest) := hsel
    obtain ⟨b, hb, hcls, rfl⟩ := ih hp hcons.of_cons
    obtain ⟨g, hg, hname⟩ := hsel.exists_field hx
    obtain ⟨f, hf, i, hof⟩ := hp.exists_plan hg
    obtain rfl : f.name = name := hof.name.trans hname
    have hscalar : f.target.isObject = false := by
      rw [hof.isObject_eq]
      simpa using (hsel.sub_eq_none_iff hx hg hname).1 rfl
    have hnothing : ∀ y, (none : Option SelectArgument) = some y → m.Passable y := nofun
    exact hb.cons hw hm hp hcls hcons hf hnothing (select_scalar hf hcls hscalar)
  | object name type sub rest ihsub ih =>
    have hx : ⟨name, some ⟨type, sub⟩⟩ ∈ (Selection.object name type sub rest).toList :=
      List.mem_cons_self ..
    have hcons : s.Selects o (.cons ⟨name, some ⟨type, sub⟩⟩ rest) := hsel
    obtain ⟨b, hb, hcls, rfl⟩ := ih hp hcons.of_cons
    obtain ⟨g, hg, hname⟩ := hsel.exists_field hx
    obtain ⟨f, hf, i, hof⟩ := hp.exists_plan hg
    obtain rfl : f.name = name := hof.name.trans hname
    rcases hp.selected_cases hc hsel hx hf rfl with
      ⟨k, -, -, hnone⟩ | ⟨_, u, hu, hsome, huname, htarget⟩
    · cases hnone
    · cases hsome
      -- The sub-selection is within reach too, on the type of the field.
      obtain ⟨v, hv⟩ := Plan.exists_pairs hs hu
      have hvname : v.name = type := hv.of.name.symm.trans huname
      obtain ⟨q, hq, hqcls, rfl⟩ := ihsub hv (hsel.of_sub hx rfl hv.object hvname)
      have hqtype : q.cls.type = type := by rw [hqcls]; exact huname
      have hok := select_object hf hcls (hqtype ▸ htarget) (hsel.target_eq hx rfl hg hname).2
      rw [Builder.selectionSet, hqtype] at hok
      exact hb.cons hw hm hp hcls hcons hf (by rintro _ ⟨⟩; exact .builder hq) hok

end

/-- **What can be selected.** Take a schema that a collector has built and the module of its plan. A
selection is that of a builder within reach of the empty builder of a type if and only if it is a
selection on this type and well typed. -/
theorem Module.reaches_iff_wellTyped (calls : List Collector.Call) (s : Schema)
    (hs : s ∈ Collector.built {} calls) (plan : Plan) (hp : Plan.ofSchema s = .ok plan)
    (m : Module) (hm : Module.ofPlan plan = .ok m) (type : String) (sel : SelectionSet) :
    (∃ b, m.Reaches type b ∧ b.selectionSet = sel) ↔ sel.type = type ∧ s.WellTyped sel := by
  have hw := Collector.wellFormed_of_mem_built hs
  constructor
  · rintro ⟨b, hb, rfl⟩
    exact (hb.fits hw hp hm).wellTyped hw
  · rintro ⟨rfl, hsel⟩
    obtain ⟨o, ho, hname, hsel⟩ := hsel.selects hw
    obtain ⟨i, t, -, ht, hof⟩ := (Plan.aligned_of_ofSchema hp).exists_of_mem_left ho
    obtain ⟨b, hb, hcls, hfields⟩ :=
      exists_reaches hw hp hm ⟨ho, List.mem_of_getElem? ht, hof⟩ hsel
    refine ⟨b, hname ▸ hb, ?_⟩
    have htype : b.cls.type = sel.type := by
      rw [hcls, ← hname]
      exact hof.name
    rw [Builder.selectionSet, htype, hfields]

/-- A selection on a type that refers to itself is within reach, two levels deep. -/
theorem Module.reaches_recursive_selection :
    ∃ plan m, Schema.looped ∈ Collector.built {} Collector.loopedCalls ∧
      Plan.ofSchema .looped = .ok plan ∧ Module.ofPlan plan = .ok m ∧
      ∃ b, m.Reaches "Query" b ∧ b.selectionSet = .looped := by
  have hrun : ((Plan.ofSchema .looped).toOption.bind fun plan =>
      (Module.ofPlan plan).toOption).isSome = true := by
    decide +kernel
  obtain ⟨m, hm⟩ := Option.isSome_iff_exists.1 hrun
  simp only [Option.bind_eq_some_iff, toOption_eq_some] at hm
  obtain ⟨plan, hp, hm⟩ := hm
  refine ⟨plan, m, Collector.looped_mem_built, hp, hm, ?_⟩
  exact (Module.reaches_iff_wellTyped Collector.loopedCalls .looped Collector.looped_mem_built plan
    hp m hm "Query" .looped).2 ⟨rfl, Schema.wellTyped_looped⟩

end Client

end TypedQuery
