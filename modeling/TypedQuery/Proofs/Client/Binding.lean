import TypedQuery.Client.Generate
import TypedQuery.Proofs.Client.Running

/-!
# What a module binds to its fields

A module that works as its schema says holds two things for each field: an accessor that reads the
field under its own name with a decoder as its type asks for, and the field's own token. Not every
module does. It does so if and only if nothing stands in the way of the lines for its types.

* `Decoder.Mirrors`: the decoders that a type asks for.
* `Module.Binds`: what a module holds for the fields of a schema.
* `Module.binds_iff_unobstructed`: when it does.
* `Module.undefined_accessor_class`: a module that cannot be run at all.
-/

namespace TypedQuery

/-! ## Decoders -/

/-- `d` reads the values of a type whose innermost type is read by `leaf`. At each level null may
stand, unless the type says that it never does. -/
inductive Decoder.Mirrors (leaf : Decoder) : TypeRef → Decoder → Prop where
  | named (name : String) : Mirrors leaf (.named name) (.nullable leaf)
  | list {r : TypeRef} {d : Decoder} (of : Mirrors leaf r d) :
    Mirrors leaf (.list r) (.nullable (.list d))
  | nonNull {r : TypeRef} {d : Decoder} (of : Mirrors leaf r (.nullable d)) :
    Mirrors leaf (.nonNull r) d

theorem Decoder.Mirrors.unique {leaf d e : Decoder} {r : TypeRef} (hd : Mirrors leaf r d)
    (he : Mirrors leaf r e) : d = e := by
  induction hd generalizing e with
  | named name =>
    cases he
    rfl
  | list _ ih =>
    cases he with
    | list of => rw [ih of]
  | nonNull _ ih =>
    cases he with
    | nonNull of => exact Decoder.nullable.inj (ih of)

/-! ## Tokens -/

/-- The token that stands for a field of `o`, of the class `className`. -/
def Field.token (o : ObjectType) (g : Field) (className : String) : FieldToken :=
  ⟨className, o.name, g.name, if g.type.scalar?.isNone then some g.type.target else none⟩

namespace Client

theorem DecoderExpr.mirrors_ofRef (leaf : DecoderExpr) {r : TypeRef} (h : r.Proper) :
    Decoder.Mirrors leaf.decoder r (ofRef leaf r).decoder := by
  induction r with
  | named name => exact .named name
  | list r ih => exact .list (ih h)
  | nonNull r ih =>
    refine .nonNull ?_
    -- Below `!` stands a name or a list, so a decoder that lets null pass.
    have hnull : (ofRef leaf r).decoder = .nullable (ofRefAt leaf false r).decoder := by
      cases r with
      | named name => rfl
      | list r => rfl
      | nonNull r => cases h.1
    have hr := ih h.2
    rwa [hnull] at hr

/-! ## Bindings -/

/-- A class says nothing of itself under a name that is not special. -/
theorem ClassKind.trait?_eq_none (kind : ClassKind) (className : String) {name : String}
    (h : ¬ IsSpecial name) : kind.trait? className name = none := by
  unfold trait?
  split
  case h_13 => rfl
  all_goals exact absurd (by decide) h

namespace Module

/-- `leaf` reads the innermost type of a field: a scalar kind, or the wrapper of an object type. -/
def Leaf (m : Module) (g : Field) (leaf : Decoder) : Prop :=
  (∃ k, g.type.scalar? = some k ∧ leaf = .primitive k.primitive) ∨
    (g.type.scalar? = none ∧ ∃ u ∈ m.plan.types, u.name = g.type.target ∧
      leaf = .object u.names.response)

/-- The module holds for the field `g` of `o`, which is planned as `f` in the type `t`, an accessor
of its name with a decoder as its type asks for, and the token of its own token class. -/
structure BindsField (m : Module) (o : ObjectType) (g : Field) (t : TypePlan) (f : FieldPlan) :
    Prop where
  accessor : ∃ a leaf, m.accessor t f = .ok (.accessor a) ∧ a.field = g.name ∧ m.Leaf g leaf ∧
    Decoder.Mirrors leaf g.type a.decoder
  token : m.token t f = .ok (.token (g.token o f.tokenClass))

/-- The module holds for every field of the schema what belongs to it. -/
def Binds (m : Module) (s : Schema) : Prop :=
  ∀ o ∈ s.objects, ∀ g ∈ o.fields,
    ∃ t f, m.field? o.name g.name = some (t, f) ∧ m.BindsField o g t f

variable {s : Schema} {plan : Plan} {m : Module} {o : ObjectType} {t : TypePlan} {f : FieldPlan}

theorem field?_eq (hc : plan.Coherent) (hm : ofPlan plan = .ok m) (ht : t ∈ plan.types)
    (hf : f ∈ t.fields) : m.field? t.name f.name = some (t, f) := by
  have hsome : (t.fields.find? fun g => g.name == f.name).isSome :=
    List.find?_isSome.2 ⟨f, hf, by simp⟩
  obtain ⟨g, hg⟩ := Option.isSome_iff_exists.1 hsome
  have hname : g.name = f.name := by simpa using List.find?_some hg
  rw [field?, type?_of_mem hc hm ht, Option.bind_eq_bind, Option.bind_some, hg,
    hc.field_unique ht (List.mem_of_find?_eq_some hg) hf hname]
  rfl

/-- The decoder that the type of a field asks for is the one that its plan names. -/
theorem mirrors_iff (hw : s.WellFormed) (hc : plan.Coherent) (hm : ofPlan plan = .ok m)
    (hp : Plan.Pairs s plan o t) (hf : f ∈ t.fields) {g : Field} (hg : g ∈ o.fields) {i : Nat}
    (hof : f.Of (Plan.chooseNames s.objects).types o.name t.params i g) {d : Decoder} :
    (∃ leaf, m.Leaf g leaf ∧ Decoder.Mirrors leaf g.type d) ↔ d = f.decoder.decoder := by
  have hleaf : ∀ leaf, m.Leaf g leaf ↔ leaf = f.target.decoder.decoder := by
    intro leaf
    rw [Leaf, plan_of_ofPlan hm]
    rcases hc.target_cases hp.type hf hof with ⟨k, hk, htarget⟩ | ⟨hnone, u, hu, hname, htarget⟩
    · simp [hk, htarget, Target.decoder, DecoderExpr.decoder]
    · rw [htarget]
      constructor
      · rintro (⟨k, hk, -⟩ | ⟨-, v, hv, hvname, rfl⟩)
        · rw [hnone] at hk
          cases hk
        · rw [hc.type_unique hv hu (hvname.trans hname.symm)]
          rfl
      · rintro rfl
        exact .inr ⟨hnone, u, hu, hname, rfl⟩
  have hmirrors : Decoder.Mirrors f.target.decoder.decoder g.type f.decoder.decoder := by
    rw [FieldPlan.decoder, hof.type_eq]
    exact DecoderExpr.mirrors_ofRef _ ((hw.types_wellFormed o hp.object).proper g hg)
  simp only [hleaf, exists_eq_left]
  exact ⟨fun h => h.unique hmirrors, fun h => h ▸ hmirrors⟩

/-- The token in the plan of a field is the one that stands for the field. -/
theorem token_eq (hc : plan.Coherent) (hp : Plan.Pairs s plan o t) (hf : f ∈ t.fields) {g : Field}
    {i : Nat} (hof : f.Of (Plan.chooseNames s.objects).types o.name t.params i g) :
    f.token t = g.token o f.tokenClass := by
  rw [FieldPlan.token, Field.token, Text.unify_of_isAscii ((hc.ascii t hp.type).tokenClass f hf),
    hp.of.name, hof.name]
  rcases hof.target_cases with ⟨k, hk, htarget⟩ | ⟨hnone, own, htarget⟩
  · rw [hk, htarget]
    rfl
  · rw [hnone, htarget]
    rfl

/-! ### Attributes and bodies -/

/-- What a module holds for a type by the name of a class is what the body of the class has set. -/
theorem exists_of_aligned {β : Type} {name : TypePlan → String}
    {run : TypePlan → Except LoadError β} {entries : List (String × β)}
    (hascii : ∀ t ∈ plan.types, IsAscii (name t)) (hn : (plan.types.map name).Nodup)
    (h : Aligned (fun _ t e => ∃ as, run t = .ok as ∧ e = (Text.unify (name t), as)) plan.types
      entries) (ht : t ∈ plan.types) :
    ∃ as, run t = .ok as ∧ (Table.ofList entries).get? (name t) = some as := by
  have hnames : entries.map Prod.fst = plan.types.map name :=
    calc entries.map Prod.fst = plan.types.map fun t => Text.unify (name t) :=
          h.map_eq_map fun _ _ _ ⟨_, _, he⟩ => congrArg Prod.fst he
      _ = plan.types.map name :=
          List.map_congr_left fun t ht => Text.unify_of_isAscii (hascii t ht)
  rw [← hnames] at hn
  obtain ⟨i, e, -, he, as, hrun, rfl⟩ := h.exists_of_mem_left ht
  rw [Text.unify_of_isAscii (hascii t ht)] at he
  refine ⟨as, hrun, ?_⟩
  rw [Table.ofList_of_nodup hn]
  exact Table.get?_eq_some hn (List.mem_of_getElem? he)

theorem exists_responses (hc : plan.Coherent) (hm : ofPlan plan = .ok m) (ht : t ∈ plan.types) :
    ∃ accessors, runResponse plan.accessorClasses t = .ok accessors ∧
      m.responses.get? t.names.response = some accessors := by
  obtain ⟨_, _, hentries, -, rfl⟩ := ofPlan_eq_ok hm
  exact exists_of_aligned (fun t ht => (hc.ascii t ht).response) hc.distinct.2.1 hentries ht

theorem exists_namespaces (hc : plan.Coherent) (hm : ofPlan plan = .ok m) (ht : t ∈ plan.types) :
    ∃ tokens, runTokens plan.tokenTable t = .ok tokens ∧
      m.namespaces.get? t.names.tokens = some tokens := by
  obtain ⟨_, _, -, hentries, rfl⟩ := ofPlan_eq_ok hm
  exact exists_of_aligned (fun t ht => (hc.ascii t ht).tokens) hc.distinct.1 hentries ht

theorem classMember_eq_ok_iff {α : Type} {kind : ClassKind} {operand : α → Operand}
    (hinj : Function.Injective operand) {className name : String} (hn : ¬ IsSpecial name)
    {attributes : Table α} {x : α} :
    classMember kind operand className attributes name = .ok (operand x) ↔
      attributes.get? name = some x := by
  rw [classMember, kind.trait?_eq_none className hn]
  cases attributes.get? name <;> simp [hinj.eq_iff]

theorem accessor_eq_ok_iff {accessors : Table Accessor}
    (h : m.responses.get? t.names.response = some accessors) (hn : ¬ IsSpecial f.attr)
    {a : Accessor} : m.accessor t f = .ok (.accessor a) ↔ accessors.get? f.attr = some a := by
  rw [accessor, member, h]
  exact classMember_eq_ok_iff (fun _ _ => Operand.accessor.inj) hn

theorem token_eq_ok_iff {tokens : Table FieldToken}
    (h : m.namespaces.get? t.names.tokens = some tokens) (hn : ¬ IsSpecial f.attr)
    {tok : FieldToken} : m.token t f = .ok (.token tok) ↔ tokens.get? f.attr = some tok := by
  rw [token, member, h]
  exact classMember_eq_ok_iff (fun _ _ => Operand.token.inj) hn

/-- Attributes of fields that all hold the values of their own fields. -/
theorem eq_ownTable {α : Type} {fields : List FieldPlan} (hs : Settable fields)
    {R : FieldPlan → α → Prop} {value : FieldPlan → α} {entries : Table α}
    (h : Aligned (fun _ f e => e.1 = f.attr ∧ R f e.2) fields entries)
    (hvalue : ∀ f ∈ fields, ∀ v, R f v → entries.get? f.attr = some v → v = value f) :
    entries = ownTable value fields := by
  have hnames : entries.names = fields.map FieldPlan.attr := h.map_eq_map fun _ _ _ he => he.1
  have hn : entries.names.Nodup := hnames ▸ hs.nodup
  have hown : Aligned (fun _ f e => e = (f.attr, value f)) fields entries := by
    refine ⟨h.length_eq, fun i f e hf he => ?_⟩
    obtain ⟨hattr, hr⟩ := h.rel i f e hf he
    have hget : entries.get? f.attr = some e.2 :=
      Table.get?_eq_some hn (hattr ▸ List.mem_of_getElem? he)
    exact Prod.ext hattr (hvalue f (List.mem_of_getElem? hf) e.2 hr hget)
  have hmap := hown.map_eq_map (f := fun f => (f.attr, value f)) (g := id) fun _ _ _ he => he
  rwa [List.map_id] at hmap

/-! ### Bindings and obstacles -/

/-- What the module binds to a planned field, it binds to the field that the plan is for. -/
theorem Binds.exists_field (hc : plan.Coherent) (hm : ofPlan plan = .ok m)
    (hp : Plan.Pairs s plan o t) (h : m.Binds s) (hf : f ∈ t.fields) :
    ∃ g ∈ o.fields, m.BindsField o g t f ∧
      ∃ i, f.Of (Plan.chooseNames s.objects).types o.name t.params i g := by
  obtain ⟨g, hg, i, hof⟩ := hp.exists_field hf
  obtain ⟨t', f', hfound, hbind⟩ := h o hp.object g hg
  rw [← hp.of.name, ← hof.name, field?_eq hc hm hp.type hf] at hfound
  cases hfound
  exact ⟨g, hg, hbind, i, hof⟩

/-- In a module that binds the fields of a type, nothing stood in the way of its lines. -/
theorem unobstructed_of_binds (hw : s.WellFormed) (hc : plan.Coherent) (hm : ofPlan plan = .ok m)
    (hp : Plan.Pairs s plan o t) (hbinds : m.Binds s) : t.Unobstructed plan := by
  have hs := hp.settable hw hc
  obtain ⟨accessors, hrun, hresponses⟩ := exists_responses hc hm hp.type
  obtain ⟨tokens, hrun', hnamespaces⟩ := exists_namespaces hc hm hp.type
  have haccessors : accessors = ownTable t.accessor t.fields := by
    refine eq_ownTable hs (R := fun f a => a.className = mangle t.names.response f.accessorClass ∧
      a.field = f.name) (aligned_of_runResponse hs hrun) fun f hf a hr hget => ?_
    obtain ⟨g, hg, hbind, i, hof⟩ := hbinds.exists_field hc hm hp hf
    obtain ⟨a', leaf, ha', -, hleaf, hmirrors⟩ := hbind.accessor
    rw [accessor_eq_ok_iff hresponses (hs.not_special f hf), hget] at ha'
    cases ha'
    have hdecoder := (mirrors_iff hw hc hm hp hf hg hof).1 ⟨leaf, hleaf, hmirrors⟩
    obtain ⟨className, field, decoder⟩ := a
    obtain ⟨rfl, rfl⟩ := hr
    rw [TypePlan.accessor, ← hdecoder]
  have htokens : tokens = ownTable (·.token t) t.fields := by
    refine eq_ownTable hs (R := fun f tok => plan.tokenTable.get? (mangle t.names.tokens
      f.tokenClass) = some tok) (aligned_of_runTokens hs hrun') fun f hf tok _ hget => ?_
    obtain ⟨g, -, hbind, i, hof⟩ := hbinds.exists_field hc hm hp hf
    have htok := (token_eq_ok_iff hnamespaces (hs.not_special f hf)).1 hbind.token
    rw [← token_eq hc hp hf hof] at htok
    exact Option.some.inj (hget.symm.trans htok)
  rw [TypePlan.unobstructed_iff hc hp.type hs, ← haccessors, ← htokens]
  exact ⟨hrun, hrun'⟩

/-- Where nothing stood in the way, the module binds the fields of every type. -/
theorem Clear.binds (hw : s.WellFormed) (hs : Plan.ofSchema s = .ok plan)
    (hm : ofPlan plan = .ok m) (h : m.Clear plan) : m.Binds s := by
  have hc := h.coherent
  intro o ho g hg
  obtain ⟨i, t, -, ht, hof⟩ := (Plan.aligned_of_ofSchema hs).exists_of_mem_left ho
  have hp : Plan.Pairs s plan o t := ⟨ho, List.mem_of_getElem? ht, hof⟩
  obtain ⟨f, hf, j, hfof⟩ := hp.exists_plan hg
  have hset := h.settable t hp.type
  refine ⟨t, f, ?_, ?_, ?_⟩
  · rw [← hof.name, ← hfof.name]
    exact field?_eq hc hm hp.type hf
  · obtain ⟨leaf, hleaf, hmirrors⟩ := (mirrors_iff hw hc hm hp hf hg hfof).2 rfl
    refine ⟨t.accessor f, leaf, ?_, hfof.name, hleaf, hmirrors⟩
    exact (accessor_eq_ok_iff (h.get?_responses hp.type) (hset.not_special f hf)).2
      (hset.get?_ownTable hf)
  · have hget : m.namespaces.get? t.names.tokens = some (ownTable (·.token t) t.fields) := by
      rw [h.namespaces]
      exact hc.get?_ownNamespaces hp.type
    rw [← token_eq hc hp hf hfof]
    exact (token_eq_ok_iff hget (hset.not_special f hf)).2 (hset.get?_ownTable hf)

/-- **When a module works.** Take a schema that a collector has built. It can be planned, and its
module runs and holds for every field its own token and an accessor as its type asks for, if and
only if nothing stands in the way of the lines for its types. -/
theorem binds_iff_unobstructed (calls : List Collector.Call) (s : Schema)
    (hs : s ∈ Collector.built {} calls) :
    ∃ plan, Plan.ofSchema s = .ok plan ∧
      ((∃ m, ofPlan plan = .ok m ∧ m.Binds s) ↔ ∀ t ∈ plan.types, t.Unobstructed plan) := by
  have hw := Collector.wellFormed_of_mem_built hs
  obtain ⟨plan, hplan⟩ := Plan.exists_ofSchema hw
  have hc := Plan.coherent_of_ofSchema hw hplan
  refine ⟨plan, hplan, ?_, fun h => ?_⟩
  · rintro ⟨m, hm, hbinds⟩ t ht
    obtain ⟨o, hp⟩ := Plan.exists_pairs hplan ht
    exact unobstructed_of_binds hw hc hm hp hbinds
  · have hset : ∀ t ∈ plan.types, Settable t.fields := fun t ht => by
      obtain ⟨o, hp⟩ := Plan.exists_pairs hplan ht
      exact hp.settable hw hc
    obtain ⟨m, hm, hclear⟩ := exists_clear hc hset h
    exact ⟨m, hm, hclear.binds hw hplan hm⟩

/-- Fields that go by the names of a scalar kind and of the support module, behind all fields that
rely on these names. -/
theorem binds_hiding_names_last :
    let calls :=
      [.addSource "a" "type Query \x7b q: [Query!] name: ID n: Int str: Int _rt: Int \x7d", .build]
    ∃ s ∈ Collector.built {} calls, ∃ plan m, Plan.ofSchema s = .ok plan ∧
      (∀ t ∈ plan.types, t.Unobstructed plan) ∧ ofPlan plan = .ok m ∧ m.Binds s := by
  intro calls
  have hcheck : ((Collector.built {} calls).any fun s => (Plan.ofSchema s).toOption.any fun plan =>
      decide (∀ t ∈ plan.types, t.Unobstructed plan)) = true := by
    decide +kernel
  obtain ⟨s, hs, hcheck⟩ := List.any_eq_true.1 hcheck
  obtain ⟨plan, hplan, hiff⟩ := binds_iff_unobstructed calls s hs
  rw [hplan] at hcheck
  have hclear : ∀ t ∈ plan.types, t.Unobstructed plan := of_decide_eq_true hcheck
  obtain ⟨m, hm, hbinds⟩ := hiff.2 hclear
  exact ⟨s, hs, plan, m, hplan, hclear, hm, hbinds⟩

/-- A type whose name starts with an underscore: its module is generated and cannot run, since the
accessor classes of the type go by other names in the body of its response wrapper. -/
theorem undefined_accessor_class :
    let calls :=
      [.addSource "a" "schema \x7b query: _Film \x7d type _Film \x7b title: String! \x7d", .build]
    ∃ s ∈ Collector.built {} calls, ∃ source plan, generate s {} = .ok source ∧
      Plan.ofSchema s = .ok plan ∧
      ofPlan plan = .error (.undefined "_FilmResponse__FilmTitleAccessor") := by
  intro calls
  have hcheck : ((Collector.built {} calls).any fun s => (generate s {}).toOption.isSome &&
      (Plan.ofSchema s).toOption.any fun plan => (ofPlan plan).map (fun _ => ()) ==
        .error (.undefined "_FilmResponse__FilmTitleAccessor")) = true := by
    decide +kernel
  obtain ⟨s, hs, hcheck⟩ := List.any_eq_true.1 hcheck
  obtain ⟨hsource, hplan⟩ := Bool.and_eq_true_iff.1 hcheck
  obtain ⟨source, hsource⟩ := Option.isSome_iff_exists.1 hsource
  obtain ⟨plan, hplan, hload⟩ := (Option.any_eq_true ..).1 hplan
  refine ⟨s, hs, source, plan, toOption_eq_some.1 hsource, toOption_eq_some.1 hplan, ?_⟩
  cases hm : ofPlan plan with
  | ok m =>
    rw [hm] at hload
    cases eq_of_beq hload
  | error e =>
    rw [hm] at hload
    exact congrArg Except.error (Except.error.inj (eq_of_beq hload))

end Module

end Client

end TypedQuery
