import TypedQuery.Proofs.Client.Overwriting

/-!
# What one call adds

A call is refused, or it gives a builder with one more field. The checks look at the type that a
token names and not at its field. So a token of a field that the builder's class does not declare
passes them, and the field is left out when the fields are set in order: the call gives back what
the builder held before. The tokens of a module name declared fields only. Those of another module
need not, where both have a type of that name.

* `Builder.Reachable`, `Builder.Reachable.exists_inOrder`: the builders that calls lead to, and what
  they hold.
* `Builder.extend_of_accepts`, `Builder.extend_of_not_accepts`: when a call succeeds.
* `Builder.Adds`, `Builder.adds_insert`, `Builder.insert_of_not_mem`: a field that is declared, and
  one that is not.
* `Builder.extend_adds_iff_declared`: all calls, and those with tokens of the builder's own module.
-/

namespace TypedQuery

/-! ## Calls and what they promise -/

/-- The error is one of what is selected. The others are errors of a call's form, or of what is
shown. -/
def SelectError.isSelection : SelectError → Bool
  | .tooManyArguments _ => false
  | .missingArgument _ => false
  | .noRequests _ => false
  | .unshowable _ => false
  | _ => true

/-- A builder as an argument, or none. -/
def SelectArgument.ofBuilder? : Option Builder → SelectArgument
  | .none => .none
  | .some b => .builder b

/-- The sub-selection is one that the field of the token takes: none for a scalar field, and for an
object field one on its type that is not empty. -/
def FieldToken.Accepts (t : FieldToken) : Option Builder → Prop
  | none => t.target = none
  | some q => t.target = some q.cls.type ∧ q.fields ≠ .nil

namespace Builder

/-- The builders of a class that calls lead to, whatever tokens and sub-selections they are given. A
call that is refused leaves the builder as it is. -/
inductive Reachable (cls : BuilderClass) : Builder → Prop where
  | empty : Reachable cls (.empty cls)
  | extend {b b' : Builder} (token sub : SelectArgument) (on : Reachable cls b)
    (h : b.extend token sub = .ok b') : Reachable cls b'

/-- `b'` has the field `f` besides those of `b`, in place of one of the same name, and every other
field as `b` has it. -/
structure Adds (b b' : Builder) (f : SelectedField) : Prop where
  cls : b'.cls = b.cls
  names : ∀ name, name ∈ b'.selectionSet.fieldNames ↔
    name ∈ b.selectionSet.fieldNames ∨ name = f.name
  own : ∀ x ∈ b'.fields.toList, x.name = f.name → x = f
  others : ∀ x, x.name ≠ f.name → (x ∈ b'.fields.toList ↔ x ∈ b.fields.toList)

/-- A call either is refused with an error of what is selected, or adds the field of the token with
the given sub-selection. -/
def AddsOrRefuses (b : Builder) (t : FieldToken) (sub : Option Builder) : Prop :=
  (∃ e, b.extend (.token t) (.ofBuilder? sub) = .error e ∧ e.isSelection = true) ∨
    ∃ b', b.extend (.token t) (.ofBuilder? sub) = .ok b' ∧
      b.Adds b' ⟨t.field, sub.map selectionSet⟩

section

variable {cls : BuilderClass} {b : Builder} {t : FieldToken} {sub : Option Builder}

/-- A call with a token of the builder's type and a sub-selection that fits. -/
theorem extend_of_accepts (htype : t.type = b.cls.type) (hsub : t.Accepts sub) :
    b.extend (.token t) (.ofBuilder? sub) = .ok { b with
      fields := insert b.cls.order b.fields ⟨t.field, sub.map selectionSet⟩ } := by
  rw [extend, if_pos htype]
  cases sub with
  | none =>
    have htarget : t.target = none := hsub
    simp only [extendToken, htarget]
    rfl
  | some q =>
    obtain ⟨htarget, hne⟩ := hsub
    have hempty : q.fields.isEmpty = false := Selection.isEmpty_eq_false.2 hne
    simp only [extendToken, htarget, SelectArgument.ofBuilder?, subSelection, selectionSet, ne_eq,
      not_true_eq_false, if_false, hempty]
    rfl

/-- Every other call is refused. -/
theorem extend_of_not_accepts (h : ¬ (t.type = b.cls.type ∧ t.Accepts sub)) :
    ∃ e, b.extend (.token t) (.ofBuilder? sub) = .error e ∧ e.isSelection = true := by
  rw [extend]
  split
  · rename_i htype
    have hsub : ¬ t.Accepts sub := fun hsub => h ⟨htype, hsub⟩
    cases htarget : t.target with
    | none =>
      cases sub with
      | none => exact absurd htarget hsub
      | some q => exact ⟨.takesNoSelection t, by simp only [extendToken, htarget]; rfl, rfl⟩
    | some target =>
      cases sub with
      | none => exact ⟨.needsSelection t, by simp only [extendToken, htarget]; rfl, rfl⟩
      | some q =>
        simp only [extendToken, htarget, SelectArgument.ofBuilder?, subSelection, selectionSet]
        by_cases hq : q.cls.type = target
        · have hempty : q.fields.isEmpty = true := by
            by_contra hne
            exact hsub ⟨hq ▸ htarget, Selection.isEmpty_eq_false.1 (Bool.eq_false_iff.2 hne)⟩
          simp only [hq, ne_eq, not_true_eq_false, if_false, hempty, if_true]
          exact ⟨_, rfl, rfl⟩
        · simp only [ne_eq, hq, not_false_eq_true, if_true]
          exact ⟨_, rfl, rfl⟩
  · exact ⟨_, rfl, rfl⟩

/-- Whatever calls led to it, a builder holds the fields that some look-up gives for the names of
its class, in their order. -/
theorem Reachable.exists_inOrder (h : Reachable cls b) : ∃ g : String → Option SelectedField,
    (∀ n x, g n = some x → x.name = n) ∧ b = ⟨cls, .inOrder cls.order g⟩ := by
  induction h with
  | empty =>
    refine ⟨fun _ => none, ?_, congrArg (mk cls) (Selection.inOrder_none _).symm⟩
    intro n x hx
    cases hx
  | extend token sub _ hextend ih =>
    obtain ⟨g, hg, rfl⟩ := ih
    obtain ⟨t, s, -, -, -, rfl⟩ := extend_eq_ok hextend
    refine ⟨fun name => if t.field = name then some ⟨t.field, s⟩ else g name, ?_,
      congrArg (mk cls) (insert_inOrder hg)⟩
    intro n x hx
    dsimp only at hx
    split at hx
    · cases hx
      assumption
    · exact hg n x hx

end

/-! ## One more field -/

section

variable {cls : BuilderClass} {g : String → Option SelectedField} {f : SelectedField}

theorem mem_inOrder {order : List String} {x : SelectedField} :
    x ∈ (Selection.inOrder order g).toList ↔ ∃ n ∈ order, g n = some x := by
  rw [Selection.inOrder, Selection.toList_ofList, List.mem_filterMap]

/-- A field that the class declares is added. -/
theorem adds_insert (hg : ∀ n x, g n = some x → x.name = n) (hm : f.name ∈ cls.order) :
    Adds ⟨cls, .inOrder cls.order g⟩
      ⟨cls, insert cls.order (.inOrder cls.order g) f⟩ f := by
  have hg' : ∀ n x, (if f.name = n then some f else g n) = some x → x.name = n := by
    intro n x hx
    split at hx
    · cases hx
      assumption
    · exact hg n x hx
  rw [insert_inOrder hg]
  refine ⟨rfl, fun name => ?_, fun x hx hname => ?_, fun x hname => ?_⟩
  · rw [selectionSet, selectionSet, Selection.mem_fieldNames, Selection.mem_fieldNames,
      Selection.mem_names_inOrder hg', Selection.mem_names_inOrder hg]
    by_cases hf : f.name = name
    · subst hf
      simp [hm]
    · simp [hf, Ne.symm hf]
  · obtain ⟨n, -, hn⟩ := mem_inOrder.1 hx
    have hfn : f.name = n := hname.symm.trans (hg' n x hn)
    rw [if_pos hfn] at hn
    exact (Option.some.inj hn).symm
  · rw [mem_inOrder, mem_inOrder]
    refine exists_congr fun n => and_congr_right fun _ => ⟨fun hn => ?_, fun hn => ?_⟩
    · rwa [if_neg fun hfn => hname ((hg' n x hn).trans hfn.symm)] at hn
    · rwa [if_neg fun hfn => hname ((hg n x hn).trans hfn.symm)]

/-- A field that the class does not declare is left out, and nothing else changes. -/
theorem insert_of_not_mem (hg : ∀ n x, g n = some x → x.name = n) {order : List String}
    (hm : f.name ∉ order) :
    insert order (.inOrder order g) f = .inOrder order g := by
  rw [insert_inOrder hg]
  refine congrArg Selection.ofList (List.filterMap_congr fun n hn => if_neg ?_)
  rintro rfl
  exact hm hn

end

/-- A builder that nothing was added to does not have a field that its class does not declare. -/
theorem Reachable.not_adds_self {cls : BuilderClass} {b : Builder} (hb : Reachable cls b)
    {f : SelectedField} (hm : f.name ∉ cls.order) : ¬ b.Adds b f := by
  obtain ⟨g, hg, rfl⟩ := hb.exists_inOrder
  intro hadds
  have hname := (hadds.names f.name).2 (.inr rfl)
  rw [selectionSet, Selection.mem_fieldNames, Selection.mem_names_inOrder hg] at hname
  exact hm hname.1

section

variable {cls : BuilderClass} {b : Builder} {t : FieldToken} {sub : Option Builder}

theorem Reachable.cls_eq (hb : Reachable cls b) : b.cls = cls := by
  obtain ⟨g, -, rfl⟩ := hb.exists_inOrder
  rfl

theorem Reachable.extend_eq_ok_iff (hb : Reachable cls b) :
    (∃ b', b.extend (.token t) (.ofBuilder? sub) = .ok b') ↔
      t.type = cls.type ∧ t.Accepts sub := by
  rw [← hb.cls_eq]
  constructor
  · rintro ⟨b', hb'⟩
    by_contra h
    obtain ⟨e, he, -⟩ := extend_of_not_accepts h
    rw [hb'] at he
    cases he
  · rintro ⟨htype, hsub⟩
    exact ⟨_, extend_of_accepts htype hsub⟩

theorem Reachable.extend_of_not_mem (hb : Reachable cls b) (htype : t.type = cls.type)
    (hsub : t.Accepts sub) (hm : t.field ∉ cls.order) :
    b.extend (.token t) (.ofBuilder? sub) = .ok b := by
  obtain ⟨g, hg, rfl⟩ := hb.exists_inOrder
  rw [extend_of_accepts htype hsub]
  have hfields : insert cls.order (.inOrder cls.order g) ⟨t.field, sub.map selectionSet⟩ =
      .inOrder cls.order g := insert_of_not_mem hg hm
  rw [hfields]

/-- A call does what it promises exactly if the class declares the field, or the call is refused. -/
theorem Reachable.addsOrRefuses_iff (hb : Reachable cls b) :
    b.AddsOrRefuses t sub ↔ (t.type = cls.type → t.Accepts sub → t.field ∈ cls.order) := by
  constructor
  · intro h htype hsub
    by_contra hm
    have hsame := hb.extend_of_not_mem htype hsub hm
    rcases h with ⟨e, he, -⟩ | ⟨b', hb', hadds⟩
    · rw [hsame] at he
      cases he
    · obtain rfl : b = b' := Except.ok.inj (hsame.symm.trans hb')
      exact hb.not_adds_self hm hadds
  · intro h
    by_cases hcall : t.type = cls.type ∧ t.Accepts sub
    · obtain ⟨htype, hsub⟩ := hcall
      obtain ⟨g, hg, rfl⟩ := hb.exists_inOrder
      exact .inr ⟨_, extend_of_accepts htype hsub, adds_insert hg (h htype hsub)⟩
    · rw [← hb.cls_eq] at hcall
      exact .inl (extend_of_not_accepts hcall)

end

end Builder

/-! ## Tokens of the module and of others -/

open Client in
/-- **What a call adds.** Take any builder class, any builder of it that calls lead to, any token
and any sub-selection or none. The call succeeds exactly if the token names the type of the class
and the sub-selection fits. It is refused, or adds the field of the token and leaves the other
fields alone, exactly if the class declares the field whenever the call succeeds. A call that
succeeds where the class does not declare the field gives the builder back as it was, without an
error. In a module no two of whose types have one name, calls with tokens of the module always are
refused or add the field. -/
theorem Builder.extend_adds_iff_declared (cls : BuilderClass) (b : Builder) (hb : Reachable cls b)
    (t : FieldToken) (sub : Option Builder) :
    ((∃ b', b.extend (.token t) (.ofBuilder? sub) = .ok b') ↔ t.type = cls.type ∧ t.Accepts sub) ∧
    (b.AddsOrRefuses t sub ↔ (t.type = cls.type → t.Accepts sub → t.field ∈ cls.order)) ∧
    (t.type = cls.type → t.Accepts sub → t.field ∉ cls.order →
      b.extend (.token t) (.ofBuilder? sub) = .ok b) ∧
    ∀ (s : Schema) (plan : Plan) (m : Module), (s.objects.map ObjectType.name).Nodup →
      Plan.ofSchema s = .ok plan → Module.ofPlan plan = .ok m →
      cls ∈ m.builders.values → m.HasToken t → b.AddsOrRefuses t sub := by
  refine ⟨hb.extend_eq_ok_iff, hb.addsOrRefuses_iff, hb.extend_of_not_mem, ?_⟩
  intro s plan m hn hp hm hcls ht
  exact hb.addsOrRefuses_iff.2 fun htype _ => ht.mem_order hn hp hm hcls htype

/-- The builder of the looped type with its scalar field. -/
def Builder.loopedLeaf : Builder := ⟨.looped, .scalar "n" .nil⟩

/-- The token of a field `z` that another schema's type of the same name has. -/
def FieldToken.foreign : FieldToken := ⟨"_QueryZField", "Query", "z", none⟩

theorem Builder.reachable_loopedLeaf : Reachable .looped loopedLeaf :=
  .extend (.token .loopedScalar) .none .empty (toOption_eq_some.1 (by decide))

open Client in
/-- The token of the looped type's object field adds it, with a sub-selection. The token of another
schema's field adds nothing. -/
theorem Builder.extend_adds_own_token :
    ∃ plan m, Plan.ofSchema .looped = .ok plan ∧ Module.ofPlan plan = .ok m ∧
      BuilderClass.looped ∈ m.builders.values ∧ m.HasToken .loopedObject ∧
      Reachable .looped loopedLeaf ∧ loopedLeaf.AddsOrRefuses .loopedObject (some loopedLeaf) ∧
      loopedLeaf.extend (.token .foreign) .none = .ok loopedLeaf := by
  have hrun : ((Plan.ofSchema .looped).toOption.bind fun plan =>
      (Module.ofPlan plan).toOption).any (fun m =>
        m.builders.values.contains BuilderClass.looped &&
          (m.plan.types.flatMap fun t => t.fields.map fun f => f.token t).contains
            .loopedObject) = true := by
    decide +kernel
  obtain ⟨m, hm, hcheck⟩ := (Option.any_eq_true _ _).1 hrun
  simp only [Option.bind_eq_some_iff, toOption_eq_some] at hm
  obtain ⟨plan, hp, hm⟩ := hm
  simp only [Bool.and_eq_true, List.contains_iff_mem, List.mem_flatMap, List.mem_map] at hcheck
  obtain ⟨hcls, t, ht, f, hf, htoken⟩ := hcheck
  have htoken : m.HasToken .loopedObject := ⟨t, ht, f, hf, htoken.symm⟩
  refine ⟨plan, m, hp, hm, hcls, htoken, reachable_loopedLeaf, ?_, ?_⟩
  · obtain ⟨-, -, -, hown⟩ := extend_adds_iff_declared .looped loopedLeaf reachable_loopedLeaf
      .loopedObject (some loopedLeaf)
    exact hown .looped plan m (by decide) hp hm hcls htoken
  · obtain ⟨-, -, hdropped, -⟩ := extend_adds_iff_declared .looped loopedLeaf reachable_loopedLeaf
      .foreign none
    exact hdropped rfl rfl (by decide)

/-! ## Fields that are dropped -/

/-- An object type of integer fields. -/
def ObjectType.ofInts (name : String) (fields : List String) : ObjectType :=
  ⟨name, fields.map fun f => ⟨f, .named "Int", none, none⟩, none, none⟩

/-- A schema whose only type is called like the looped one and has another field. -/
def Schema.foreign : Schema := ⟨[("Query", .ofInts "Query" ["z"])], "Query"⟩

/-- A schema with two types of one name. In the class for the type `_T`, the name of the token class
of its field is read as that of the first of the two. -/
def Schema.twofold : Schema where
  types := [("K", .ofInts "T__T" ["x"]), ("T__T", .ofInts "T__T" ["y"]), ("_T", .ofInts "_T" ["x"]),
    ("TResponse__T", .ofInts "TResponse__T" ["x"])]
  queryType := "T__T"

/-- The token of the first of the two types. -/
def FieldToken.twofold : FieldToken := ⟨"_T__TXField", "T__T", "x", none⟩

/-- The builder class of the second. -/
def BuilderClass.twofold : BuilderClass :=
  ⟨"T__TSelection_", "T__T", ["y"], .tokenOnly, some "T__TResponse_"⟩

open Client in
/-- A call drops the field of its token without an error: with a token of another schema's module,
and in the module of one schema that has two types of one name. -/
theorem Builder.undeclared_field_dropped :
    (∃ plan m, Plan.ofSchema .foreign = .ok plan ∧ Module.ofPlan plan = .ok m ∧
      m.HasToken .foreign ∧ Reachable .looped loopedLeaf ∧
      loopedLeaf.extend (.token .foreign) .none = .ok loopedLeaf ∧
      ¬ loopedLeaf.AddsOrRefuses .foreign none) ∧
    (∃ plan m t, Plan.ofSchema .twofold = .ok plan ∧ Module.ofPlan plan = .ok m ∧
      Chain.token? m "_T" "x" = some (.token .twofold) ∧
      m.type? "T__T" = some t ∧ m.empty t = .ok (empty .twofold) ∧
      (empty .twofold).extend (.token .twofold) .none = .ok (empty .twofold) ∧
      ¬ (empty .twofold).AddsOrRefuses .twofold none) := by
  constructor
  · have hrun : ((Plan.ofSchema .foreign).toOption.bind fun plan =>
        (Module.ofPlan plan).toOption).any (fun m =>
          (m.plan.types.flatMap fun t => t.fields.map fun f => f.token t).contains
            .foreign) = true := by
      decide +kernel
    obtain ⟨m, hm, hcheck⟩ := (Option.any_eq_true _ _).1 hrun
    simp only [Option.bind_eq_some_iff, toOption_eq_some] at hm
    obtain ⟨plan, hp, hm⟩ := hm
    simp only [List.contains_iff_mem, List.mem_flatMap, List.mem_map] at hcheck
    obtain ⟨t, ht, f, hf, htoken⟩ := hcheck
    refine ⟨plan, m, hp, hm, ⟨t, ht, f, hf, htoken.symm⟩, reachable_loopedLeaf,
      toOption_eq_some.1 (by decide), ?_⟩
    rw [reachable_loopedLeaf.addsOrRefuses_iff]
    exact fun h => absurd (h rfl rfl) (by decide)
  · have hrun : ((Plan.ofSchema .twofold).toOption.bind fun plan =>
        (Module.ofPlan plan).toOption).any (fun m =>
          Chain.token? m "_T" "x" == some (.token .twofold) &&
            (m.type? "T__T").any fun t => (m.empty t).toOption == some (empty .twofold)) =
        true := by
      decide +kernel
    obtain ⟨m, hm, hcheck⟩ := (Option.any_eq_true _ _).1 hrun
    simp only [Option.bind_eq_some_iff, toOption_eq_some] at hm
    obtain ⟨plan, hp, hm⟩ := hm
    simp only [Bool.and_eq_true, Option.any_eq_true, beq_iff_eq, toOption_eq_some] at hcheck
    obtain ⟨htoken, t, ht, hempty⟩ := hcheck
    refine ⟨plan, m, t, hp, hm, htoken, ht, hempty, toOption_eq_some.1 (by decide), ?_⟩
    rw [Reachable.empty.addsOrRefuses_iff]
    exact fun h => absurd (h rfl rfl) (by decide)

end TypedQuery
