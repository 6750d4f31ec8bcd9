import Mathlib.Data.List.Induction
import TypedQuery.Proofs.Client.Reaching

/-!
# Calls of `select` in any order

A caller makes several calls of `select`, each on the builder that the call before gave. Of the
calls that name a field only the last counts, and where it stands among calls on other fields does
not matter.

* `Builder.selectAll`: calls one after the other.
* `lastSelected`: a field as the last call that names it gives it.
* `Builder.insert_inOrder`, `Builder.selectAll_eq_ok`: what one call does to the selected fields,
  and so what all calls have done.
* `Builder.select_of_cls`, `Builder.exists_selectAll_iff`: whether a call succeeds does not depend
  on the calls before it.
* `Client.Module.last_call_wins`: what the builders of a module hold, and which calls give equal
  ones.
-/

namespace TypedQuery

/-! ## Calls -/

/-- A call of `select`: its token and, if there is one, its second argument. -/
structure SelectCall where
  token : SelectArgument
  sub : Option SelectArgument := none
  deriving DecidableEq

namespace SelectCall

/-- The selection of a builder; nothing else has one. -/
def selectionOf : Option SelectArgument → Option SelectionSet
  | some (.builder b) => some b.selectionSet
  | _ => none

/-- The field that a call names, with the sub-selection that is passed for it. -/
def field? (c : SelectCall) : Option SelectedField :=
  match c.token with
  | .token t => some ⟨t.field, selectionOf c.sub⟩
  | _ => none

/-- The call names a field called `name`. -/
def Names (c : SelectCall) (name : String) : Prop := ∃ f, c.field? = some f ∧ f.name = name

theorem field?_of_passes {c : SelectCall} {t : FieldToken} {sub : Option SelectionSet}
    (ht : c.token = .token t) (h : Builder.Passes t c.sub sub) :
    c.field? = some ⟨t.field, sub⟩ := by
  have hsub : selectionOf c.sub = sub := by
    obtain ⟨token, arg⟩ := c
    cases h with
    | scalar _ _ harg =>
      cases arg with
      | none => rfl
      | some x =>
        cases harg
        rfl
    | object _ _ _ => rfl
  rw [field?, ht, hsub]

end SelectCall

/-- The field called `name` as the last of the calls that name it gives it. -/
def lastSelected (calls : List SelectCall) (name : String) : Option SelectedField :=
  (calls.filterMap SelectCall.field?).reverse.find? fun f => f.name == name

section

variable {calls : List SelectCall} {c : SelectCall} {f : SelectedField} {name : String}

theorem lastSelected_append (calls more : List SelectCall) (name : String) :
    lastSelected (calls ++ more) name = (lastSelected more name).or (lastSelected calls name) := by
  simp [lastSelected]

theorem lastSelected_cons (c : SelectCall) (calls : List SelectCall) (name : String) :
    lastSelected (c :: calls) name = (lastSelected calls name).or (lastSelected [c] name) :=
  lastSelected_append [c] calls name

theorem lastSelected_concat (h : c.field? = some f) :
    lastSelected (calls ++ [c]) name =
      if f.name = name then some f else lastSelected calls name := by
  by_cases hname : f.name = name <;> simp [lastSelected, h, hname]

theorem name_of_lastSelected (h : lastSelected calls name = some f) : f.name = name := by
  simpa using List.find?_some h

theorem lastSelected_isSome : (lastSelected calls name).isSome ↔ ∃ c ∈ calls, c.Names name := by
  simp only [lastSelected, List.find?_isSome, List.mem_reverse, List.mem_filterMap, beq_iff_eq,
    SelectCall.Names]
  constructor
  · rintro ⟨f, ⟨c, hc, hf⟩, hname⟩
    exact ⟨c, hc, f, hf, hname⟩
  · rintro ⟨c, hc, f, hf, hname⟩
    exact ⟨f, ⟨c, hc, hf⟩, hname⟩

end

namespace Selection

/-- The fields that `g` gives for an order of names. -/
def inOrder (order : List String) (g : String → Option SelectedField) : Selection :=
  .ofList (order.filterMap g)

theorem inOrder_none (order : List String) : inOrder order (fun _ => none) = .nil := by
  simp [inOrder, ofList]

/-- Where `g` gives each name a field of that name, the names are those of the order for which it
gives one. -/
theorem mem_names_inOrder {order : List String} {g : String → Option SelectedField}
    (hg : ∀ n x, g n = some x → x.name = n) {name : String} :
    name ∈ (inOrder order g).names ↔ name ∈ order ∧ (g name).isSome := by
  rw [← get?_isSome, inOrder, get?_ofList_filterMap hg]
  by_cases hm : name ∈ order <;> simp [hm]

end Selection

/-! ## One call -/

namespace Builder

variable {order : List String} {g : String → Option SelectedField} {f : SelectedField}

/-- Of several fields of one name, the last is found. -/
theorem get?_byName (fs : List SelectedField) (name : String) :
    (byName fs).get? name = fs.reverse.find? fun f => f.name == name := by
  suffices h : ∀ (t : Table SelectedField), (fs.foldl (fun t f => t.put f.name f) t).get? name =
      (fs.reverse.find? fun f => f.name == name).or (t.get? name) by
    rw [byName, h]
    exact Option.or_none
  induction fs with
  | nil => exact fun t => rfl
  | cons f fs ih =>
    intro t
    rw [List.foldl_cons, ih, Table.get?_put, List.reverse_cons, List.find?_append, Option.or_assoc]
    by_cases hname : f.name = name <;> simp [hname]

/-- Where `g` gives each name a field of that name, the field that it gives is found, also if a name
comes twice in the order. -/
theorem get?_byName_inOrder (hg : ∀ n x, g n = some x → x.name = n) {name : String}
    (hm : name ∈ order) : (byName (order.filterMap g)).get? name = g name := by
  rw [get?_byName]
  cases hfind : (order.filterMap g).reverse.find? fun f => f.name == name with
  | none =>
    cases hname : g name with
    | none => rfl
    | some x =>
      have hx : x ∈ (order.filterMap g).reverse :=
        List.mem_reverse.2 (List.mem_filterMap.2 ⟨name, hm, hname⟩)
      exact absurd (by simpa using hg name x hname) (List.find?_eq_none.1 hfind x hx)
  | some x =>
    obtain ⟨n, -, hx⟩ := List.mem_filterMap.1 (List.mem_reverse.1 (List.mem_of_find?_eq_some hfind))
    have hname : x.name = name := by simpa using List.find?_some hfind
    rw [← hname, hg n x hx, hx]

/-- One more field replaces what the name stood for and nothing else. -/
theorem insert_inOrder (hg : ∀ n x, g n = some x → x.name = n) :
    insert order (.inOrder order g) f =
      .inOrder order fun name => if f.name = name then some f else g name := by
  refine congrArg Selection.ofList (List.filterMap_congr fun name hm => ?_)
  rw [Table.get?_put, Selection.inOrder, Selection.toList_ofList, get?_byName_inOrder hg hm]

theorem extendToken_of_cls {b b' q : Builder} (t : FieldToken) (sub : SelectArgument)
    (h : b.extendToken t sub = .ok q) : ∃ q', b'.extendToken t sub = .ok q' := by
  unfold extendToken at h ⊢
  cases htarget : t.target with
  | some target =>
    simp only [htarget] at h ⊢
    cases hsub : subSelection t target sub with
    | error e =>
      rw [hsub] at h
      cases h
    | ok s => exact ⟨_, rfl⟩
  | none =>
    simp only [htarget] at h ⊢
    cases sub with
    | none => exact ⟨_, rfl⟩
    | _ => cases h

theorem extend_of_cls {b b' q : Builder} (hcls : b'.cls = b.cls) {token sub : SelectArgument}
    (h : b.extend token sub = .ok q) : ∃ q', b'.extend token sub = .ok q' := by
  cases token with
  | token t =>
    simp only [extend] at h ⊢
    split at h
    · rw [hcls, if_pos ‹_›]
      exact extendToken_of_cls t sub h
    · cases h
  | _ => cases h

/-- Whether a call succeeds depends on the class of the builder and on the arguments only. -/
theorem select_of_cls {b b' q : Builder} (hcls : b'.cls = b.cls) {token : SelectArgument}
    {sub : Option SelectArgument} (h : b.select token sub = .ok q) :
    ∃ q', b'.select token sub = .ok q' := by
  have hsame : b'.cls.arity = b.cls.arity := by rw [hcls]
  cases harity : b.cls.arity <;> rw [harity] at hsame <;> cases sub <;>
    simp only [select, harity, hsame] at h ⊢
  case tokenOnly.some => cases h
  case withSelection.none => cases h
  all_goals exact extend_of_cls hcls h

/-! ## All calls -/

/-- The builder after calls, each on the result of the one before, if all of them succeed. -/
def selectAll (b : Builder) (calls : List SelectCall) : Except SelectError Builder :=
  calls.foldlM (fun b c => b.select c.token c.sub) b

variable {cls : BuilderClass} {calls calls' : List SelectCall} {b : Builder}

theorem selectAll_concat {q : Builder} {c : SelectCall} :
    b.selectAll (calls ++ [c]) = .ok q ↔
      ∃ b', b.selectAll calls = .ok b' ∧ b'.select c.token c.sub = .ok q := by
  simp [selectAll, bind_eq_ok]

/-- After any calls a builder holds, in the order of its type, the field of each name that some call
has selected last. -/
theorem selectAll_eq_ok (h : (empty cls).selectAll calls = .ok b) :
    b = ⟨cls, .inOrder cls.order (lastSelected calls)⟩ := by
  -- Induction on the calls from the last one: it finds the fields that the others have selected.
  induction calls using List.reverseRecOn generalizing b with
  | nil =>
    cases h
    exact congrArg (Builder.mk cls) (Selection.inOrder_none cls.order).symm
  | append_singleton calls c ih =>
    obtain ⟨b', hb', hc⟩ := selectAll_concat.1 h
    obtain rfl := ih hb'
    obtain ⟨t, sub, ht, -, hpass, rfl⟩ := select_eq_ok hc
    have hfield := SelectCall.field?_of_passes ht hpass
    have hfun : lastSelected (calls ++ [c]) = fun name =>
        if t.field = name then some ⟨t.field, sub⟩ else lastSelected calls name :=
      funext fun name => lastSelected_concat hfield
    rw [hfun, insert_inOrder fun _ _ => name_of_lastSelected]

/-- The builders of a class take a call. -/
def Takes (cls : BuilderClass) (c : SelectCall) : Prop :=
  ∃ q, (empty cls).select c.token c.sub = .ok q

/-- Calls succeed one after the other exactly if each of them succeeds by itself. -/
theorem exists_selectAll_iff :
    (∃ b, (empty cls).selectAll calls = .ok b) ↔ ∀ c ∈ calls, Takes cls c := by
  induction calls using List.reverseRecOn with
  | nil => exact ⟨fun _ _ hc => (List.not_mem_nil hc).elim, fun _ => ⟨_, rfl⟩⟩
  | append_singleton calls c ih =>
    simp only [selectAll_concat, List.forall_mem_append, List.forall_mem_singleton, ← ih]
    constructor
    · rintro ⟨q, b, hb, hq⟩
      have hcls : b.cls = cls := by rw [selectAll_eq_ok hb]
      exact ⟨⟨b, hb⟩, select_of_cls hcls.symm hq⟩
    · rintro ⟨⟨b, hb⟩, q, hq⟩
      have hcls : b.cls = cls := by rw [selectAll_eq_ok hb]
      obtain ⟨q', hq'⟩ := select_of_cls hcls hq
      exact ⟨q', b, hb, hq'⟩

/-- Of calls that succeed, only the last for each name matters. -/
theorem selectAll_of_lastSelected (h : (empty cls).selectAll calls = .ok b)
    (htakes : ∀ c ∈ calls', Takes cls c)
    (hlast : ∀ name, lastSelected calls' name = lastSelected calls name) :
    (empty cls).selectAll calls' = .ok b := by
  obtain ⟨b', hb'⟩ := exists_selectAll_iff.2 htakes
  rw [hb', selectAll_eq_ok hb', selectAll_eq_ok h, funext hlast]

end Builder

section

variable {c d : SelectCall} {name : String}

/-- Calls that name different fields. -/
def SelectCall.Apart (c d : SelectCall) : Prop := ∀ name, c.Names name → ¬ d.Names name

theorem lastSelected_of_not_names (calls : List SelectCall) (h : ∀ c ∈ calls, ¬ c.Names name) :
    lastSelected calls name = none := by
  rw [← Option.not_isSome_iff_eq_none, lastSelected_isSome]
  rintro ⟨c, hc, hname⟩
  exact h c hc hname

/-- Two calls on different fields may change places. -/
theorem lastSelected_swap (before after : List SelectCall) (h : c.Apart d) :
    lastSelected (before ++ d :: c :: after) name =
      lastSelected (before ++ c :: d :: after) name := by
  have hone : lastSelected [c] name = none ∨ lastSelected [d] name = none := by
    by_cases hc : c.Names name
    · exact .inr (lastSelected_of_not_names [d] (by simpa using h name hc))
    · exact .inl (lastSelected_of_not_names [c] (by simpa using hc))
  rw [lastSelected_append, lastSelected_cons d (c :: after), lastSelected_cons c after,
    lastSelected_append, lastSelected_cons c (d :: after), lastSelected_cons d after]
  rcases hone with hone | hone <;> simp [hone]

/-- A call that is made again changes nothing, if no call in between was on its field. -/
theorem lastSelected_again (before between after : List SelectCall)
    (h : ∀ d ∈ between, c.Apart d) :
    lastSelected (before ++ c :: between ++ c :: after) name =
      lastSelected (before ++ c :: between ++ after) name := by
  rw [lastSelected_append, lastSelected_append _ after, lastSelected_append before,
    lastSelected_cons c after, lastSelected_cons c between]
  by_cases hc : c.Names name
  · rw [lastSelected_of_not_names between fun d hd => h d hd name hc]
    cases lastSelected [c] name <;> simp
  · rw [lastSelected_of_not_names [c] (by simpa using hc)]
    simp only [Option.or_none]

end

/-! ## Builders of a module -/

namespace Client.Module

variable {s : Schema} {plan : Plan} {m : Module}

/-- The token of a call, if it has one, is a token of the module. -/
def Offers (m : Module) (c : SelectCall) : Prop := ∀ t, c.token = .token t → m.HasToken t

theorem exists_of_mem_builders (hm : ofPlan plan = .ok m) {cls : BuilderClass}
    (h : cls ∈ m.builders.values) : ∃ t ∈ plan.types, cls = t.builderClass := by
  obtain ⟨_, _, -, -, rfl⟩ := ofPlan_eq_ok hm
  obtain ⟨e, he, rfl⟩ := List.mem_map.1 h
  obtain ⟨t, ht, rfl⟩ := List.mem_map.1 (Table.mem_ofList he)
  exact ⟨t, ht, rfl⟩

/-- A token that names the type of a builder class names one of its fields. -/
theorem HasToken.mem_order (hn : (s.objects.map ObjectType.name).Nodup)
    (hp : Plan.ofSchema s = .ok plan) (hm : ofPlan plan = .ok m) {cls : BuilderClass}
    (hcls : cls ∈ m.builders.values) {token : FieldToken} (h : m.HasToken token)
    (htype : token.type = cls.type) : token.field ∈ cls.order := by
  obtain ⟨t, ht, rfl⟩ := exists_of_mem_builders hm hcls
  obtain ⟨u, hu, f, hf, rfl⟩ := h
  rw [plan_of_ofPlan hm] at hu
  -- The token is one of a type called like the builder's, and there is one such type only.
  rw [← Plan.map_name_types hp] at hn
  obtain rfl : u = t := List.inj_on_of_nodup_map hn hu ht htype
  exact List.mem_map_of_mem hf

/-- A field that a call has selected is a field of the builder's type. -/
theorem mem_order_of_takes (hn : (s.objects.map ObjectType.name).Nodup)
    (hp : Plan.ofSchema s = .ok plan) (hm : ofPlan plan = .ok m) {cls : BuilderClass}
    (hcls : cls ∈ m.builders.values) {c : SelectCall} (hoffers : m.Offers c)
    (htakes : Builder.Takes cls c) {name : String} (hname : c.Names name) : name ∈ cls.order := by
  obtain ⟨q, hq⟩ := htakes
  obtain ⟨tok, sub, htok, htype, hpass, -⟩ := Builder.select_eq_ok hq
  obtain ⟨x, hx, rfl⟩ := hname
  rw [SelectCall.field?_of_passes htok hpass] at hx
  cases hx
  exact (hoffers tok htok).mem_order hn hp hm hcls htype

theorem equal?_builder (m : Module) (b : Builder) :
    m.equal? (.builder b) (.builder b) = .ok (some true) := by
  have hsame : Operand.equal (.builder b) (.builder b) = true := by
    simp [Operand.equal, Operand.isNan, Operand.same]
  simp only [equal?, askBoth, ask, standIn?, settles, hsame]
  rfl

theorem compare_builder (m : Module) (b : Builder) :
    m.compare (.builder b) (.builder b) = .ok (true, false) := by
  simp only [compare, equal?_builder, askBoth, ask, standIn?, settles]
  rfl

theorem hashEqual_builder (m : Module) (b : Builder) :
    m.hashEqual (.builder b) (.builder b) = .ok true := by
  have hkey : (Operand.HashKey.selection b.selectionSet == .selection b.selectionSet) = true :=
    beq_self_eq_true _
  simp only [hashEqual, standIn?, Operand.hashKey]
  exact congrArg Except.ok hkey

/-- **The last call wins.** Take a schema that can be planned, and a builder class of its module.
After any calls that all succeed, a builder of the class has selected fields of its type in the order
in which the schema declares them, each with the sub-selection of the last call that names it. If no
two types of the schema have one name and the tokens of the calls are those of the module, these are
exactly the fields that the calls name. Any other calls that succeed and give each field the same at
last end in an equal builder, with an equal hash and the same text. So calls on different fields may
change places, and a call that is made again changes nothing. -/
theorem last_call_wins (s : Schema) (plan : Plan) (hp : Plan.ofSchema s = .ok plan) (m : Module)
    (hm : ofPlan plan = .ok m) (cls : BuilderClass) (hcls : cls ∈ m.builders.values)
    (calls : List SelectCall) (b : Builder)
    (hb : (Builder.empty cls).selectAll calls = .ok b) :
    (∃ o ∈ s.objects, b.selectionSet =
      ⟨o.name, .ofList ((o.fields.map Field.name).filterMap (lastSelected calls))⟩) ∧
    ((s.objects.map ObjectType.name).Nodup → (∀ c ∈ calls, m.Offers c) →
      ∀ name, name ∈ b.selectionSet.fields.names ↔ ∃ c ∈ calls, c.Names name) ∧
    (∀ calls' b', (Builder.empty cls).selectAll calls' = .ok b' →
      (∀ name, lastSelected calls' name = lastSelected calls name) →
      b' = b ∧ m.compare (.builder b) (.builder b') = .ok (true, false) ∧
        m.hashEqual (.builder b) (.builder b') = .ok true ∧
        ∀ depth, b'.selectionSet.render depth = b.selectionSet.render depth) ∧
    (∀ before c d after, calls = before ++ c :: d :: after → c.Apart d →
      (Builder.empty cls).selectAll (before ++ d :: c :: after) = .ok b) ∧
    (∀ before c between after, calls = before ++ c :: between ++ after →
      (∀ d ∈ between, c.Apart d) →
      (Builder.empty cls).selectAll (before ++ c :: between ++ c :: after) = .ok b) := by
  have hfields := Builder.selectAll_eq_ok hb
  have htakes := Builder.exists_selectAll_iff.1 ⟨b, hb⟩
  refine ⟨?_, fun hn hoffers name => ?_, ?_, ?_, ?_⟩
  · obtain ⟨t, ht, rfl⟩ := exists_of_mem_builders hm hcls
    obtain ⟨o, hpairs⟩ := Plan.exists_pairs hp ht
    have horder : t.builderClass.order = o.fields.map Field.name := hpairs.map_name_fields
    refine ⟨o, hpairs.object, ?_⟩
    rw [hfields, ← horder, ← hpairs.of.name]
    rfl
  · rw [hfields]
    show name ∈ (Selection.inOrder cls.order (lastSelected calls)).names ↔ _
    rw [Selection.mem_names_inOrder fun _ _ => name_of_lastSelected, lastSelected_isSome]
    refine ⟨And.right, fun hnamed => ⟨?_, hnamed⟩⟩
    obtain ⟨c, hc, hname⟩ := hnamed
    exact mem_order_of_takes hn hp hm hcls (hoffers c hc) (htakes c hc) hname
  · intro calls' b' hb' hlast
    have hsame := Builder.selectAll_of_lastSelected hb (Builder.exists_selectAll_iff.1 ⟨b', hb'⟩)
      hlast
    obtain rfl : b' = b := Except.ok.inj (hb'.symm.trans hsame)
    exact ⟨rfl, compare_builder m b', hashEqual_builder m b', fun _ => rfl⟩
  · rintro before c d after rfl hapart
    refine Builder.selectAll_of_lastSelected hb (fun x hx => htakes x ?_) fun name =>
      lastSelected_swap before after hapart
    simp only [List.mem_append, List.mem_cons] at hx ⊢
    tauto
  · rintro before c between after rfl hapart
    refine Builder.selectAll_of_lastSelected hb (fun x hx => htakes x ?_) fun name =>
      lastSelected_again before between after hapart
    simp only [List.mem_append, List.mem_cons] at hx ⊢
    tauto

end Client.Module

/-! ## Selecting a field again -/

/-- The builder class of the type that refers to itself. -/
def BuilderClass.looped : BuilderClass :=
  ⟨"QuerySelection", "Query", ["n", "q"], .either, some "QueryResponse"⟩

/-- The token of its scalar field. -/
def FieldToken.loopedScalar : FieldToken := ⟨"_QueryNField", "Query", "n", none⟩

/-- The token of its object field. -/
def FieldToken.loopedObject : FieldToken := ⟨"_QueryQField", "Query", "q", some "Query"⟩

/-- Selects the object field, with a given sub-selection. -/
def SelectCall.nesting (sub : Selection) : SelectCall :=
  ⟨.token .loopedObject, some (.builder ⟨.looped, sub⟩)⟩

/-- Selects the scalar field. -/
def SelectCall.leaf : SelectCall := ⟨.token .loopedScalar, none⟩

theorem SelectCall.leaf_apart (sub : Selection) : leaf.Apart (nesting sub) := by
  rintro name ⟨f, hf, rfl⟩ ⟨g, hg, hname⟩
  cases hf
  cases hg
  exact absurd hname (show "q" ≠ "n" by decide)

/-- The object field is selected twice with the scalar one in between, which may as well come last:
the later sub-selection stays, behind the scalar field. -/
theorem Client.Module.last_call_wins_reselected :
    ∃ plan m, Plan.ofSchema .looped = .ok plan ∧ Module.ofPlan plan = .ok m ∧
      BuilderClass.looped ∈ m.builders.values ∧
      let earlier := SelectCall.nesting (.object "q" "Query" (.scalar "n" .nil) .nil)
      let later := SelectCall.nesting (.scalar "n" .nil)
      let b : Builder := ⟨.looped, .scalar "n" (.object "q" "Query" (.scalar "n" .nil) .nil)⟩
      (Builder.empty .looped).selectAll [earlier, .leaf, later] = .ok b ∧
      (∃ o ∈ Schema.looped.objects, b.selectionSet = ⟨o.name, .ofList
        ((o.fields.map Field.name).filterMap (lastSelected [earlier, .leaf, later]))⟩) ∧
      (∀ name, name ∈ b.selectionSet.fields.names ↔
        ∃ c ∈ [earlier, .leaf, later], c.Names name) ∧
      (Builder.empty .looped).selectAll [earlier, later, .leaf] = .ok b := by
  have hrun : ((Plan.ofSchema .looped).toOption.bind fun plan =>
      (Module.ofPlan plan).toOption).any (fun m =>
        m.builders.values.contains BuilderClass.looped &&
          (m.plan.types.flatMap fun t => t.fields.map fun f => f.token t) ==
            [.loopedScalar, .loopedObject]) = true := by
    decide +kernel
  obtain ⟨m, hm, hcheck⟩ := (Option.any_eq_true _ _).1 hrun
  simp only [Option.bind_eq_some_iff, toOption_eq_some] at hm
  obtain ⟨plan, hp, hm⟩ := hm
  simp only [Bool.and_eq_true, List.contains_iff_mem, beq_iff_eq] at hcheck
  obtain ⟨hcls, htokens⟩ := hcheck
  have htoken : ∀ t ∈ [FieldToken.loopedScalar, .loopedObject], m.HasToken t := by
    intro t ht
    rw [← htokens] at ht
    obtain ⟨u, hu, ht⟩ := List.mem_flatMap.1 ht
    obtain ⟨f, hf, rfl⟩ := List.mem_map.1 ht
    exact ⟨u, hu, f, hf, rfl⟩
  have hoffers : ∀ sub, m.Offers (.nesting sub) := by
    rintro sub _ ⟨⟩
    exact htoken _ (by decide)
  have hleaf : m.Offers .leaf := by
    rintro _ ⟨⟩
    exact htoken _ (by decide)
  refine ⟨plan, m, hp, hm, hcls, ?_⟩
  intro earlier later b
  have hb : (Builder.empty .looped).selectAll [earlier, .leaf, later] = .ok b :=
    toOption_eq_some.1 (by decide)
  obtain ⟨hfields, hnames, -, hswap, -⟩ :=
    last_call_wins .looped plan hp m hm .looped hcls [earlier, .leaf, later] b hb
  exact ⟨hb, hfields, hnames (by decide) (by simpa using ⟨hoffers _, hleaf, hoffers _⟩),
    hswap [earlier] .leaf later [] rfl (SelectCall.leaf_apart _)⟩

end TypedQuery
