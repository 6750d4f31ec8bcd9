import TypedQuery.Proofs.Client.Calls
import TypedQuery.Proofs.Response.Decoding

/-!
# Class bodies, line by line

The body of a class has one line for each field of its type. A line can see what the lines above it
have set, and this may stand in the way of the names that the line relies on.

* `TypePlan.Unobstructed`: no name that a line relies on is hidden or stands for another one.
* `foldlM_attributes`: what a body sets, whatever its lines are.
* `foldlM_eq_own_iff`: when each line sets the value of its own field.
* `runResponse_eq_own_iff`, `runTokens_eq_own_iff`: the same for response wrappers and namespaces.
* `Module.exists_clear`: a plan runs if nothing stands in the way of its types.
-/

namespace TypedQuery.Client

/-! ## Names -/

theorem mangle_eq {className name : String} (ha : IsAscii name) (hp : isPrivate name = false) :
    mangle className name = name := by
  simp [mangle, Text.unify_of_isAscii ha, hp]

/-- The name starts with two underscores, and not all of it are underscores. -/
def IsSpecial (name : String) : Prop :=
  (['_', '_'].isPrefixOf name.toList && name.toList.any (· != '_')) = true

instance (name : String) : Decidable (IsSpecial name) :=
  inferInstanceAs (Decidable ((_ && _) = true))

/-- A name that is not special is not private either: it ends as it starts. -/
theorem isPrivate_of_not_isSpecial {name : String} (h : ¬ IsSpecial name) :
    isPrivate name = false := by
  cases hstart : ['_', '_'].isPrefixOf name.toList with
  | false => rw [isPrivate, hstart, Bool.false_and]
  | true =>
    rw [IsSpecial, hstart, Bool.true_and, Bool.not_eq_true, List.any_eq_false] at h
    have hall : ∀ c ∈ name.toList, c = '_' := fun c hc => by simpa using h c hc
    obtain ⟨rest, hrest⟩ := List.isPrefixOf_iff_prefix.1 hstart
    have hend : ['_', '_'].isSuffixOf name.toList = true := by
      refine List.isSuffixOf_iff_suffix.2 ⟨List.replicate rest.length '_', ?_⟩
      rw [List.eq_replicate_of_mem hall, ← hrest, List.length_append, Nat.add_comm,
        ← List.replicate_append_replicate]
      rfl
    rw [isPrivate, hend, Bool.not_true, Bool.and_false]

/-- Underscores behind a name that does not start with two of them do not make it special. -/
theorem Names.Pads.not_isSpecial {name attr : String} (h : Pads name attr)
    (hn : ¬ Grammar.IsReserved name) (hne : name.toList ≠ []) : ¬ IsSpecial attr := by
  obtain ⟨k, hk⟩ := h.toList
  rw [Grammar.IsReserved, String.startsWith_string_iff] at hn
  intro hspecial
  rw [IsSpecial, hk, Bool.and_eq_true] at hspecial
  obtain ⟨hstart, hother⟩ := hspecial
  obtain ⟨c, cs, hname⟩ := List.exists_cons_of_ne_nil hne
  rw [hname] at hn hstart hother
  obtain ⟨rfl, hsecond⟩ := List.cons_prefix_cons.1 (List.isPrefixOf_iff_prefix.1 hstart)
  cases cs with
  | nil => simp at hother
  | cons d cs =>
    obtain ⟨rfl, -⟩ := List.cons_prefix_cons.1 hsecond
    exact hn ⟨cs, rfl⟩

/-! ## What a body sets -/

/-- Attributes that class bodies can set one after the other. -/
structure Settable (fields : List FieldPlan) : Prop where
  nodup : (fields.map FieldPlan.attr).Nodup
  ascii : ∀ f ∈ fields, IsAscii f.attr
  not_special : ∀ f ∈ fields, ¬ IsSpecial f.attr

namespace Settable

variable {α : Type} {f : FieldPlan} {fields : List FieldPlan} {className : String}

theorem sublist {rest : List FieldPlan} (h : Settable fields) (hsub : rest.Sublist fields) :
    Settable rest :=
  ⟨(hsub.map _).nodup h.nodup, fun g hg => h.ascii g (hsub.subset hg),
    fun g hg => h.not_special g (hsub.subset hg)⟩

/-- The attribute of a field is set under its own name, behind those that are set already. -/
theorem set_eq (h : Settable (f :: fields)) {table : Table α} (hf : f.attr ∉ table.names) (v : α) :
    ClassBody.set ⟨className, table⟩ f.attr v = ⟨className, table ++ [(f.attr, v)]⟩ := by
  have hself := List.mem_cons_self (a := f) (l := fields)
  have hpublic := isPrivate_of_not_isSpecial (h.not_special f hself)
  rw [ClassBody.set, mangle_eq (h.ascii f hself) hpublic, Table.put_of_not_mem hf]

theorem not_mem_next (h : Settable (f :: fields)) {table : Table α}
    (hnew : ∀ g ∈ f :: fields, g.attr ∉ table.names) (v : α) :
    ∀ g ∈ fields, g.attr ∉ Table.names (table ++ [(f.attr, v)]) := by
  intro g hg hmem
  rw [Table.names, List.map_append, List.mem_append] at hmem
  rcases hmem with hmem | hmem
  · exact hnew g (List.mem_cons_of_mem _ hg) hmem
  · obtain hsame : g.attr = f.attr := List.mem_singleton.1 hmem
    exact (List.nodup_cons.1 h.nodup).1 (hsame ▸ List.mem_map_of_mem hg)

end Settable

/-! ### The values of the fields themselves -/

/-- The attributes of fields, each with the value of its field. -/
def ownTable {α : Type} (value : FieldPlan → α) (fields : List FieldPlan) : Table α :=
  fields.map fun f => (f.attr, value f)

section

variable {α : Type} {className : String} {value : FieldPlan → α} {done rest fields : List FieldPlan}
  {f : FieldPlan}

theorem names_ownTable : (ownTable value fields).names = fields.map FieldPlan.attr := by
  simp [ownTable, Table.names, Function.comp_def]

namespace Settable

theorem get?_ownTable (hs : Settable fields) (hf : f ∈ fields) :
    (ownTable value fields).get? f.attr = some (value f) := by
  refine Table.get?_eq_some ?_ (List.mem_map.2 ⟨f, hf, rfl⟩)
  rw [names_ownTable]
  exact hs.nodup

theorem names_not_special (hs : Settable fields) :
    ∀ n ∈ (ownTable value fields).names, ¬ IsSpecial n := by
  intro n hn
  rw [names_ownTable] at hn
  obtain ⟨g, hg, rfl⟩ := List.mem_map.1 hn
  exact hs.not_special g hg

theorem not_mem_ownTable (hs : Settable (done ++ rest)) :
    ∀ g ∈ rest, g.attr ∉ (ownTable value done).names := by
  intro g hg hmem
  have hn := hs.nodup
  rw [List.map_append, List.nodup_append] at hn
  rw [names_ownTable] at hmem
  exact hn.2.2 _ hmem _ (List.mem_map_of_mem hg) rfl

theorem set_ownTable (hs : Settable (done ++ f :: rest)) :
    ClassBody.set ⟨className, ownTable value done⟩ f.attr (value f) =
      ⟨className, ownTable value (done ++ [f])⟩ := by
  rw [(hs.sublist (List.sublist_append_right ..)).set_eq
    (hs.not_mem_ownTable f (List.mem_cons_self ..))]
  simp [ownTable]

end Settable

end

/-! ### Lines -/

section

variable {α : Type} {className : String} {fields : List FieldPlan}
  {line : ClassBody α → FieldPlan → Except LoadError (ClassBody α)} {R : FieldPlan → α → Prop}

/-- What a body sets, if its lines set the attributes of their fields: these attributes, behind
those that were set before, in order. -/
theorem foldlM_attributes (hs : Settable fields)
    (hline : ∀ table f b', line ⟨className, table⟩ f = .ok b' →
      ∃ v, R f v ∧ b' = ClassBody.set ⟨className, table⟩ f.attr v)
    {table : Table α} (hnew : ∀ f ∈ fields, f.attr ∉ table.names) {b : ClassBody α}
    (h : fields.foldlM line ⟨className, table⟩ = .ok b) :
    ∃ entries, b = ⟨className, table ++ entries⟩ ∧
      Aligned (fun _ f e => e.1 = f.attr ∧ R f e.2) fields entries := by
  induction fields generalizing table with
  | nil =>
    cases h
    exact ⟨[], by rw [List.append_nil], .nil⟩
  | cons f fields ih =>
    rw [List.foldlM_cons, bind_eq_ok] at h
    obtain ⟨b₁, hb₁, h⟩ := h
    obtain ⟨v, hv, rfl⟩ := hline table f b₁ hb₁
    rw [hs.set_eq (hnew f (List.mem_cons_self ..))] at h
    obtain ⟨entries, rfl, hentries⟩ :=
      ih (hs.sublist (List.sublist_cons_self ..)) (hs.not_mem_next hnew v) h
    exact ⟨(f.attr, v) :: entries, by simp, .cons ⟨rfl, hv⟩ hentries⟩

/-- All fields get their own values if and only if the first line sets the value of its field and
the lines below it set the others. -/
theorem foldlM_cons_eq_own_iff {value : FieldPlan → α} {done rest : List FieldPlan} {f : FieldPlan}
    (hs : Settable (done ++ f :: rest))
    (hline : ∀ table f b', line ⟨className, table⟩ f = .ok b' →
      ∃ v, R f v ∧ b' = ClassBody.set ⟨className, table⟩ f.attr v) :
    (f :: rest).foldlM line ⟨className, ownTable value done⟩ =
        .ok ⟨className, ownTable value (done ++ f :: rest)⟩ ↔
      line ⟨className, ownTable value done⟩ f =
        .ok (ClassBody.set ⟨className, ownTable value done⟩ f.attr (value f)) ∧
      rest.foldlM line ⟨className, ownTable value (done ++ [f])⟩ =
        .ok ⟨className, ownTable value (done ++ f :: rest)⟩ := by
  have htail : Settable (f :: rest) := hs.sublist (List.sublist_append_right ..)
  rw [List.foldlM_cons, bind_eq_ok, ← hs.set_ownTable]
  constructor
  · rintro ⟨b, hb, h⟩
    obtain ⟨v, -, rfl⟩ := hline _ f b hb
    -- Lines only add attributes, so the value that this line sets is there in the end.
    have hv : value f = v := by
      rw [htail.set_eq (hs.not_mem_ownTable f (List.mem_cons_self ..))] at h
      obtain ⟨entries, he, -⟩ := foldlM_attributes (htail.sublist (List.sublist_cons_self ..)) hline
        (htail.not_mem_next hs.not_mem_ownTable v) h
      rw [ClassBody.mk.injEq, ownTable, List.map_append, List.map_cons, List.append_assoc] at he
      exact (Prod.mk.inj (List.cons.inj (List.append_cancel_left he.2)).1).2
    subst hv
    exact ⟨hb, h⟩
  · rintro ⟨hb, h⟩
    exact ⟨_, hb, h⟩

/-- A body sets the values of its own fields if and only if each line can do so, and no line sets a
name that a later one relies on. -/
theorem foldlM_eq_own_iff {value : FieldPlan → α} {P : FieldPlan → Prop}
    {needs : FieldPlan → List String} (hs : Settable fields)
    (hline : ∀ table f b', line ⟨className, table⟩ f = .ok b' →
      ∃ v, R f v ∧ b' = ClassBody.set ⟨className, table⟩ f.attr v)
    (hown : ∀ table : Table α, (∀ n ∈ table.names, ¬ IsSpecial n) → ∀ f ∈ fields,
      (line ⟨className, table⟩ f = .ok (ClassBody.set ⟨className, table⟩ f.attr (value f)) ↔
        P f ∧ ∀ n ∈ table.names, n ∉ needs f)) :
    fields.foldlM line ⟨className, []⟩ = .ok ⟨className, ownTable value fields⟩ ↔
      (∀ f ∈ fields, P f) ∧ fields.Pairwise fun g f => g.attr ∉ needs f := by
  suffices hrest : ∀ rest done, fields = done ++ rest →
      (rest.foldlM line ⟨className, ownTable value done⟩ = .ok ⟨className, ownTable value fields⟩ ↔
        (∀ f ∈ rest, P f ∧ ∀ g ∈ done, g.attr ∉ needs f) ∧
          rest.Pairwise fun g f => g.attr ∉ needs f) by
    simpa [ownTable] using hrest fields [] rfl
  intro rest
  induction rest with
  | nil =>
    rintro done rfl
    simp [pure, Except.pure]
  | cons f rest ih =>
    rintro done rfl
    have hdone : Settable done := hs.sublist (List.sublist_append_left ..)
    rw [foldlM_cons_eq_own_iff hs hline, hown _ hdone.names_not_special f (by simp),
      ih (done ++ [f]) (by simp), names_ownTable]
    simp only [List.forall_mem_cons, List.pairwise_cons, List.mem_append, List.mem_singleton,
      List.forall_mem_map]
    grind

end

/-! ## Attributes in a body -/

theorem get?_of_isSpecial {α : Type} {table : Table α} (h : ∀ n ∈ table.names, ¬ IsSpecial n)
    {name : String} (hn : IsSpecial name) : table.get? name = none :=
  Table.get?_eq_none.2 fun hmem => h name hmem hn

namespace ClassBody

variable {α : Type} {b : ClassBody α} {name : String}

theorem find?_eq_none_iff : b.find? name = none ↔ mangle b.className name ∉ b.attributes.names :=
  Table.get?_eq_none

theorem set_inj {v w : α} (h : b.set name v = b.set name w) : v = w := by
  have hget := congrArg (fun b' : ClassBody α => b'.attributes.get? (mangle b.className name)) h
  simpa [set, Table.get?_put] using hget

theorem mem_names_set {v : α} {n : String} (h : n ∈ (b.set name v).attributes.names) :
    n ∈ b.attributes.names ∨ n = mangle b.className name := by
  obtain ⟨e, he, rfl⟩ := List.mem_map.1 h
  rcases Table.mem_put he with he | rfl
  · exact .inl (List.mem_map_of_mem he)
  · exact .inr rfl

end ClassBody

/-! ## Response wrappers -/

/-- The scalar kind that an expression names, if it reads scalars. -/
def DecoderExpr.kind? : DecoderExpr → Option Primitive
  | .nullable d => d.kind?
  | .list d => d.kind?
  | .primitive k => some k
  | .object _ => none

theorem supported_eq_ok_iff {b : ClassBody Accessor} {decoderClass : String} {u : Unit} :
    supported b decoderClass = .ok u ↔ b.find? "_rt" = none := by
  unfold supported
  split <;> simp [*]

/-- An expression gives the decoder that it stands for if and only if it sees the support module and
the scalar kind that it names. -/
theorem DecoderExpr.eval_eq_own_iff (b : ClassBody Accessor) (d : DecoderExpr) :
    d.eval b = .ok d.decoder ↔ b.find? "_rt" = none ∧ ∀ k ∈ d.kind?, b.find? k.name = none := by
  induction d with
  | nullable d ih =>
    simp only [eval, decoder, bind_eq_ok, supported_eq_ok_iff, pure_eq_ok, Decoder.nullable.injEq,
      exists_eq_right, ih, kind?]
    simp
  | list d ih =>
    simp only [eval, decoder, bind_eq_ok, supported_eq_ok_iff, pure_eq_ok, Decoder.list.injEq,
      exists_eq_right, ih, kind?]
    simp
  | primitive k =>
    simp only [eval, decoder, bind_eq_ok, supported_eq_ok_iff, kind?]
    cases hk : b.find? k.name <;> simp [pure_eq_ok, hk]
  | object w =>
    simp only [eval, decoder, bind_eq_ok, supported_eq_ok_iff, pure_eq_ok, kind?]
    simp

/-- What the line of a field in a response wrapper does. -/
theorem runAccessorLine_eq_ok_iff {classes : List String} {b b' : ClassBody Accessor}
    {f : FieldPlan} :
    runAccessorLine classes b f = .ok b' ↔
      b.find? f.accessorClass = none ∧ mangle b.className f.accessorClass ∈ classes ∧
      ∃ d, f.decoder.eval b = .ok d ∧
        b' = b.set f.attr ⟨mangle b.className f.accessorClass, f.name, d⟩ ∧
        b'.find? "__annotations__" = none := by
  unfold runAccessorLine
  cases hfind : b.find? f.accessorClass with
  | some a => simp [bind_eq_ok]
  | none =>
    by_cases hclass : mangle b.className f.accessorClass ∈ classes
    · simp only [List.contains_iff_mem, hclass, if_true, bind_eq_ok, true_and]
      refine exists_congr fun d => and_congr_right fun _ => ?_
      split
      · rename_i a hann
        refine ⟨nofun, ?_⟩
        rintro ⟨rfl, hnone⟩
        rw [hann] at hnone
        cases hnone
      · rename_i hann
        rw [pure_eq_ok]
        exact ⟨by rintro rfl; exact ⟨rfl, hann⟩, fun h => h.1.symm⟩
    · simp [hclass]

/-- The accessor of a field, with the decoder that its type asks for. -/
def TypePlan.accessor (t : TypePlan) (f : FieldPlan) : Accessor :=
  ⟨mangle t.names.response f.accessorClass, f.name, f.decoder.decoder⟩

/-- The names that the line of a field in a response wrapper relies on. -/
def FieldPlan.accessorNeeds (t : TypePlan) (f : FieldPlan) : List String :=
  "_rt" :: mangle t.names.response f.accessorClass :: (f.decoder.kind?.map Primitive.name).toList

/-- Nothing that the line of a field relies on is hidden. -/
theorem FieldPlan.forall_not_mem_accessorNeeds {t : TypePlan} {f : FieldPlan}
    {table : Table Accessor} :
    (∀ n ∈ table.names, n ∉ f.accessorNeeds t) ↔
      ClassBody.find? ⟨t.names.response, table⟩ f.accessorClass = none ∧
      f.decoder.eval ⟨t.names.response, table⟩ = .ok f.decoder.decoder := by
  have hkind : ∀ (k : Primitive) c, mangle c k.name = k.name := fun k c =>
    mangle_eq (by cases k <;> decide) (by cases k <;> decide)
  have hsupport : ∀ c, mangle c "_rt" = "_rt" := fun c => mangle_eq (by decide) (by decide)
  simp only [DecoderExpr.eval_eq_own_iff, ClassBody.find?_eq_none_iff, hkind, hsupport,
    accessorNeeds]
  cases f.decoder.kind? <;> simp <;> grind

theorem runAccessorLine_eq_own_iff {classes : List String} {t : TypePlan} {f : FieldPlan}
    (ha : IsAscii f.attr) (hn : ¬ IsSpecial f.attr) {table : Table Accessor}
    (htable : ∀ n ∈ table.names, ¬ IsSpecial n) :
    runAccessorLine classes ⟨t.names.response, table⟩ f =
        .ok (ClassBody.set ⟨t.names.response, table⟩ f.attr (t.accessor f)) ↔
      mangle t.names.response f.accessorClass ∈ classes ∧
        ∀ n ∈ table.names, n ∉ f.accessorNeeds t := by
  have hann : ClassBody.find? (ClassBody.set ⟨t.names.response, table⟩ f.attr (t.accessor f))
      "__annotations__" = none := by
    rw [ClassBody.find?_eq_none_iff, mangle_eq (by decide) (by decide)]
    intro hmem
    rcases ClassBody.mem_names_set hmem with hmem | hmem
    · exact htable _ hmem (by decide)
    · rw [mangle_eq ha (isPrivate_of_not_isSpecial hn)] at hmem
      exact hn (hmem ▸ by decide)
  rw [runAccessorLine_eq_ok_iff, FieldPlan.forall_not_mem_accessorNeeds]
  constructor
  · rintro ⟨hfind, hclass, d, heval, hset, -⟩
    obtain rfl : f.decoder.decoder = d := (Accessor.mk.inj (ClassBody.set_inj hset)).2.2
    exact ⟨hclass, hfind, heval⟩
  · rintro ⟨hclass, hfind, heval⟩
    exact ⟨hfind, hclass, _, heval, rfl, hann⟩

theorem checkClass_eq_ok {table : Table Accessor} (h : ∀ n ∈ table.names, ¬ IsSpecial n) :
    checkClass table = .ok () := by
  simp only [checkClass, get?_of_isSpecial h (show IsSpecial "__slots__" by decide),
    get?_of_isSpecial h (show IsSpecial "__qualname__" by decide),
    get?_of_isSpecial h (show IsSpecial "__classcell__" by decide)]

theorem exists_of_runAccessorLine {classes : List String} {t : TypePlan} (table : Table Accessor)
    (f : FieldPlan) (b : ClassBody Accessor)
    (h : runAccessorLine classes ⟨t.names.response, table⟩ f = .ok b) :
    ∃ a, (a.className = mangle t.names.response f.accessorClass ∧ a.field = f.name) ∧
      b = ClassBody.set ⟨t.names.response, table⟩ f.attr a := by
  obtain ⟨-, -, d, -, hset, -⟩ := runAccessorLine_eq_ok_iff.1 h
  exact ⟨_, ⟨rfl, rfl⟩, hset⟩

/-- The accessors that the body of a response wrapper sets, whatever their decoders are. -/
theorem aligned_of_runResponse {classes : List String} {t : TypePlan} (hs : Settable t.fields)
    {accessors : Table Accessor} (h : runResponse classes t = .ok accessors) :
    Aligned (fun _ f e => e.1 = f.attr ∧
      e.2.className = mangle t.names.response f.accessorClass ∧ e.2.field = f.name)
      t.fields accessors := by
  simp only [runResponse, bind_eq_ok, pure_eq_ok] at h
  obtain ⟨b, hb, -, -, rfl⟩ := h
  obtain ⟨entries, rfl, hentries⟩ :=
    foldlM_attributes hs exists_of_runAccessorLine (by simp [Table.names]) hb
  exact hentries

/-- The body of a response wrapper sets the accessors of its fields, each with the decoder that its
type asks for, if and only if all accessor classes are found and no name is hidden. -/
theorem runResponse_eq_own_iff {classes : List String} {t : TypePlan} (hs : Settable t.fields) :
    runResponse classes t = .ok (ownTable t.accessor t.fields) ↔
      (∀ f ∈ t.fields, mangle t.names.response f.accessorClass ∈ classes) ∧
        t.fields.Pairwise fun g f => g.attr ∉ f.accessorNeeds t := by
  rw [← foldlM_eq_own_iff hs exists_of_runAccessorLine fun table htable f hf =>
    runAccessorLine_eq_own_iff (hs.ascii f hf) (hs.not_special f hf) htable]
  simp only [runResponse, bind_eq_ok, pure_eq_ok]
  constructor
  · rintro ⟨b, hb, -, -, hown⟩
    obtain ⟨entries, rfl, -⟩ :=
      foldlM_attributes hs exists_of_runAccessorLine (by simp [Table.names]) hb
    rwa [← hown]
  · intro h
    exact ⟨_, h, (), checkClass_eq_ok hs.names_not_special, rfl⟩

/-! ## Namespaces -/

/-- What the line of a field in a namespace does. -/
theorem runTokenLine_eq_ok_iff {classes : Table FieldToken} {b b' : ClassBody FieldToken}
    {f : FieldPlan} :
    runTokenLine classes b f = .ok b' ↔ b.find? f.tokenClass = none ∧
      ∃ tok, classes.get? (mangle b.className f.tokenClass) = some tok ∧
        b' = b.set f.attr tok := by
  unfold runTokenLine
  cases b.find? f.tokenClass with
  | some tok => simp
  | none => cases hget : classes.get? (mangle b.className f.tokenClass) <;> simp [hget, eq_comm]

theorem runTokenLine_eq_own_iff {classes : Table FieldToken} {t : TypePlan} {f : FieldPlan}
    {table : Table FieldToken} :
    runTokenLine classes ⟨t.names.tokens, table⟩ f =
        .ok (ClassBody.set ⟨t.names.tokens, table⟩ f.attr (f.token t)) ↔
      classes.get? (mangle t.names.tokens f.tokenClass) = some (f.token t) ∧
        ∀ n ∈ table.names, n ∉ [mangle t.names.tokens f.tokenClass] := by
  rw [runTokenLine_eq_ok_iff, ClassBody.find?_eq_none_iff]
  constructor
  · rintro ⟨hfind, tok, htok, hset⟩
    obtain rfl := ClassBody.set_inj hset
    exact ⟨htok, fun n hn hmem => hfind (List.mem_singleton.1 hmem ▸ hn)⟩
  · rintro ⟨htok, hneeds⟩
    exact ⟨fun hmem => hneeds _ hmem (List.mem_singleton_self _), _, htok, rfl⟩

theorem exists_of_runTokenLine {classes : Table FieldToken} {t : TypePlan}
    (table : Table FieldToken) (f : FieldPlan) (b : ClassBody FieldToken)
    (h : runTokenLine classes ⟨t.names.tokens, table⟩ f = .ok b) :
    ∃ tok, classes.get? (mangle t.names.tokens f.tokenClass) = some tok ∧
      b = ClassBody.set ⟨t.names.tokens, table⟩ f.attr tok :=
  (runTokenLine_eq_ok_iff.1 h).2

theorem aligned_of_runTokens {classes : Table FieldToken} {t : TypePlan} (hs : Settable t.fields)
    {tokens : Table FieldToken} (h : runTokens classes t = .ok tokens) :
    Aligned (fun _ f e => e.1 = f.attr ∧
      classes.get? (mangle t.names.tokens f.tokenClass) = some e.2) t.fields tokens := by
  simp only [runTokens, bind_eq_ok, pure_eq_ok] at h
  obtain ⟨b, hb, rfl⟩ := h
  obtain ⟨entries, rfl, hentries⟩ :=
    foldlM_attributes hs exists_of_runTokenLine (by simp [Table.names]) hb
  exact hentries

/-- The body of a namespace sets the tokens of its fields if and only if these are what their token
classes stand for and no token class is hidden. -/
theorem runTokens_eq_own_iff {classes : Table FieldToken} {t : TypePlan} (hs : Settable t.fields) :
    runTokens classes t = .ok (ownTable (·.token t) t.fields) ↔
      (∀ f ∈ t.fields, classes.get? (mangle t.names.tokens f.tokenClass) = some (f.token t)) ∧
        t.fields.Pairwise fun g f => g.attr ∉ [mangle t.names.tokens f.tokenClass] := by
  rw [← foldlM_eq_own_iff hs exists_of_runTokenLine fun table _ f _ => runTokenLine_eq_own_iff]
  simp only [runTokens, bind_eq_ok, pure_eq_ok]
  constructor
  · rintro ⟨b, hb, hown⟩
    obtain ⟨entries, rfl, -⟩ :=
      foldlM_attributes hs exists_of_runTokenLine (by simp [Table.names]) hb
    rwa [← hown]
  · intro h
    exact ⟨_, h, rfl⟩

theorem sublist_flatMap_classNames (ts : List TypePlan) :
    (ts.flatMap fun t => t.fields.map FieldPlan.tokenClass).Sublist
      (ts.flatMap fun t => Plan.classNames t.fields) := by
  induction ts with
  | nil => exact .slnil
  | cons t ts ih => exact (Plan.sublist_classNames t.fields).append ih

theorem Plan.Coherent.get?_tokenTable {plan : Plan} (hc : plan.Coherent) {t : TypePlan}
    (ht : t ∈ plan.types) {f : FieldPlan} (hf : f ∈ t.fields) :
    plan.tokenTable.get? f.tokenClass = some (f.token t) := by
  have hascii : (plan.types.flatMap fun t => t.fields.map fun f =>
      (Text.unify f.tokenClass, f.token t)) =
      plan.types.flatMap fun t => t.fields.map fun f => (f.tokenClass, f.token t) := by
    refine List.flatMap_congr fun t ht => List.map_congr_left fun f hf => ?_
    rw [Text.unify_of_isAscii ((hc.ascii t ht).tokenClass f hf)]
  have hn : (Table.names (plan.types.flatMap fun t => t.fields.map fun f =>
      (f.tokenClass, f.token t))).Nodup := by
    obtain ⟨-, -, -, -, hclasses, -⟩ := hc.distinct
    refine (List.Sublist.nodup ?_ hclasses)
    simpa [Table.names, List.map_flatMap, Function.comp_def] using
      sublist_flatMap_classNames plan.types
  rw [Plan.tokenTable, hascii, Table.ofList_of_nodup hn]
  exact Table.get?_eq_some hn (List.mem_flatMap.2 ⟨t, ht, List.mem_map.2 ⟨f, hf, rfl⟩⟩)

/-- The token of a field stands under the name of its own class only. -/
theorem Plan.Coherent.get?_tokenTable_iff {plan : Plan} (hc : plan.Coherent) {t : TypePlan}
    (ht : t ∈ plan.types) {f : FieldPlan} (hf : f ∈ t.fields) {name : String} :
    plan.tokenTable.get? name = some (f.token t) ↔ name = f.tokenClass := by
  constructor
  · intro h
    obtain ⟨u, -, hu⟩ := List.mem_flatMap.1 (Table.mem_ofList (Table.mem_of_get? h))
    obtain ⟨g, -, he⟩ := List.mem_map.1 hu
    obtain ⟨rfl, htoken⟩ := Prod.mk.inj he
    exact (congrArg FieldToken.className htoken).trans
      (Text.unify_of_isAscii ((hc.ascii t ht).tokenClass f hf))
  · rintro rfl
    exact hc.get?_tokenTable ht hf

/-! ## Types -/

/-- The names that the lines of a field rely on. -/
def FieldPlan.reliesOn (t : TypePlan) (f : FieldPlan) : List String :=
  mangle t.names.tokens f.tokenClass :: f.accessorNeeds t

/-- Nothing stands in the way of the lines for a type: its token classes are known by their own
names in the body of the namespace, its accessor classes by names of accessor classes in the body of
the response wrapper, and no field hides a name that a later one relies on. -/
structure TypePlan.Unobstructed (plan : Plan) (t : TypePlan) : Prop where
  tokenClass : ∀ f ∈ t.fields, mangle t.names.tokens f.tokenClass = f.tokenClass
  accessorClass : ∀ f ∈ t.fields,
    mangle t.names.response f.accessorClass ∈ plan.accessorClasses
  visible : t.fields.Pairwise fun g f => g.attr ∉ f.reliesOn t

instance (plan : Plan) (t : TypePlan) : Decidable (t.Unobstructed plan) :=
  decidable_of_iff
    ((∀ f ∈ t.fields, mangle t.names.tokens f.tokenClass = f.tokenClass) ∧
      (∀ f ∈ t.fields, mangle t.names.response f.accessorClass ∈ plan.accessorClasses) ∧
      t.fields.Pairwise fun g f => g.attr ∉ f.reliesOn t)
    ⟨fun ⟨h₁, h₂, h₃⟩ => ⟨h₁, h₂, h₃⟩, fun h => ⟨h.tokenClass, h.accessorClass, h.visible⟩⟩

/-- Nothing stands in the way if and only if both bodies set what belongs to their fields. -/
theorem TypePlan.unobstructed_iff {plan : Plan} (hc : plan.Coherent) {t : TypePlan}
    (ht : t ∈ plan.types) (hs : Settable t.fields) :
    t.Unobstructed plan ↔
      runResponse plan.accessorClasses t = .ok (ownTable t.accessor t.fields) ∧
      runTokens plan.tokenTable t = .ok (ownTable (·.token t) t.fields) := by
  have htoken : (∀ f ∈ t.fields,
        plan.tokenTable.get? (mangle t.names.tokens f.tokenClass) = some (f.token t)) ↔
      ∀ f ∈ t.fields, mangle t.names.tokens f.tokenClass = f.tokenClass :=
    forall₂_congr fun f hf => hc.get?_tokenTable_iff ht hf
  have hvisible : (t.fields.Pairwise fun g f => g.attr ∉ f.reliesOn t) ↔
      (t.fields.Pairwise fun g f => g.attr ∉ [mangle t.names.tokens f.tokenClass]) ∧
        t.fields.Pairwise fun g f => g.attr ∉ f.accessorNeeds t := by
    simp [← List.pairwise_and_iff, FieldPlan.reliesOn]
  rw [runResponse_eq_own_iff hs, runTokens_eq_own_iff hs, htoken]
  constructor
  · rintro ⟨h₁, h₂, h₃⟩
    obtain ⟨htokens, haccessors⟩ := hvisible.1 h₃
    exact ⟨⟨h₂, haccessors⟩, h₁, htokens⟩
  · rintro ⟨⟨h₂, haccessors⟩, h₁, htokens⟩
    exact ⟨h₁, h₂, hvisible.2 ⟨htokens, haccessors⟩⟩

/-- The attributes of a well-formed type can be set one after the other. -/
theorem Plan.Pairs.settable {s : Schema} {plan : Plan} {o : ObjectType} {p : TypePlan}
    (hw : s.WellFormed) (hc : plan.Coherent) (h : Plan.Pairs s plan o p) : Settable p.fields := by
  refine ⟨hc.attrs_nodup p h.type, (hc.ascii p h.type).attr, fun f hf => ?_⟩
  have ho := hw.types_wellFormed o h.object
  obtain ⟨g, hg, i, hof⟩ := h.exists_field hf
  exact ((Plan.pads_wantedAttribute g.name).trans hof.attr).not_isSpecial
    (ho.fields_not_reserved g hg) (ho.fields_isName g hg).toList_ne_nil

/-! ## Builders -/

theorem Plan.Coherent.typeOfWrapper?_eq {plan : Plan} (hc : plan.Coherent) {t : TypePlan}
    (ht : t ∈ plan.types) : plan.typeOfWrapper? t.names.response = some t := by
  have hsome : (plan.typeOfWrapper? t.names.response).isSome := by
    rw [typeOfWrapper?, List.find?_isSome]
    refine ⟨t, List.mem_reverse.2 ht, ?_⟩
    rw [Text.unify_of_isAscii (hc.ascii t ht).response, beq_self_eq_true]
  obtain ⟨u, hu⟩ := Option.isSome_iff_exists.1 hsome
  have hmem : u ∈ plan.types := List.mem_reverse.1 (List.mem_of_find?_eq_some hu)
  have hname : u.names.response = t.names.response := by
    have := List.find?_some hu
    rwa [Text.unify_of_isAscii (hc.ascii u hmem).response, beq_iff_eq] at this
  rw [hu, List.inj_on_of_nodup_map hc.distinct.2.1 hmem ht hname]

theorem Plan.Coherent.runBuilderHead_eq_ok {plan : Plan} (hc : plan.Coherent) {t : TypePlan}
    (ht : t ∈ plan.types) {responses : Table (Table Accessor)} {accessors : Table Accessor}
    (h : responses.get? t.names.response = some accessors)
    (hn : ∀ n ∈ accessors.names, ¬ IsSpecial n) : runBuilderHead plan responses t = .ok () := by
  simp only [runBuilderHead, Text.unify_of_isAscii (hc.ascii t ht).response, h, Option.bind_some,
    get?_of_isSpecial hn (show IsSpecial "__class_getitem__" by decide), hc.typeOfWrapper?_eq ht,
    if_true]

/-! ## Modules -/

/-- The response wrappers of a plan by their names, where nothing stands in the way. -/
def Plan.ownResponses (plan : Plan) : Table (Table Accessor) :=
  plan.types.map fun t => (t.names.response, ownTable t.accessor t.fields)

/-- The namespaces of a plan by their names, where nothing stands in the way. -/
def Plan.ownNamespaces (plan : Plan) : Table (Table FieldToken) :=
  plan.types.map fun t => (t.names.tokens, ownTable (·.token t) t.fields)

theorem Plan.Coherent.nodup_ownResponses {plan : Plan} (hc : plan.Coherent) :
    plan.ownResponses.names.Nodup := by
  rw [Table.names, ownResponses, List.map_map]
  exact hc.distinct.2.1

theorem Plan.Coherent.nodup_ownNamespaces {plan : Plan} (hc : plan.Coherent) :
    plan.ownNamespaces.names.Nodup := by
  rw [Table.names, ownNamespaces, List.map_map]
  exact hc.distinct.1

theorem Plan.Coherent.get?_ownResponses {plan : Plan} (hc : plan.Coherent) {t : TypePlan}
    (ht : t ∈ plan.types) :
    plan.ownResponses.get? t.names.response = some (ownTable t.accessor t.fields) :=
  Table.get?_eq_some hc.nodup_ownResponses (List.mem_map.2 ⟨t, ht, rfl⟩)

theorem Plan.Coherent.get?_ownNamespaces {plan : Plan} (hc : plan.Coherent) {t : TypePlan}
    (ht : t ∈ plan.types) :
    plan.ownNamespaces.get? t.names.tokens = some (ownTable (·.token t) t.fields) :=
  Table.get?_eq_some hc.nodup_ownNamespaces (List.mem_map.2 ⟨t, ht, rfl⟩)

/-- The module of a plan in which nothing stands in the way. -/
structure Module.Clear (plan : Plan) (m : Module) : Prop where
  coherent : plan.Coherent
  settable : ∀ t ∈ plan.types, Settable t.fields
  responses : m.responses = plan.ownResponses
  namespaces : m.namespaces = plan.ownNamespaces

namespace Module

variable {plan : Plan} {m : Module}

/-- A plan in which nothing stands in the way runs. -/
theorem exists_clear (hc : plan.Coherent) (hs : ∀ t ∈ plan.types, Settable t.fields)
    (h : ∀ t ∈ plan.types, t.Unobstructed plan) : ∃ m, ofPlan plan = .ok m ∧ m.Clear plan := by
  have hbodies := fun t ht => (TypePlan.unobstructed_iff hc ht (hs t ht)).1 (h t ht)
  have hresponses : Table.ofList plan.ownResponses = plan.ownResponses :=
    Table.ofList_of_nodup hc.nodup_ownResponses
  have hnamespaces : Table.ofList plan.ownNamespaces = plan.ownNamespaces :=
    Table.ofList_of_nodup hc.nodup_ownNamespaces
  refine ⟨⟨plan, plan.ownResponses, plan.ownNamespaces,
    .ofList (plan.types.map fun t => (Text.unify t.names.builder, t.builderClass))⟩, ?_,
    hc, hs, rfl, rfl⟩
  simp only [ofPlan, bind_eq_ok, mapM_eq_ok, pure_eq_ok]
  refine ⟨plan.ownResponses, .map fun t ht => ?_, _, .map fun t ht => ?_, plan.ownNamespaces,
    .map fun t ht => ?_, by rw [hresponses, hnamespaces]⟩
  · exact ⟨_, (hbodies t ht).1, by rw [Text.unify_of_isAscii (hc.ascii t ht).response]⟩
  · rw [hresponses]
    exact ⟨(), hc.runBuilderHead_eq_ok ht (hc.get?_ownResponses ht) (hs t ht).names_not_special,
      rfl⟩
  · exact ⟨_, (hbodies t ht).2, by rw [Text.unify_of_isAscii (hc.ascii t ht).tokens]⟩

namespace Clear

variable {t : TypePlan}

theorem get?_responses (h : m.Clear plan) (ht : t ∈ plan.types) :
    m.responses.get? t.names.response = some (ownTable t.accessor t.fields) := by
  rw [h.responses]
  exact h.coherent.get?_ownResponses ht

theorem read_eq (h : m.Clear plan) (ht : t ∈ plan.types) {r : Response}
    (hw : r.wrapper = t.names.response) (a : Accessor) : m.read r a = r.read m.scope a := by
  have hlost : (m.responses.get? r.wrapper).bind (·.get? "__module__") = none := by
    rw [hw, h.get?_responses ht]
    exact get?_of_isSpecial (h.settable t ht).names_not_special (by decide)
  rw [read, hlost]
  rfl

end Clear

end Module

end TypedQuery.Client
