import TypedQuery.Proofs.Schema.Collecting
import TypedQuery.Proofs.Schema.Reading

/-!
# Well-formed schemas

Whatever sources a collector was given, and however many of them were refused halfway, a schema that
it builds is well formed: its types are, and every name in it refers to something.

* `ObjectType.WellFormed`, `Schema.WellFormed`: the invariants.
* `Document.wellFormed_of_mem_ofText`: every definition before the first error of a text has them.
* `Collector.Sound`: what a collector keeps from call to call (`Collector.sound_step`).
* `Collector.wellFormed_of_mem_built`: every schema of a run is well formed.
-/

namespace TypedQuery

/-! ## Names -/

/-- A name of the schema language: letters, digits and underscores, with no digit in front. -/
def IsName (n : String) : Prop :=
  ∃ c cs, n.toList = c :: cs ∧ Lexeme.isNameStart c = true ∧ ∀ d ∈ cs, Lexeme.isNameChar d = true

theorem IsName.toList_ne_nil {n : String} (h : IsName n) : n.toList ≠ [] := by
  obtain ⟨c, cs, hn, -⟩ := h
  rw [hn]
  exact List.cons_ne_nil c cs

namespace Lexeme

variable {r : Reading} {n : String}

theorem readString_ne_name {offset : Nat} {value cs : List Char}
    (h : readString offset value cs = .ok r) : r.lexeme ≠ .name n := by
  fun_induction readString offset value cs with
  | case1 => cases h
  | case2 offset value c rest => cases h; simp
  | case3 => cases h
  | case4 => cases h
  | case5 _ _ _ _ _ _ _ _ _ _ ih => exact ih h
  | case6 _ _ _ _ _ _ _ ih => exact ih h

theorem readBlock_ne_name {offset : Nat} {lines : List (List Char)} {line cs : List Char}
    (h : readBlock offset lines line cs = .ok r) : r.lexeme ≠ .name n := by
  fun_induction readBlock offset lines line cs with
  | case1 => cases h; simp
  | case2 _ _ _ _ ih => exact ih h
  | case3 _ _ _ _ ih => exact ih h
  | case4 _ _ _ _ _ ih => exact ih h
  | case5 _ _ _ _ ih => exact ih h
  | case6 _ _ _ _ _ _ _ _ _ _ ih => exact ih h
  | case7 => cases h

theorem readNumber_ne_name {cs : List Char} (h : readNumber cs = .ok r) : r.lexeme ≠ .name n := by
  unfold readNumber at h
  simp only [bind_eq_ok] at h
  obtain ⟨whole, -, fraction, -, exponent, -, h⟩ := h
  split at h
  · split at h
    · cases h
    · cases h
      split <;> simp
  · cases h
    split <;> simp

theorem readDots_ne_name {cs : List Char} (h : readDots cs = .ok r) : r.lexeme ≠ .name n := by
  unfold readDots at h
  split at h
  · cases h; simp
  · cases h
  · split at h <;> cases h
  · cases h

/-- A lexeme that is a name consists of the characters of names. -/
theorem isName_of_read {c : Char} {cs : List Char} (h : read c cs = .ok r)
    (hn : r.lexeme = .name n) : IsName n := by
  unfold read at h
  split at h
  · cases h; cases hn
  · split at h
    · split at h
      · exact absurd hn (readBlock_ne_name h)
      · exact absurd hn (readString_ne_name h)
    · split at h
      · exact absurd hn (readNumber_ne_name h)
      · split at h
        · rename_i hc
          cases h
          cases hn
          refine ⟨c, cs.takeWhile isNameChar, String.toList_ofList, hc, fun d hd => ?_⟩
          exact List.all_eq_true.1 (List.all_takeWhile ..) d hd
        · split at h
          · exact absurd hn (readDots_ne_name h)
          · split at h <;> cases h

end Lexeme

theorem Stream.isName_of_mem_scan {p : Position} {cs : List Char} {n : String}
    (h : .name n ∈ (Stream.scan p cs).lexemes) : IsName n := by
  fun_induction Stream.scan p cs with
  | case1 => cases h
  | case2 _ _ _ _ ih => exact ih h
  | case3 _ _ _ _ _ ih => exact ih h
  | case4 _ _ _ _ _ _ ih => exact ih h
  | case5 _ _ _ _ _ _ _ _ ih => exact ih h
  | case6 => cases h
  | case7 p c rest _ _ _ _ r hr ih =>
    rcases List.mem_cons.1 h with h | h
    · exact Lexeme.isName_of_read hr h.symm
    · exact ih h

/-! ## Object types -/

/-- Whether the outermost mark of a reference is `!`. -/
def TypeRef.isNonNull : TypeRef → Bool
  | .nonNull _ => true
  | _ => false

/-- No `!` stands directly behind another one. -/
def TypeRef.Proper : TypeRef → Prop
  | .named _ => True
  | .list r => r.Proper
  | .nonNull r => r.isNonNull = false ∧ r.Proper

theorem Grammar.Reference.proper_ref (r : Grammar.Reference) : r.ref.Proper := by
  induction r with
  | name n b => cases b <;> simp [ref, TypeRef.Proper, TypeRef.isNonNull]
  | list r b ih => cases b <;> simp [ref, TypeRef.Proper, TypeRef.isNonNull, ih]

/-- What holds of an object type by itself, whatever the other types are. -/
structure ObjectType.WellFormed (t : ObjectType) : Prop where
  isName : IsName t.name
  not_reserved : ¬ Grammar.IsReserved t.name
  fields_ne_nil : t.fields ≠ []
  fields_nodup : (t.fields.map Field.name).Nodup
  fields_isName : ∀ f ∈ t.fields, IsName f.name
  fields_not_reserved : ∀ f ∈ t.fields, ¬ Grammar.IsReserved f.name
  proper : ∀ f ∈ t.fields, f.type.Proper

/-- A derivation that was read stands for a well-formed type. -/
theorem Grammar.TypeDef.wellFormed_object (source : String) {t : Grammar.TypeDef} (s : Stream)
    (hp : t.Permitted) (hd : (t.fields.map FieldDef.name).Nodup)
    (hn : ∀ n, .name n ∈ t.lexemes → IsName n) : (t.object source s).WellFormed := by
  have hfield : ∀ f ∈ (t.object source s).fields,
      ∃ g ∈ t.fields, g.name = f.name ∧ g.type.ref = f.type := fun f hf =>
    mem_fieldsAt source hf
  refine ⟨hn _ (by simp [lexemes, object]), hp.1, by simp [object, fields, fieldsAt],
    ?_, ?_, ?_, ?_⟩
  · rw [object, map_name_fieldsAt]
    exact hd
  · intro f hf
    obtain ⟨g, hg, hname, -⟩ := hfield f hf
    have hmem : .name g.name ∈ g.lexemes := by simp [FieldDef.lexemes]
    rw [← hname]
    refine hn _ ?_
    simp only [lexemes, List.mem_append, List.mem_cons, List.mem_flatMap]
    exact .inr (.inr (.inr (.inr (.inl ⟨g, hg, hmem⟩))))
  · intro f hf
    obtain ⟨g, hg, hname, -⟩ := hfield f hf
    rw [← hname]
    exact (hp.2 g hg).1
  · intro f hf
    obtain ⟨g, -, -, htype⟩ := hfield f hf
    rw [← htype]
    exact g.type.proper_ref

namespace Document

open TypedQuery.Grammar

variable {source text : String} {s : Stream}

/-- Every definition that is read derives from tokens of the stream, also if reading ends with an
error later on. -/
theorem exists_of_mem_definitions {d : Definition} (h : d ∈ (definitions source s).1) :
    ∃ (x : Def) (m : Stream), x.definition source m = d ∧ x.Permitted ∧ DistinctFields x ∧
      x.lexemes ⊆ s.lexemes := by
  fun_induction definitions source s with
  | case1 => cases h
  | case2 => cases h
  | case3 s d' rest ds ending hrest _ hd ih =>
    obtain ⟨x, hx, hdef, hp, hdis⟩ := definition_ok hd
    rcases List.mem_cons.1 h with rfl | h
    · refine ⟨x, s, hdef, hp, hdis, ?_⟩
      rw [hx.lexemes]
      exact List.subset_append_left _ _
    · rw [hrest] at ih
      obtain ⟨y, m, hy, hyp, hydis, hsub⟩ := ih h
      refine ⟨y, m, hy, hyp, hydis, fun l hl => ?_⟩
      rw [hx.lexemes]
      exact List.mem_append_right _ (hsub hl)

theorem wellFormed_of_mem_ofText {t : ObjectType} (h : .object t ∈ (ofText source text).1) :
    t.WellFormed := by
  have hmem : .object t ∈ (definitions source (Stream.ofText text)).1 := by
    unfold ofText ofStream at h
    split at h
    · cases h
    · exact h
  obtain ⟨x, m, hx, hp, hdis, hsub⟩ := exists_of_mem_definitions hmem
  cases x with
  | type u =>
    cases hx
    exact u.wellFormed_object source m hp hdis fun n hn => Stream.isName_of_mem_scan (hsub hn)
  | schema root => cases hx

end Document

/-! ## Collectors -/

/-- What holds of a schema: its types are well formed and known by their own names, and every name
refers to one of them or to a scalar. -/
structure Schema.WellFormed (s : Schema) : Prop where
  types_ne_nil : s.types ≠ []
  keys_nodup : s.types.names.Nodup
  key_eq_name : ∀ e ∈ s.types, e.1 = e.2.name
  not_scalar : ∀ n ∈ s.types.names, Scalar.ofName? n = none
  types_wellFormed : ∀ t ∈ s.objects, t.WellFormed
  resolved : ∀ t ∈ s.objects, ∀ f ∈ t.fields,
    f.type.scalar?.isSome ∨ f.type.target ∈ s.types.names
  queryType_mem : s.queryType ∈ s.types.names

/-- Every key of a schema is the name of the type under it, and none comes twice. -/
structure Schema.Keyed (s : Schema) : Prop where
  keys_nodup : s.types.names.Nodup
  key_eq_name : ∀ e ∈ s.types, e.1 = e.2.name

theorem Schema.WellFormed.keyed {s : Schema} (hw : s.WellFormed) : s.Keyed :=
  ⟨hw.keys_nodup, hw.key_eq_name⟩

namespace Collector

/-- What holds of a collector after any calls. -/
structure Sound (c : Collector) : Prop where
  wellFormed : ∀ t ∈ c.types, t.WellFormed
  not_scalar : ∀ n ∈ c.typeNames, Scalar.ofName? n = none
  nodup : c.typeNames.Nodup

variable {c c' : Collector}

theorem sound_empty : Sound {} := ⟨by simp, by simp [typeNames], by simp [typeNames]⟩

theorem sound_add {d : Definition} (hc : c.Sound) (h : c.add d = .ok c')
    (hd : ∀ t, d = .object t → t.WellFormed) : c'.Sound := by
  cases d with
  | object t =>
    obtain ⟨hscalar, hfree, rfl⟩ := addType_eq_ok.1 h
    refine ⟨fun u hu => ?_, fun n hn => ?_, ?_⟩
    · rcases List.mem_append.1 hu with hu | hu
      · exact hc.wellFormed u hu
      · rw [List.mem_singleton.1 hu]
        exact hd t rfl
    · simp only [typeNames, List.map_append, List.mem_append, List.map_cons, List.map_nil,
        List.mem_singleton] at hn
      rcases hn with hn | rfl
      · exact hc.not_scalar n hn
      · exact hscalar
    · simp only [typeNames, List.map_append, List.map_cons, List.map_nil]
      refine List.nodup_append.2 ⟨hc.nodup, by simp, ?_⟩
      rintro n hn _ hm rfl
      rw [List.mem_singleton.1 hm] at hn
      exact hfree hn
  | root r =>
    obtain ⟨-, rfl⟩ := addRoot_eq_ok.1 h
    exact ⟨hc.wellFormed, hc.not_scalar, hc.nodup⟩

/-- The definitions before the one that is refused stay. -/
theorem sound_addAll {ds : List Definition} (hc : c.Sound)
    (hd : ∀ t, .object t ∈ ds → t.WellFormed) : (c.addAll ds).1.Sound := by
  induction ds generalizing c with
  | nil => exact hc
  | cons d ds ih =>
    unfold addAll
    split
    · exact hc
    · rename_i c₁ hadd
      refine ih (sound_add hc hadd ?_) fun t ht => hd t (List.mem_cons_of_mem _ ht)
      rintro t rfl
      exact hd t (by simp)

theorem sound_addSource (source text : String) (hc : c.Sound) :
    (c.addSource source text).1.Sound := by
  have hall : (c.addAll (Document.ofText source text).1).1.Sound :=
    sound_addAll hc fun t ht => Document.wellFormed_of_mem_ofText ht
  unfold addSource
  rcases hds : Document.ofText source text with ⟨ds, ending⟩
  rw [hds] at hall
  rcases hadd : c.addAll ds with ⟨c₁, _ | e⟩
  · rw [hadd] at hall
    cases ending with
    | failed e => simpa only [hadd] using hall
    | complete p =>
      simp only [hadd]
      exact ⟨hall.wellFormed, hall.not_scalar, hall.nodup⟩
  · rw [hadd] at hall
    simpa only [hadd] using hall

/-- What a sound collector builds is well formed. -/
theorem wellFormed_of_build {s : Schema} (hc : c.Sound) (h : c.build = .ok s) : s.WellFormed := by
  obtain ⟨hne, hres, hroot, rfl⟩ := build_eq_ok_iff.1 h
  have hnames : Table.names (c.types.map fun t => (t.name, t)) = c.typeNames := by
    simp [Table.names, typeNames]
  have hobjects : Schema.objects ⟨c.types.map fun t => (t.name, t), c.queryType⟩ = c.types := by
    simp [Schema.objects, Table.values, Function.comp_def]
  refine ⟨by simpa using hne, ?_, by simp, ?_, ?_, ?_, ?_⟩
  · rw [hnames]; exact hc.nodup
  · rw [hnames]; exact hc.not_scalar
  · rw [hobjects]; exact hc.wellFormed
  · rw [hobjects, hnames]
    intro t ht f hf
    exact hres _ (List.mem_flatMap.2 ⟨t, ht, List.mem_map.2 ⟨f, hf, rfl⟩⟩)
  · rw [hnames]
    show c.queryType ∈ c.typeNames
    unfold queryType
    split
    · exact hroot _ ‹_›
    · split
      · assumption
      · cases hts : c.types with
        | nil => exact absurd hts hne
        | cons t ts => simp [typeNames, hts]

/-! ## Runs -/

/-- A call of a collector. -/
inductive Call where
  | addSource (source text : String)
  | build
  deriving DecidableEq

/-- The collector after a call, and the schema if the call has built one. A source that is refused
leaves behind what was read before the error. -/
def step (c : Collector) : Call → Collector × Option Schema
  | .addSource source text => ((c.addSource source text).1, none)
  | .build => (c, c.build.toOption)

/-- The schemas that a run of calls builds. -/
def built (c : Collector) : List Call → List Schema
  | [] => []
  | call :: calls => (c.step call).2.toList ++ (c.step call).1.built calls

theorem sound_step (hc : c.Sound) (call : Call) : (c.step call).1.Sound := by
  cases call with
  | addSource source text => exact sound_addSource source text hc
  | build => exact hc

theorem wellFormed_of_step {call : Call} {s : Schema} (hc : c.Sound)
    (h : (c.step call).2 = some s) : s.WellFormed := by
  cases call with
  | addSource source text => cases h
  | build =>
    refine wellFormed_of_build hc ?_
    cases hb : c.build with
    | error e => simp [step, hb, Except.toOption] at h
    | ok u => simpa [step, hb, Except.toOption] using h

theorem Sound.wellFormed_of_mem_built {calls : List Call} {s : Schema} (hc : c.Sound)
    (h : s ∈ c.built calls) : s.WellFormed := by
  induction calls generalizing c with
  | nil => cases h
  | cons call calls ih =>
    rcases List.mem_append.1 h with h | h
    · exact wellFormed_of_step hc (Option.mem_toList.1 h)
    · exact ih (sound_step hc call) h

theorem wellFormed_of_mem_built {calls : List Call} {s : Schema}
    (h : s ∈ built {} calls) : s.WellFormed :=
  sound_empty.wellFormed_of_mem_built h

end Collector

end TypedQuery
