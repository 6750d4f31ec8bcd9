import TypedQuery.Proofs.Schema.Joining
import TypedQuery.Proofs.Schema.Language
import TypedQuery.Proofs.Schema.Placing
import TypedQuery.Schema.Sources

/-!
# How a schema is spread over sources

A collector takes definitions one after the other, and what it holds depends on nothing else. So a
source may be cut between two definitions, sources may come in any order, and a directory may list
its files in any order.

* `Collector.alike_join`: two sources, or one text with both.
* `Collector.ofSources_perm`: sources in another order.
* `FileTree.Relists`, `SchemaFiles.parse_relisted`: a file tree that is listed in another order.
* `Schema.independent_of_sources`: all three.
-/

namespace TypedQuery

/-! ## Definitions, wherever they stand -/

namespace Grammar

theorem map_place_fieldsAt (source : String) (fs : List FieldDef) (s : Stream) :
    (fieldsAt source fs s).map (Field.place .nowhere) =
      (fieldsAt "" fs (.stop .start)).map (Field.place .nowhere) := by
  induction fs generalizing s with
  | nil => rfl
  | cons f fs ih =>
    have hrest : ∀ n, (Stream.stop .start).drop n = .stop .start := fun n => by
      induction n with
      | zero => rfl
      | succ n ih => exact ih
    simp only [fieldsAt, List.map_cons, ih, hrest]
    rfl

theorem Def.place_definition (source : String) (x : Def) (s : Stream) :
    (x.definition source s).place .nowhere =
      (x.definition "" (.stop .start)).place .nowhere := by
  cases x with
  | type t =>
    simp only [definition, Definition.place, TypeDef.object, ObjectType.place]
    rw [map_place_fieldsAt, map_place_fieldsAt "" t.fields (Stream.drop _ _)]
    rfl
  | schema root => rfl

/-- The definitions of a document without their places. -/
def Document.unplaced (d : Document) : List Definition :=
  d.map fun x => (x.definition "" (.stop .start)).place .nowhere

/-- Without their places, the definitions of a document are the same in every source. -/
theorem Document.map_place_definitions (source : String) (d : Document) (s : Stream) :
    (d.definitions source s).map (Definition.place .nowhere) = d.unplaced := by
  unfold unplaced
  induction d generalizing s with
  | nil => rfl
  | cons x d ih => rw [definitions, List.map_cons, List.map_cons, ih, Def.place_definition]

/-- A sentence that begins with a document goes on with one. -/
theorem Document.exists_append_of_lexemes {d e : Document} {ls : List Lexeme}
    (h : e.lexemes = d.lexemes ++ ls) : ∃ e', e = d ++ e' ∧ e'.lexemes = ls := by
  unfold lexemes at h ⊢
  induction d generalizing e with
  | nil => exact ⟨e, rfl, h⟩
  | cons x d ih =>
    rw [List.flatMap_cons, List.append_assoc] at h
    cases e with
    | nil =>
      rw [List.flatMap_nil] at h
      exact absurd (List.append_eq_nil_iff.1 h.symm).1 x.lexemes_ne_nil
    | cons y e =>
      rw [List.flatMap_cons] at h
      obtain ⟨rfl, hrest⟩ := Def.lexemes_append_inj h
      obtain ⟨e', rfl, he'⟩ := ih hrest
      exact ⟨e', rfl, he'⟩

end Grammar

/-- A definition that settles the query root whatever the order of types: a declaration of the root,
or the type that is the root by default. -/
def Definition.setsRoot : Definition → Bool
  | .object t => t.name == Collector.defaultRoot
  | .root _ => true

namespace Collector

variable {c c' : Collector} {ds es : List Definition}

/-! ## Definitions in two parts -/

theorem newTypes_append : newTypes (ds ++ es) = newTypes ds ++ newTypes es :=
  List.filterMap_append

theorem newRoots_append : newRoots (ds ++ es) = newRoots ds ++ newRoots es :=
  List.filterMap_append

theorem extend_append (c : Collector) (ds es : List Definition) :
    c.extend (ds ++ es) = (c.extend ds).extend es := by
  simp only [extend, newTypes_append, newRoots_append, List.append_assoc, List.head?_append,
    Option.or_assoc]

theorem fits_append : c.Fits (ds ++ es) ↔ c.Fits ds ∧ (c.extend ds).Fits es := by
  induction ds generalizing c with
  | nil =>
    have hext : c.extend [] = c := by simp [extend]
    rw [List.nil_append, hext]
    exact ⟨fun h => ⟨fits_nil c, h⟩, fun h => h.2⟩
  | cons d ds ih =>
    have hext : c.extend (d :: ds) = (c.extend [d]).extend ds := c.extend_append [d] ds
    cases d with
    | object t =>
      have hone : c.extend [.object t] = { c with types := c.types ++ [t] } := by simp [extend]
      rw [List.cons_append, fits_object, fits_object, ih, hext, hone, and_assoc, and_assoc]
    | root r =>
      rw [List.cons_append, fits_root, fits_root, ih, hext, and_assoc]
      refine and_congr_right fun hroot => ?_
      have hone : c.extend [.root r] = { c with root := some r } := by simp [extend, hroot]
      rw [hone]

/-! ## Definitions without their places -/

section

variable (pl : Placement)

theorem newTypes_place (ds : List Definition) :
    newTypes (ds.map (Definition.place pl)) = (newTypes ds).map (ObjectType.place pl) := by
  induction ds with
  | nil => rfl
  | cons d ds ih =>
    cases d with
    | object t => exact congrArg (t.place pl :: ·) ih
    | root r => exact ih

theorem newRoots_place (ds : List Definition) :
    newRoots (ds.map (Definition.place pl)) = (newRoots ds).map (RootDecl.place pl) := by
  induction ds with
  | nil => rfl
  | cons d ds ih =>
    cases d with
    | object t => exact ih
    | root r => exact congrArg (r.place pl :: ·) ih

theorem extend_place (c : Collector) (ds : List Definition) :
    (c.extend ds).place pl = (c.place pl).extend (ds.map (Definition.place pl)) := by
  simp only [extend, place, newTypes_place, newRoots_place, List.map_append, List.head?_map]
  cases c.root <;> rfl

theorem fits_place : (c.place pl).Fits (ds.map (Definition.place pl)) ↔ c.Fits ds := by
  have hnames : ∀ ts : List ObjectType,
      (ts.map (ObjectType.place pl)).map ObjectType.name = ts.map ObjectType.name := fun ts => by
    simp [ObjectType.place, Function.comp_def]
  have htypes : (c.place pl).typeNames = c.typeNames := hnames c.types
  have hname : ∀ t : ObjectType, (t.place pl).name = t.name := fun _ => rfl
  have hroots : ((c.place pl).root.toList ++ newRoots (ds.map (Definition.place pl))).length =
      (c.root.toList ++ newRoots ds).length := by
    rw [newRoots_place]
    cases hc : c.root <;> simp [place, hc]
  constructor
  · rintro ⟨hs, hn, hf, hr⟩
    simp only [newTypes_place, htypes, hroots, hnames, List.forall_mem_map, hname] at hs hn hf hr
    exact ⟨hs, hn, hf, hr⟩
  · rintro ⟨hs, hn, hf, hr⟩
    refine ⟨?_, ?_, ?_, ?_⟩
    all_goals simpa only [newTypes_place, htypes, hroots, hnames, List.forall_mem_map, hname]

end

/-! ## Two sources in one -/

/-- Two collectors hold the same types and the same root. -/
structure Same (c c' : Collector) : Prop where
  types : c.types = c'.types
  root : c.root = c'.root

theorem Same.fits (h : c.Same c') (hf : c.Fits ds) : c'.Fits ds := by
  obtain ⟨hs, hn, hfree, hr⟩ := hf
  unfold typeNames at hfree
  rw [h.types] at hfree
  rw [h.root] at hr
  exact ⟨hs, hn, hfree, hr⟩

theorem Same.extend (h : c.Same c') (ds : List Definition) :
    (c.extend ds).Same (c'.extend ds) := by
  simp only [Collector.extend, h.types, h.root]
  exact ⟨rfl, rfl⟩

theorem Same.symm (h : c.Same c') : c'.Same c := ⟨h.types.symm, h.root.symm⟩

theorem Same.trans {c'' : Collector} (h : c.Same c') (h' : c'.Same c'') : c.Same c'' :=
  ⟨h.types.trans h'.types, h.root.trans h'.root⟩

/-- Two collectors that have read a source and hold the same, places apart. -/
structure Alike (c c' : Collector) : Prop where
  same : (c.place .nowhere).Same (c'.place .nowhere)
  lastEnd : c.lastEnd.isSome
  lastEnd' : c'.lastEnd.isSome

/-- Two collectors build schemas that agree, or both are refused with one kind of error. -/
def BuildAlike (c c' : Collector) : Prop :=
  (∃ s s', c.build = .ok s ∧ c'.build = .ok s' ∧ s.agrees s' = true) ∨
    ∃ e e', c.build = .error e ∧ c'.build = .error e' ∧ e.kind = e'.kind

theorem Alike.buildAlike (h : c.Alike c') (hc : c.Sound) : c.BuildAlike c' := by
  obtain ⟨⟨htypes, hroot⟩, hlast, hlast'⟩ := h
  have hsame : (c.place .nowhere).build = (c'.place .nowhere).build := by
    obtain ⟨l, hl⟩ := Option.isSome_iff_exists.1 hlast
    obtain ⟨l', hl'⟩ := Option.isSome_iff_exists.1 hlast'
    have heq : ({ c.place .nowhere with lastSource := "" } : Collector) =
        { c'.place .nowhere with lastSource := "" } := by
      simp only [place, hl, hl'] at htypes hroot ⊢
      rw [htypes, hroot]
      rfl
    rw [← build_lastSource (c.place .nowhere) "" (by simp [place, hl]), heq,
      build_lastSource (c'.place .nowhere) "" (by simp [place, hl'])]
  rw [build_place _ c hlast, build_place _ c' hlast'] at hsame
  cases hb : c.build with
  | ok s =>
    cases hb' : c'.build with
    | error e => simp [hb, hb', placed] at hsame
    | ok s' =>
      simp only [hb, hb', placed, Except.ok.injEq] at hsame
      exact .inl ⟨s, s', hb, hb',
        Schema.agrees_of_place_eq hsame (wellFormed_of_build hc hb).keys_nodup⟩
  | error e =>
    cases hb' : c'.build with
    | ok s => simp [hb, hb', placed] at hsame
    | error e' =>
      simp only [hb, hb', placed, Except.error.injEq] at hsame
      refine .inr ⟨e, e', hb, hb', ?_⟩
      rw [← e.kind_place .nowhere, hsame, e'.kind_place]

/-- What a collector has taken from a source is a document, wherever it stood. -/
theorem exists_document {source text : String} (h : c.addSource source text = (c', none)) :
    (Stream.ofText text).isComplete = true ∧ ∃ d : Grammar.Document,
      d.lexemes = (Stream.ofText text).lexemes ∧ d.Readable ∧
      (c.place .nowhere).Fits d.unplaced ∧
      (c'.place .nowhere).Same ((c.place .nowhere).extend d.unplaced) ∧ c'.lastEnd.isSome := by
  obtain ⟨d, p, hr, hd, hfit, rfl⟩ := addSource_eq_none_iff.1 h
  have hlexemes : d.lexemes = (Stream.ofText text).lexemes := by
    rw [hr.lexemes]
    exact (List.append_nil _).symm
  have hplace := extend_place .nowhere c (d.definitions source (Stream.ofText text))
  rw [← fits_place .nowhere, Grammar.Document.map_place_definitions] at hfit
  rw [Grammar.Document.map_place_definitions] at hplace
  exact ⟨hr.isComplete, d, hlexemes, hd, hfit,
    ⟨(congrArg types hplace :), (congrArg root hplace :)⟩,
    rfl⟩

theorem addSource_of_document {text : String} (source : String) {d : Grammar.Document}
    (hcomplete : (Stream.ofText text).isComplete = true)
    (hlexemes : d.lexemes = (Stream.ofText text).lexemes) (hd : d.Readable)
    (hfit : (c.place .nowhere).Fits d.unplaced) : (c.addSource source text).2 = none := by
  obtain ⟨p, hr⟩ := Stream.reads_stop hcomplete
  rw [← hlexemes] at hr
  rw [← Grammar.Document.map_place_definitions source d (Stream.ofText text), fits_place] at hfit
  rw [addSource_eq_none_iff.2 ⟨d, p, hr, hd, hfit, rfl⟩]

/-- A source that is taken may as well be the first part of one with more in it. -/
theorem alike_join {c₁ : Collector} {source₁ text₁ : String}
    (h : c.addSource source₁ text₁ = (c₁, none)) (source₂ source text₂ : String) :
    ((c₁.addSource source₂ text₂).2 = none ↔
      (c.addSource source (text₁ ++ "\n" ++ text₂)).2 = none) ∧
    ((c₁.addSource source₂ text₂).2 = none →
      (c₁.addSource source₂ text₂).1.Alike (c.addSource source (text₁ ++ "\n" ++ text₂)).1) := by
  obtain ⟨hcomplete₁, d₁, hlex₁, hd₁, hfit₁, hsame₁, -⟩ := exists_document h
  obtain ⟨hjoin, hcomplete⟩ := Stream.lexemes_join text₁ text₂ hcomplete₁
  have hunplaced : ∀ d₂ : Grammar.Document,
      Grammar.Document.unplaced (d₁ ++ d₂) = d₁.unplaced ++ d₂.unplaced := fun d₂ =>
    List.map_append
  have hforth : (c₁.addSource source₂ text₂).2 = none →
      (c.addSource source (text₁ ++ "\n" ++ text₂)).2 = none := by
    intro h₂
    obtain ⟨hcomplete₂, d₂, hlex₂, hd₂, hfit₂, -⟩ := exists_document (Prod.ext rfl h₂)
    refine addSource_of_document (d := d₁ ++ d₂) source (hcomplete.trans hcomplete₂) ?_ ?_ ?_
    · rw [hjoin, ← hlex₁, ← hlex₂]
      exact List.flatMap_append
    · exact List.forall_mem_append.2 ⟨hd₁, hd₂⟩
    · rw [hunplaced, fits_append]
      exact ⟨hfit₁, hsame₁.fits hfit₂⟩
  refine ⟨⟨hforth, fun h' => ?_⟩, fun h₂ => ?_⟩
  · obtain ⟨hcomplete', d, hlex, hd, hfit, -⟩ := exists_document (Prod.ext rfl h')
    rw [hjoin, ← hlex₁] at hlex
    obtain ⟨d₂, rfl, hlex₂⟩ := Grammar.Document.exists_append_of_lexemes hlex
    rw [hunplaced, fits_append] at hfit
    exact addSource_of_document source₂ (hcomplete.symm.trans hcomplete') hlex₂
      (List.forall_mem_append.1 hd).2 (hsame₁.symm.fits hfit.2)
  · obtain ⟨-, d₂, hlex₂, -, -, hsame₂, hlast⟩ := exists_document (Prod.ext rfl h₂)
    obtain ⟨-, d, hlex, -, -, hsame, hlast'⟩ := exists_document (Prod.ext rfl (hforth h₂))
    -- The joined text has one derivation, and it is the two derivations one after the other.
    obtain rfl : d = d₁ ++ d₂ := by
      refine Grammar.Document.lexemes_injective ?_
      rw [hlex, hjoin, ← hlex₁, ← hlex₂]
      exact List.flatMap_append.symm
    rw [hunplaced, extend_append] at hsame
    exact ⟨hsame₂.trans ((hsame₁.extend _).trans hsame.symm), hlast, hlast'⟩

/-! ## Sources in any order -/

/-- Adds sources, each with its name, up to the first that is refused. -/
def addSources (c : Collector) : List (String × String) → Collector × Option SchemaError
  | [] => (c, none)
  | (source, text) :: rest =>
    match c.addSource source text with
    | (c, some e) => (c, some e)
    | (c, none) => c.addSources rest

/-- The schema of several sources, each with its name. -/
def ofSources (sources : List (String × String)) : Except SchemaError Schema :=
  match ({} : Collector).addSources sources with
  | (_, some e) => .error e
  | (c, none) => c.build

/-- The definitions of a source with its name. -/
def definitionsOf (x : String × String) : List Definition := (Document.ofText x.1 x.2).1

/-- Whether a source is read to its end. -/
def IsRead (x : String × String) : Prop := ∃ p, (Document.ofText x.1 x.2).2 = .complete p

theorem addSource_eq_none_iff_isRead {x : String × String} :
    c.addSource x.1 x.2 = (c', none) ↔ ∃ p, (Document.ofText x.1 x.2).2 = .complete p ∧
      c.Fits (definitionsOf x) ∧ (c.extend (definitionsOf x)).atEnd x.1 p = c' := by
  unfold addSource definitionsOf
  rcases Document.ofText x.1 x.2 with ⟨ds, ending⟩
  simp only
  constructor
  · intro h
    split at h
    · cases h
    · rename_i c₁ hall
      obtain ⟨hfit, rfl⟩ := addAll_eq_none_iff.1 hall
      cases ending with
      | failed e => cases h
      | complete p =>
        cases h
        exact ⟨p, rfl, hfit, rfl⟩
  · rintro ⟨p, rfl, hfit, rfl⟩
    rw [addAll_eq_none_iff.2 ⟨hfit, rfl⟩]
    rfl

/-- A collector takes all of the sources exactly if each is read to its end and all their
definitions together fit. Then it holds these definitions. -/
theorem addSources_eq_none_iff {sources : List (String × String)} :
    ((c.addSources sources).2 = none ↔
      (∀ x ∈ sources, IsRead x) ∧ c.Fits (sources.flatMap definitionsOf)) ∧
    ((c.addSources sources).2 = none →
      (c.addSources sources).1.Same (c.extend (sources.flatMap definitionsOf))) := by
  induction sources generalizing c with
  | nil =>
    have hext : c.extend [] = c := by simp [extend]
    refine ⟨by simp [addSources, fits_nil], fun _ => ?_⟩
    rw [List.flatMap_nil, hext]
    exact ⟨rfl, rfl⟩
  | cons x rest ih =>
    rw [List.flatMap_cons, fits_append, extend_append, List.forall_mem_cons]
    rcases hadd : c.addSource x.1 x.2 with ⟨c₁, _ | e⟩
    · obtain ⟨p, hp, hfit, rfl⟩ := addSource_eq_none_iff_isRead.1 hadd
      have hend : ((c.extend (definitionsOf x)).atEnd x.1 p).Same (c.extend (definitionsOf x)) :=
        ⟨rfl, rfl⟩
      obtain ⟨hiff, hsame⟩ := @ih ((c.extend (definitionsOf x)).atEnd x.1 p)
      simp only [addSources, hadd]
      refine ⟨hiff.trans ⟨fun h => ?_, fun h => ?_⟩, fun h => (hsame h).trans (hend.extend _)⟩
      · exact ⟨⟨⟨p, hp⟩, h.1⟩, hfit, hend.fits h.2⟩
      · exact ⟨h.1.2, hend.symm.fits h.2.2⟩
    · simp only [addSources, hadd, reduceCtorEq, false_iff, false_implies, and_true]
      rintro ⟨⟨⟨p, hp⟩, -⟩, hfit, -⟩
      rw [addSource_eq_none_iff_isRead.2 ⟨p, hp, hfit, rfl⟩] at hadd
      cases hadd

theorem fits_empty_perm (h : ds.Perm es) (hf : ({} : Collector).Fits ds) :
    ({} : Collector).Fits es := by
  have htypes : (newTypes ds).Perm (newTypes es) := h.filterMap _
  have hroots : (newRoots ds).Perm (newRoots es) := h.filterMap _
  obtain ⟨hs, hn, -, hr⟩ := hf
  refine ⟨fun t ht => hs t (htypes.mem_iff.2 ht), (htypes.map _).nodup_iff.1 hn, ?_, ?_⟩
  · intro t _
    simp [typeNames]
  · rw [List.length_append] at hr ⊢
    rw [← hroots.length_eq]
    exact hr

theorem newRoots_eq_of_perm (h : ds.Perm es) (hf : ({} : Collector).Fits ds) :
    newRoots ds = newRoots es := by
  have hroots : (newRoots ds).Perm (newRoots es) := h.filterMap _
  have hle : (newRoots ds).length ≤ 1 := hf.roots_length_le
  cases hds : newRoots ds with
  | nil => exact (List.perm_nil.1 (hds ▸ hroots).symm).symm
  | cons r rest =>
    rw [hds, List.length_cons] at hle
    obtain rfl : rest = [] := List.length_eq_zero_iff.1 (by omega)
    exact (List.perm_singleton.1 (hds ▸ hroots).symm).symm

theorem Same.build_eq_ok {s : Schema} (h : c.Same c') (hb : c.build = .ok s) :
    c'.build = .ok s := by
  obtain ⟨types, root, source, last⟩ := c
  obtain ⟨types', root', source', last'⟩ := c'
  obtain ⟨htypes, hroot⟩ := h
  cases htypes
  cases hroot
  have hparts := build_eq_ok_iff.1 hb
  exact build_eq_ok_iff.2 hparts

/-- The query root is the same in every order if a definition settles it. -/
theorem queryType_extend_perm (h : ds.Perm es) (hf : ({} : Collector).Fits ds)
    (hsets : ∃ d ∈ ds, d.setsRoot = true) :
    (extend {} ds).queryType = (extend {} es).queryType := by
  have htypes : (newTypes ds).Perm (newTypes es) := h.filterMap _
  have hroots := newRoots_eq_of_perm h hf
  simp only [queryType, typeNames, extend, List.nil_append, Option.none_or, ← hroots]
  cases hr : (newRoots ds).head? with
  | some r => rfl
  | none =>
    obtain ⟨d, hd, hset⟩ := hsets
    cases d with
    | root r =>
      have hmem : r ∈ newRoots ds := List.mem_filterMap.2 ⟨_, hd, rfl⟩
      rw [List.head?_eq_none_iff.1 hr] at hmem
      cases hmem
    | object t =>
      have hname : t.name = "Query" := by simpa [Definition.setsRoot, defaultRoot] using hset
      have hmem : "Query" ∈ (newTypes ds).map ObjectType.name :=
        List.mem_map.2 ⟨t, List.mem_filterMap.2 ⟨_, hd, rfl⟩, hname⟩
      simp only [hmem, (htypes.map ObjectType.name).mem_iff.1 hmem, if_true]

theorem build_extend_perm {s : Schema} (h : ds.Perm es) (hf : ({} : Collector).Fits ds)
    (hb : (extend {} ds).build = .ok s) : ∃ s', (extend {} es).build = .ok s' ∧
      s.objects.Perm s'.objects ∧
      ((∃ d ∈ ds, d.setsRoot = true) → s.queryType = s'.queryType) := by
  have htypes : (newTypes ds).Perm (newTypes es) := h.filterMap _
  have hroots := newRoots_eq_of_perm h hf
  have hnames : ∀ n, n ∈ (extend {} ds).typeNames ↔ n ∈ (extend {} es).typeNames := fun n => by
    simpa only [typeNames, extend, List.nil_append] using (htypes.map ObjectType.name).mem_iff
  have hroot : (extend {} ds).root = (extend {} es).root := by simp only [extend, hroots]
  obtain ⟨hne, hres, hdecl, rfl⟩ := build_eq_ok_iff.1 hb
  refine ⟨_, build_eq_ok_iff.2 ⟨?_, ?_, ?_, rfl⟩, ?_, fun hsets => ?_⟩
  · intro hnil
    have hnil' : newTypes es = [] := by simpa [extend] using hnil
    rw [hnil'] at htypes
    exact hne (by simpa [extend] using List.perm_nil.1 htypes)
  · intro n hn
    rw [← hnames]
    refine hres n ?_
    have hrefs : (references (newTypes ds)).Perm (references (newTypes es)) :=
      htypes.flatMap_right _
    simpa [extend] using hrefs.mem_iff.2 (by simpa [extend] using hn)
  · intro r hr
    rw [← hnames]
    exact hdecl r (hroot.trans hr)
  · simpa [Schema.objects, Table.values, extend, Function.comp_def] using htypes
  · exact queryType_extend_perm h hf hsets

/-- Sources in another order make a schema with the same types. -/
theorem ofSources_perm {sources sources' : List (String × String)} {s : Schema}
    (h : sources.Perm sources') (hs : ofSources sources = .ok s) :
    ∃ s', ofSources sources' = .ok s' ∧ s.objects.Perm s'.objects ∧
      ((∃ x ∈ sources, ∃ d ∈ definitionsOf x, d.setsRoot = true) →
        s.queryType = s'.queryType) := by
  have hperm : (sources.flatMap definitionsOf).Perm (sources'.flatMap definitionsOf) :=
    h.flatMap_right _
  have hok : ({} : Collector).addSources sources = ((addSources {} sources).1, none) ∧
      (addSources {} sources).1.build = .ok s := by
    unfold ofSources at hs
    rcases hadd : addSources {} sources with ⟨c, _ | e⟩
    · rw [hadd] at hs
      exact ⟨rfl, hs⟩
    · rw [hadd] at hs
      cases hs
  obtain ⟨hread, hfit⟩ := addSources_eq_none_iff.1.1 (congrArg Prod.snd hok.1)
  have hsame := addSources_eq_none_iff.2 (congrArg Prod.snd hok.1)
  obtain ⟨s', hs', hobjects, hquery⟩ := build_extend_perm hperm hfit (hsame.build_eq_ok hok.2)
  have hnone : (addSources {} sources').2 = none := addSources_eq_none_iff.1.2
    ⟨fun x hx => hread x (h.mem_iff.2 hx), fits_empty_perm hperm hfit⟩
  refine ⟨s', ?_, hobjects, fun hsets => hquery ?_⟩
  · have hbuild := (addSources_eq_none_iff.2 hnone).symm.build_eq_ok hs'
    unfold ofSources
    rcases hadd : addSources {} sources' with ⟨c, _ | e⟩
    · rw [hadd] at hbuild
      exact hbuild
    · rw [hadd] at hnone
      cases hnone
  · obtain ⟨x, hx, d, hd, hset⟩ := hsets
    exact ⟨d, List.mem_flatMap.2 ⟨x, hx, hd⟩, hset⟩

/-! ## Every run -/

/-- The collector after a run of calls. -/
def run (c : Collector) (calls : List Call) : Collector :=
  calls.foldl (fun c call => (c.step call).1) c

theorem Sound.run (hc : c.Sound) (calls : List Call) : (c.run calls).Sound := by
  induction calls generalizing c with
  | nil => exact hc
  | cons call calls ih => exact ih (sound_step hc call)

end Collector

/-! ## Listings of a file tree -/

namespace FileTree

variable {t t' : FileTree}

/-- Two listings of one file tree: the same directories and files, in whichever order. A place holds
one file. -/
structure Relists (t t' : FileTree) : Prop where
  dirs : t.dirs.Perm t'.dirs
  files : t.files.Perm t'.files
  nodup : (t.files.map Prod.fst).Nodup

namespace Relists

theorem isDir_eq (h : t.Relists t') : t.isDir = t'.isDir := by
  funext p
  rw [isDir, isDir, h.dirs.contains_eq]

theorem file?_eq_some_iff {p : Place} {c : Content} (hn : (t.files.map Prod.fst).Nodup) :
    t.file? p = some c ↔ (p, c) ∈ t.files := by
  unfold file?
  generalize t.files = files at hn
  induction files with
  | nil => simp
  | cons e rest ih =>
    obtain ⟨q, content⟩ := e
    obtain ⟨hq, hrest⟩ := List.nodup_cons.1 hn
    rw [List.find?_cons, List.mem_cons]
    by_cases hp : q = p
    · subst hp
      have hnot : (q, c) ∉ rest := fun hmem => hq (List.mem_map.2 ⟨_, hmem, rfl⟩)
      simp [hnot, eq_comm]
    · have hne : (q == p) = false := by simpa using hp
      simp only [hne, ih hrest]
      simp [Ne.symm hp]

theorem file?_eq (h : t.Relists t') : t.file? = t'.file? := by
  funext p
  have hn' : (t'.files.map Prod.fst).Nodup := (h.files.map Prod.fst).nodup_iff.1 h.nodup
  refine Option.ext fun c => ?_
  rw [file?_eq_some_iff h.nodup, file?_eq_some_iff hn', h.files.mem_iff]

theorem isFile_eq (h : t.Relists t') : t.isFile = t'.isFile := by
  funext p
  rw [isFile, isFile, h.file?_eq]

theorem locate_eq (h : t.Relists t') : t.locate = t'.locate := by
  have hstep : t.step = t'.step := by
    funext here name
    simp only [step, h.isDir_eq, h.isFile_eq]
  funext cwd path
  simp only [locate, walk, hstep]

theorem read_eq (h : t.Relists t') : t.read = t'.read := by
  have hreadAt : t.readAt = t'.readAt := by
    funext p
    simp only [readAt, h.isDir_eq, h.file?_eq]
  funext cwd path
  simp only [read, hreadAt, h.locate_eq]

theorem below_perm (h : t.Relists t') (p : Place) : (t.below p).Perm (t'.below p) :=
  h.files.filterMap _

end Relists

end FileTree

namespace SchemaFiles

variable {t t' : FileTree}

theorem collect_relisted (h : t.Relists t') : collect t = collect t' := by
  funext cwd path
  unfold collect
  rw [h.locate_eq]
  cases t'.locate cwd path with
  | error e => cases e <;> rfl
  | ok p =>
    simp only [h.isFile_eq, h.isDir_eq]
    rw [Sorting.byName_eq_of_perm (((h.below_perm p).filter _).map _)]

/-- The order in which a file tree is listed decides nothing. -/
theorem parse_relisted (h : t.Relists t') : parse t = parse t' := by
  have hfile : addFile t = addFile t' := by
    funext cwd run path
    simp only [addFile, h.read_eq]
  have hfiles : ∀ cwd paths run, addFiles t cwd run paths = addFiles t' cwd run paths := by
    intro cwd paths
    induction paths with
    | nil => exact fun _ => rfl
    | cons path paths ih =>
      intro run
      simp only [addFiles, hfile, ih]
  funext cwd path
  simp only [parse, collect_relisted h, hfiles]

end SchemaFiles

/-- **Sources do not matter.** After any calls, two sources that are taken one after the other may
as well be one text, with the same schema or the same kind of error in the end. Sources may come in
any order: they make a schema with the same types, and with the same query root if a definition
settles it. And a file tree may be listed in any order. -/
theorem Schema.independent_of_sources :
    (∀ (calls : List Collector.Call) (source₁ source₂ source text₁ text₂ : String)
      (c₁ : Collector), let c := Collector.run {} calls
      c.addSource source₁ text₁ = (c₁, none) →
      ((c₁.addSource source₂ text₂).2 = none ↔
        (c.addSource source (text₁ ++ "\n" ++ text₂)).2 = none) ∧
      ((c₁.addSource source₂ text₂).2 = none →
        (c₁.addSource source₂ text₂).1.BuildAlike
          (c.addSource source (text₁ ++ "\n" ++ text₂)).1)) ∧
    (∀ sources sources' : List (String × String), sources.Perm sources' →
      ((∃ s, Collector.ofSources sources = .ok s) ↔ ∃ s, Collector.ofSources sources' = .ok s) ∧
      ∀ s s', Collector.ofSources sources = .ok s → Collector.ofSources sources' = .ok s' →
        s.objects.Perm s'.objects ∧
        ((∃ x ∈ sources, ∃ d ∈ (Document.ofText x.1 x.2).1, d.setsRoot = true) →
          s.queryType = s'.queryType)) ∧
    ∀ (t t' : FileTree) (cwd : Place) (path : String), t.Relists t' →
      SchemaFiles.parse t cwd path = SchemaFiles.parse t' cwd path := by
  refine ⟨?_, ?_, ?_⟩
  · intro calls source₁ source₂ source text₁ text₂ c₁ c h
    obtain ⟨hiff, halike⟩ := Collector.alike_join h source₂ source text₂
    refine ⟨hiff, fun h₂ => (halike h₂).buildAlike ?_⟩
    have hc₁ := Collector.sound_addSource source₁ text₁ (Collector.sound_empty.run calls)
    rw [h] at hc₁
    exact Collector.sound_addSource source₂ text₂ hc₁
  · intro sources sources' h
    refine ⟨⟨?_, ?_⟩, ?_⟩
    · rintro ⟨s, hs⟩
      obtain ⟨s', hs', -⟩ := Collector.ofSources_perm h hs
      exact ⟨s', hs'⟩
    · rintro ⟨s, hs⟩
      obtain ⟨s', hs', -⟩ := Collector.ofSources_perm h.symm hs
      exact ⟨s', hs'⟩
    · intro s s' hs hs'
      obtain ⟨u, hu, hobjects, hquery⟩ := Collector.ofSources_perm h hs
      rw [hs', Except.ok.injEq] at hu
      exact ⟨hu ▸ hobjects, fun hsets => hu ▸ hquery hsets⟩
  · intro t t' cwd path h
    rw [SchemaFiles.parse_relisted h]

/-- Two types that refer to each other: in one source or in two, in either order, in a directory
that lists its two files in either order. -/
theorem Schema.independent_of_sources_mutual :
    let author := "type Author \x7b book: Book \x7d"
    let book := "type Book \x7b author: Author \x7d"
    let listed := [(["db", "a.graphql"], author.toUTF8.toList), (["db", "b.graphql"], [98, 97])]
    let t : FileTree := ⟨[["db"]], listed⟩
    let t' : FileTree := ⟨[["db"]], listed.reverse⟩
    let one := (Collector.addSource {} "a" author).1
    (Collector.addSource {} "a" author).2 = none ∧
      (one.addSource "b" book).1.BuildAlike
        (Collector.addSource {} "ab" (author ++ "\n" ++ book)).1 ∧
      [("a", author), ("b", book)].Perm [("b", book), ("a", author)] ∧
      (∃ s, Collector.ofSources [("b", book), ("a", author)] = .ok s) ∧
      t.Relists t' ∧ SchemaFiles.parse t [] "db" = SchemaFiles.parse t' [] "db" := by
  intro author book listed t t' one
  have hauthor : (Collector.addSource {} "a" author).2 = none := by decide +kernel
  have hbook : (one.addSource "b" book).2 = none := by decide +kernel
  have hboth : (Collector.ofSources [("a", author), ("b", book)]).toOption.isSome = true := by
    decide +kernel
  obtain ⟨s, hs⟩ := Option.isSome_iff_exists.1 hboth
  have hperm : [("a", author), ("b", book)].Perm [("b", book), ("a", author)] := .swap _ _ _
  have hrelists : t.Relists t' :=
    ⟨.refl _, (List.reverse_perm listed).symm, by simp [t, listed]⟩
  obtain ⟨hjoin, horder, hlist⟩ := Schema.independent_of_sources
  exact ⟨hauthor, (hjoin [] "a" "b" "ab" author book one (Prod.ext rfl hauthor)).2 hbook, hperm,
    (horder _ _ hperm).1.1 ⟨s, toOption_eq_some.1 hs⟩, hrelists, hlist t t' [] "db" hrelists⟩

end TypedQuery
