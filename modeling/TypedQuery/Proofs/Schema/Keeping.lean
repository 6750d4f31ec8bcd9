import TypedQuery.Proofs.Schema.Draft
import TypedQuery.Proofs.Schema.Splitting

/-!
# What a refused source leaves behind

A collector takes the definitions of a source one after the other, and an error stops it without
undoing anything. So a refused source leaves what was taken before the error: as many of its first
definitions as can be read and fit.

* `Collector.exists_keeps`: the collector after a refused source.
* `Collector.exists_of_mem_built`: what a collector holds is in every schema that is built later.
* `Collector.addSource_keeps`: what was taken from a refused source is in every later schema, and a
  source that declares any of it again is refused for that.
* `Collector.addSource_not_atomic`: a source that is refused and changes what is held.
-/

namespace TypedQuery

open TypedQuery.Stream (Reads)

namespace Grammar.Document

/-- Where definitions are split, their document is. -/
theorem exists_split {source : String} {d : Document} {s : Stream} {front rest : List Definition}
    {x : Definition} (h : d.definitions source s = front ++ x :: rest) :
    ∃ d₁ y d₂, d = d₁ ++ y :: d₂ ∧ definitions source d₁ s = front ∧
      Def.definition source y (s.drop (lexemes d₁).length) = x := by
  induction front generalizing d s with
  | nil =>
    cases d with
    | nil => cases h
    | cons y d =>
      cases h
      exact ⟨[], y, d, rfl, rfl, rfl⟩
  | cons z front ih =>
    cases d with
    | nil => cases h
    | cons y d =>
      obtain ⟨hy, hd⟩ := List.cons.inj h
      obtain ⟨d₁, y', d₂, rfl, hfront, hx⟩ := ih hd
      have hlexemes : lexemes (y :: d₁) = y.lexemes ++ lexemes d₁ := List.flatMap_cons
      refine ⟨y :: d₁, y', d₂, rfl, ?_, ?_⟩
      · rw [definitions, hy, hfront]
      · rw [hlexemes, List.length_append, ← TypedQuery.Document.drop_drop]
        exact hx

end Grammar.Document

namespace Collector

variable {c c' : Collector} {source text : String} {e : SchemaError} {ds : List Definition}

/-! ## The definitions that are taken -/

/-- The document `d` stands at the beginning of `s` and can be taken, and the definition after it,
if there is one, can not. -/
structure Keeps (c : Collector) (source : String) (s : Stream) (d : Grammar.Document) : Prop where
  readable : d.Readable
  fits : c.Fits (d.definitions source s)
  reads : ∃ r, Reads d.lexemes s r ∧ ∀ (x : Grammar.Def) (m : Stream), Reads x.lexemes r m →
    x.Permitted → Document.DistinctFields x →
      ¬ (c.extend (d.definitions source s)).Fits [x.definition source r]

theorem not_fits_of_add {d : Definition} (h : c.add d = .error e) : ¬ c.Fits [d] := by
  intro hfit
  have hall := congrArg Prod.snd (addAll_eq_none_iff.2 ⟨hfit, rfl⟩)
  rw [addAll, h] at hall
  cases hall

section

variable {s r : Stream} {d : Grammar.Document}

theorem keeps_of_failed (hr : Reads d.lexemes s r) (hd : d.Readable)
    (hfit : c.Fits (d.definitions source s)) (h : Document.definition source r = .error e) :
    c.Keeps source s d := by
  refine ⟨hd, hfit, r, hr, fun x m hx hp hdistinct _ => ?_⟩
  rw [Document.definition_of_reads source hx hp hdistinct] at h
  cases h

theorem keeps_of_refused (hr : Reads d.lexemes s r) (hd : d.Readable)
    (h : c.addAll (d.definitions source s) = (c', some e)) :
    ∃ d₁ : Grammar.Document, c.Keeps source s d₁ ∧ c.extend (d₁.definitions source s) = c' := by
  obtain ⟨front, x, rest, hsplit, hfront, hx⟩ := exists_refused h
  obtain ⟨d₁, y, d₂, rfl, rfl, rfl⟩ := Grammar.Document.exists_split hsplit
  obtain ⟨hfit, rfl⟩ := addAll_eq_none_iff.1 hfront
  obtain ⟨hd₁, hrest⟩ := List.forall_mem_append.1 hd
  obtain ⟨⟨hp, hdistinct⟩, -⟩ := List.forall_mem_cons.1 hrest
  rw [Grammar.Document.lexemes, List.flatMap_append, List.flatMap_cons] at hr
  obtain ⟨m, hm, hr⟩ := Stream.reads_append.1 hr
  obtain ⟨k, hy, -⟩ := Stream.reads_append.1 hr
  have hdrop : s.drop d₁.lexemes.length = m := hm.drop
  refine ⟨d₁, ⟨hd₁, hfit, m, hm, fun z n hz hpz hdz => ?_⟩, rfl⟩
  -- A stream begins with one definition at most, and this one is refused.
  have hread := Document.definition_of_reads source hz hpz hdz
  rw [Document.definition_of_reads source hy hp hdistinct] at hread
  have hsame : y.definition source m = z.definition source m :=
    congrArg Prod.fst (Except.ok.inj hread)
  rw [hdrop, hsame] at hx
  exact not_fits_of_add hx

end

/-- The collector after a refused source. -/
theorem exists_keeps (h : c.addSource source text = (c', some e)) :
    ∃ d : Grammar.Document, c.Keeps source (Stream.ofText text) d ∧
      c.extend (d.definitions source (Stream.ofText text)) = c' := by
  unfold addSource Document.ofText at h
  generalize Stream.ofText text = s at h ⊢
  by_cases hfault : s.isFault = false
  · have hof : Document.ofStream source s = Document.definitions source s := by
      unfold Document.ofStream
      rw [(Document.take_eq_ok (u := ())).2 hfault]
    obtain ⟨d, r, hr, hd, hds, hend⟩ := Document.exists_document_of_definitions source s
    rw [hof] at h
    rcases hdefs : Document.definitions source s with ⟨ds, ending⟩
    rw [hdefs] at h hds hend
    cases hds
    rcases hall : c.addAll (d.definitions source s) with ⟨c₁, _ | e₁⟩
    · obtain ⟨hfit, hextend⟩ := addAll_eq_none_iff.1 hall
      simp only [hall] at h
      rcases hend with ⟨p, -, rfl⟩ | ⟨-, e₁, he₁, rfl⟩
      · cases congrArg Prod.snd h
      · cases h
        exact ⟨d, keeps_of_failed hr hd hfit he₁, hextend⟩
    · simp only [hall] at h
      cases h
      exact keeps_of_refused hr hd hall
  · -- The text begins with a fault, and nothing is read.
    cases s with
    | stop p => exact absurd rfl hfault
    | next t rest => exact absurd rfl hfault
    | fault why p =>
      cases h
      have hnil : Reads (Grammar.Document.lexemes []) (.fault why p) (.fault why p) := rfl
      have hfails : Document.definition source (.fault why p) = .error _ := rfl
      exact ⟨[], keeps_of_failed hnil (by simp [Grammar.Document.Readable]) (fits_nil c) hfails,
        by simp [Grammar.Document.definitions, extend]⟩

theorem extend_eq_self_iff (h : c.Fits ds) : c.extend ds = c ↔ ds = [] := by
  constructor
  · intro heq
    have htypes : newTypes ds = [] := by
      have hsame : c.types ++ newTypes ds = c.types := congrArg types heq
      simpa using hsame
    have hroots : newRoots ds = [] := by
      have hsame : c.root.or (newRoots ds).head? = c.root := congrArg root heq
      have hle := h.roots_length_le
      cases hroot : c.root with
      | some r =>
        rw [hroot] at hle
        exact List.length_eq_zero_iff.1 (by simpa using hle)
      | none =>
        rw [hroot, Option.none_or] at hsame
        exact List.head?_eq_none_iff.1 hsame
    cases ds with
    | nil => rfl
    | cons d ds => cases d <;> simp at htypes hroots
  · rintro rfl
    simp [extend]

/-! ## What is held stays -/

/-- Everything that `c` holds is in `c'`. -/
structure Within (c c' : Collector) : Prop where
  types : c.types <+: c'.types
  root : ∀ r, c.root = some r → c'.root = some r

namespace Within

theorem refl (c : Collector) : c.Within c := ⟨List.prefix_refl _, fun _ h => h⟩

theorem trans {c₁ c₂ c₃ : Collector} (h : c₁.Within c₂) (h' : c₂.Within c₃) : c₁.Within c₃ :=
  ⟨h.types.trans h'.types, fun r hr => h'.root r (h.root r hr)⟩

theorem extend (c : Collector) (ds : List Definition) : c.Within (c.extend ds) :=
  ⟨List.prefix_append .., fun r hr => by simp [Collector.extend, hr]⟩

theorem addSource (c : Collector) (source text : String) :
    c.Within (c.addSource source text).1 := by
  rcases h : c.addSource source text with ⟨c', _ | e⟩
  · obtain ⟨d, p, -, -, -, rfl⟩ := addSource_eq_none_iff.1 h
    have hextend := extend c (d.definitions source (Stream.ofText text))
    exact ⟨hextend.types, hextend.root⟩
  · obtain ⟨d, -, rfl⟩ := exists_keeps h
    exact extend c _

theorem step (c : Collector) (call : Call) : c.Within (c.step call).1 := by
  cases call with
  | addSource source text => exact addSource c source text
  | build => exact refl c

theorem run (c : Collector) (calls : List Call) : c.Within (c.run calls) := by
  induction calls generalizing c with
  | nil => exact refl c
  | cons call calls ih => exact (step c call).trans (ih (c.step call).1)

/-- What a collector holds is in every schema that it builds. -/
theorem of_build {s : Schema} (h : c.Within c') (hs : c'.build = .ok s) :
    (∀ t ∈ c.types, (t.name, t) ∈ s.types) ∧ ∀ r, c.root = some r → s.queryType = r.typeName := by
  obtain ⟨-, -, -, rfl⟩ := build_eq_ok_iff.1 hs
  refine ⟨fun t ht => List.mem_map.2 ⟨t, h.types.subset ht, rfl⟩, fun r hr => ?_⟩
  simp only [queryType, h.root r hr]

end Within

/-- A schema that a run builds is built by a collector that holds all that was there before. -/
theorem exists_of_mem_built {calls : List Call} {s : Schema} (h : s ∈ c.built calls) :
    ∃ c', c.Within c' ∧ c'.build = .ok s := by
  induction calls generalizing c with
  | nil => cases h
  | cons call calls ih =>
    rcases List.mem_append.1 h with h | h
    · cases call with
      | addSource source text => cases h
      | build => exact ⟨c, .refl c, toOption_eq_some.1 (Option.mem_toList.1 h)⟩
    · obtain ⟨c', hc', hs⟩ := ih h
      exact ⟨c', (Within.step c call).trans hc', hs⟩

/-! ## A source that is added again -/

/-- A source whose definitions do not fit is refused because something is declared again. -/
theorem duplicate_of_not_fits {d : Grammar.Document}
    (hs : (Stream.ofText text).isComplete = true)
    (hlexemes : d.lexemes = (Stream.ofText text).lexemes) (hd : d.Readable)
    (h : ¬ c.Fits (d.definitions source (Stream.ofText text))) :
    ∃ e, (c.addSource source text).2 = some e ∧ e.kind = .duplicate := by
  obtain ⟨p, hr⟩ := Stream.reads_stop hs
  rw [← hlexemes] at hr
  have hof : Document.ofText source text =
      (d.definitions source (Stream.ofText text), .complete p) :=
    Document.ofStream_eq_complete_iff.2 ⟨d, hr, rfl, hd⟩
  unfold addSource
  rw [hof]
  rcases hall : c.addAll (d.definitions source (Stream.ofText text)) with ⟨c₁, _ | e⟩
  · exact absurd (addAll_eq_none_iff.1 hall).1 h
  · obtain ⟨front, x, rest, -, -, hx⟩ := exists_refused hall
    exact ⟨e, by simp only [hall], kind_of_add hx⟩

section

variable {d : Grammar.Document} {s : Stream}

theorem exists_root (h : c.Fits (d.definitions source s)) {root : String} (hroot : root ∈ d.roots) :
    ∃ r, (c.extend (d.definitions source s)).root = some r ∧ r.typeName = root := by
  rw [← d.map_typeName_newRoots source s] at hroot
  obtain ⟨r, hr, rfl⟩ := List.mem_map.1 hroot
  have hle := h.roots_length_le
  rw [extend]
  cases hc : c.root with
  | some r' =>
    rw [hc, Option.toList_some, List.singleton_append, List.length_cons] at hle
    have hnil : newRoots (d.definitions source s) = [] := List.length_eq_zero_iff.1 (by omega)
    rw [hnil] at hr
    cases hr
  | none =>
    rw [hc, Option.toList_none, List.nil_append] at hle
    cases hroots : newRoots (d.definitions source s) with
    | nil =>
      rw [hroots] at hr
      cases hr
    | cons r' rest =>
      rw [hroots, List.length_cons] at hle
      obtain rfl : rest = [] := List.length_eq_zero_iff.1 (by omega)
      rw [hroots, List.mem_singleton] at hr
      exact ⟨r', rfl, by rw [hr]⟩

/-- A collector that holds a type, or a root, has no place for another of that name. -/
theorem not_fits_again {d' : Grammar.Document} {s' : Stream} {source' : String}
    (hfit : c.Fits (d.definitions source s)) (hw : (c.extend (d.definitions source s)).Within c')
    (h : (∃ n ∈ d.typeNames, n ∈ d'.typeNames) ∨ d.roots ≠ [] ∧ d'.roots ≠ []) :
    ¬ c'.Fits (d'.definitions source' s') := by
  intro hfit'
  rcases h with ⟨n, hn, hn'⟩ | ⟨hroot, hroot'⟩
  · rw [← d.map_name_objects source s] at hn
    rw [← d'.map_name_objects source' s'] at hn'
    obtain ⟨t, ht, rfl⟩ := List.mem_map.1 hn'
    obtain ⟨u, hu, hname⟩ := List.mem_map.1 hn
    refine hfit'.free t ht (List.mem_map.2 ⟨u, hw.types.subset ?_, hname⟩)
    exact List.mem_append_right _ hu
  · obtain ⟨root, hmem⟩ := List.exists_mem_of_ne_nil _ hroot
    obtain ⟨r, hr, -⟩ := exists_root hfit hmem
    have hle := hfit'.roots_length_le
    have hlength := congrArg List.length (d'.map_typeName_newRoots source' s')
    have hpos := List.length_pos_iff.2 hroot'
    rw [hw.root r hr, List.length_append] at hle
    simp only [List.length_map] at hlength
    simp only [Option.toList_some, List.length_singleton] at hle
    omega

end

/-- **What a refused source leaves.** A collector that refuses a source keeps as many of its first
definitions as could be taken, and it is unchanged only if there is none. Every schema that is built
later has their types and their root, and every source that declares one of them again is refused
for this, whatever comes in between. -/
theorem addSource_keeps (c c' : Collector) (source text : String) (e : SchemaError)
    (h : c.addSource source text = (c', some e)) :
    ∃ d : Grammar.Document, c.Keeps source (Stream.ofText text) d ∧
      c.extend (d.definitions source (Stream.ofText text)) = c' ∧ (c' = c ↔ d = []) ∧
      (∀ calls, ∀ s ∈ c'.built calls,
        (∀ t ∈ d.objects source (Stream.ofText text), (t.name, t) ∈ s.types) ∧
          ∀ root ∈ d.roots, s.queryType = root) ∧
      ∀ calls source' text' (d' : Grammar.Document), (Stream.ofText text').isComplete = true →
        d'.lexemes = (Stream.ofText text').lexemes → d'.Readable →
        ((∃ n ∈ d.typeNames, n ∈ d'.typeNames) ∨ d.roots ≠ [] ∧ d'.roots ≠ []) →
        ∃ e', ((c'.run calls).addSource source' text').2 = some e' ∧ e'.kind = .duplicate := by
  obtain ⟨d, hkeeps, rfl⟩ := exists_keeps h
  refine ⟨d, hkeeps, rfl, ?_, fun calls s hs => ?_,
    fun calls source' text' d' hs' hlexemes hd' hagain => ?_⟩
  · rw [extend_eq_self_iff hkeeps.fits]
    cases d <;> simp [Grammar.Document.definitions]
  · obtain ⟨c', hc', hbuild⟩ := exists_of_mem_built hs
    obtain ⟨htypes, hroot⟩ := hc'.of_build hbuild
    refine ⟨fun t ht => htypes t (List.mem_append_right _ ht), fun root hmem => ?_⟩
    obtain ⟨r, hr, rfl⟩ := exists_root hkeeps.fits hmem
    exact hroot r hr
  · exact duplicate_of_not_fits hs' hlexemes hd'
      (not_fits_again hkeeps.fits (Within.run _ calls) hagain)

/-- A type before the one that is left open stays. -/
theorem addSource_keeps_first_type :
    let text := "type A \x7b x: Int \x7d type B \x7b"
    (addSource {} "s" text).2 = some ⟨.expected "a field name" none, some ⟨"s", 1, 27⟩⟩ ∧
      ∃ d : Grammar.Document, d ≠ [] ∧ Keeps {} "s" (Stream.ofText text) d ∧
        extend {} (d.definitions "s" (Stream.ofText text)) = (addSource {} "s" text).1 := by
  intro text
  have hrefused : (addSource {} "s" text).2 =
      some ⟨.expected "a field name" none, some ⟨"s", 1, 27⟩⟩ := by decide +kernel
  obtain ⟨d, hkeeps, hextend, hiff, -⟩ :=
    addSource_keeps {} (addSource {} "s" text).1 "s" text _ (Prod.ext rfl hrefused)
  have hchanged : (addSource {} "s" text).1 ≠ {} := by decide +kernel
  exact ⟨hrefused, d, fun hd => hchanged (hiff.2 hd), hkeeps, hextend⟩

/-- A refused source can change what is held. -/
theorem addSource_not_atomic :
    ¬ ∀ (calls : List Call) (source text : String) (e : SchemaError),
      ((run {} calls).addSource source text).2 = some e →
        ((run {} calls).addSource source text).1 = run {} calls := by
  intro h
  have hsame := h [] "s" "type A \x7b x: Int \x7d type B \x7b"
    ⟨.expected "a field name" none, some ⟨"s", 1, 27⟩⟩ (by decide +kernel)
  revert hsame
  decide +kernel

end Collector

end TypedQuery
