import TypedQuery.Proofs.Schema.Collecting
import TypedQuery.Proofs.Schema.Reading

/-!
# The language of schema texts

A text makes a schema exactly if it is read to its end without a fault, its tokens derive from the
grammar, and the document that they make is admissible. The derivation is unique then, and the
schema is the one that it stands for.

* `Collector.addSource_eq_none_iff`: when a collector takes a whole source, whatever it holds.
* `Schema.ofText_eq_ok_iff`: when a text makes a schema, and which.
-/

namespace TypedQuery

/-! ## Documents and their definitions -/

namespace Grammar

variable (source : String)

namespace Document

variable (d : Document) (s : Stream)

/-- The names that fields refer to, in order. -/
def references : List String := d.types.flatMap fun t => t.fields.map fun f => f.type.target

theorem map_name_objects : (d.objects source s).map ObjectType.name = d.typeNames := by
  induction d generalizing s with
  | nil => rfl
  | cons x d ih =>
    have htail := ih (s.drop x.lexemes.length)
    cases x with
    | type t => exact congrArg (t.name :: ·) htail
    | schema root => exact htail

theorem references_objects : Collector.references (d.objects source s) = d.references := by
  induction d generalizing s with
  | nil => rfl
  | cons x d ih =>
    have htail := ih (s.drop x.lexemes.length)
    cases x with
    | type t =>
      have hhead := map_target_fieldsAt source t.fields
        ((s.drop (Description.lexemes t.description).length).drop 3)
      exact congr (congrArg (· ++ ·) hhead) htail
    | schema root => exact htail

theorem map_typeName_newRoots :
    (Collector.newRoots (definitions source d s)).map RootDecl.typeName = d.roots := by
  induction d generalizing s with
  | nil => rfl
  | cons x d ih =>
    have htail := ih (s.drop x.lexemes.length)
    cases x with
    | type t => exact htail
    | schema root => exact congrArg (root :: ·) htail

variable {d}

theorem mem_references {n : String} :
    n ∈ d.references ↔ ∃ t ∈ d.types, ∃ f ∈ t.fields, f.type.target = n := by
  simp [references]

end Document

end Grammar

/-! ## Whole sources -/

open TypedQuery.Stream (Reads)

/-- What reading a definition checks by itself: no reserved name, and no field twice. -/
def Grammar.Document.Readable (d : Grammar.Document) : Prop :=
  ∀ x ∈ d, x.Permitted ∧ Document.DistinctFields x

theorem Document.ofStream_eq_complete_iff {source : String} {s : Stream} {ds : List Definition}
    {p : Position} :
    Document.ofStream source s = (ds, .complete p) ↔ ∃ d : Grammar.Document,
      Reads d.lexemes s (.stop p) ∧ d.definitions source s = ds ∧ d.Readable := by
  have hdefs : Document.definitions source s = (ds, .complete p) ↔ ∃ d : Grammar.Document,
      Reads d.lexemes s (.stop p) ∧ d.definitions source s = ds ∧ d.Readable := by
    constructor
    · exact Document.definitions_complete
    · rintro ⟨d, hr, rfl, hd⟩
      exact Document.definitions_of_reads hr hd
  rw [← hdefs, Document.ofStream]
  cases s with
  | stop q => rfl
  | next t rest => rfl
  | fault why q =>
    -- Nothing derives a stream that begins with a fault.
    simp only [Stream.take, Prod.mk.injEq, reduceCtorEq, and_false, false_iff, hdefs]
    rintro ⟨d, hr, -⟩
    have := hr.isComplete
    cases this

/-- A collector at the end of a source. -/
def Collector.atEnd (c : Collector) (source : String) (p : Position) : Collector :=
  { c with lastSource := source, lastEnd := some (Document.locate source p) }

/-- A collector takes a whole source exactly if its tokens derive a document whose definitions are
readable and fit what is collected. -/
theorem Collector.addSource_eq_none_iff {c c' : Collector} {source text : String} :
    c.addSource source text = (c', none) ↔ ∃ (d : Grammar.Document) (p : Position),
      Reads d.lexemes (Stream.ofText text) (.stop p) ∧ d.Readable ∧
        c.Fits (d.definitions source (Stream.ofText text)) ∧
        (c.extend (d.definitions source (Stream.ofText text))).atEnd source p = c' := by
  unfold Collector.addSource Document.ofText
  constructor
  · intro h
    rcases hds : Document.ofStream source (Stream.ofText text) with ⟨ds, ending⟩
    simp only [hds] at h
    split at h
    · cases h
    · rename_i c₁ hall
      split at h
      · cases h
      · rename_i p
        cases h
        obtain ⟨d, hr, rfl, hd⟩ := Document.ofStream_eq_complete_iff.1 hds
        obtain ⟨hfit, rfl⟩ := Collector.addAll_eq_none_iff.1 hall
        exact ⟨d, p, hr, hd, hfit, rfl⟩
  · rintro ⟨d, p, hr, hd, hfit, rfl⟩
    have hds : Document.ofStream source (Stream.ofText text) =
        (d.definitions source (Stream.ofText text), .complete p) :=
      Document.ofStream_eq_complete_iff.2 ⟨d, hr, rfl, hd⟩
    simp only [hds, Collector.addAll_eq_none_iff.2 ⟨hfit, rfl⟩]
    rfl

/-- What a fresh collector takes, said of the document alone. -/
theorem Grammar.Document.fits_empty_iff (source : String) (d : Grammar.Document) (s : Stream) :
    ({} : Collector).Fits (d.definitions source s) ↔
      (∀ n ∈ d.typeNames, Scalar.ofName? n = none) ∧ d.typeNames.Nodup ∧ d.roots.length ≤ 1 := by
  have hnames : (Collector.newTypes (d.definitions source s)).map ObjectType.name = d.typeNames :=
    d.map_name_objects source s
  have hroots := d.map_typeName_newRoots source s
  rw [← hnames, ← hroots]
  constructor
  · rintro ⟨hs, hn, -, hr⟩
    refine ⟨fun n hm => ?_, hn, by simpa using hr⟩
    obtain ⟨t, ht, rfl⟩ := List.mem_map.1 hm
    exact hs t ht
  · rintro ⟨hs, hn, hr⟩
    exact ⟨fun t ht => hs _ (List.mem_map_of_mem ht), hn, fun t _ => by simp [Collector.typeNames],
      by simpa using hr⟩

/-! ## A text that makes a schema -/

namespace Grammar.Document

variable {source : String} {d : Grammar.Document} {s : Stream}

/-- What a fresh collector holds after a document. -/
def collected (source : String) (d : Grammar.Document) (s : Stream) (p : Position) : Collector :=
  (Collector.extend {} (d.definitions source s)).atEnd source p

theorem typeNames_collected (p : Position) :
    (collected source d s p).typeNames = d.typeNames := by
  rw [← d.map_name_objects source s]
  simp [collected, Collector.atEnd, Collector.typeNames, Collector.extend, Collector.newTypes,
    objects]

theorem queryType_collected (p : Position) :
    (collected source d s p).queryType = d.queryType := by
  have hroots := d.map_typeName_newRoots source s
  unfold Collector.queryType queryType
  rw [typeNames_collected, ← hroots]
  simp only [collected, Collector.atEnd, Collector.extend, Option.none_or]
  cases Collector.newRoots (d.definitions source s) <;> rfl

theorem build_collected_eq_ok_iff {p : Position} {t : Schema} (hr : d.roots.length ≤ 1) :
    (collected source d s p).build = .ok t ↔ d.types ≠ [] ∧
      (∀ n ∈ d.references, (Scalar.ofName? n).isSome ∨ n ∈ d.typeNames) ∧
      (∀ r ∈ d.roots, r ∈ d.typeNames) ∧ d.schema source s = t := by
  have htypes : (collected source d s p).types = d.objects source s := by
    simp [collected, Collector.atEnd, Collector.extend, Collector.newTypes, objects]
  have hne : d.objects source s ≠ [] ↔ d.types ≠ [] := by
    have hlen := congrArg List.length (d.map_name_objects source s)
    simp only [typeNames, List.length_map] at hlen
    rw [← List.length_pos_iff, ← List.length_pos_iff, hlen]
  -- There is at most one root, so the first one stands for all of them.
  have hroot : (∀ r, (collected source d s p).root = some r → r.typeName ∈ d.typeNames) ↔
      ∀ r ∈ d.roots, r ∈ d.typeNames := by
    rw [← d.map_typeName_newRoots source s] at hr ⊢
    simp only [collected, Collector.atEnd, Collector.extend, Option.none_or]
    generalize Collector.newRoots (d.definitions source s) = roots at hr
    rcases roots with _ | ⟨r, _ | ⟨q, rest⟩⟩
    · simp
    · simp
    · simp at hr
  rw [Collector.build_eq_ok_iff, typeNames_collected, queryType_collected, htypes,
    references_objects, hne, hroot]
  rfl

/-- An admissible document is one that can be read, that a fresh collector takes, and that makes a
schema then. -/
theorem admissible_iff (source : String) (d : Grammar.Document) (s : Stream) : d.Admissible ↔
    d.Readable ∧ Collector.Fits {} (d.definitions source s) ∧ d.types ≠ [] ∧
      (∀ n ∈ d.references, (Scalar.ofName? n).isSome ∨ n ∈ d.typeNames) ∧
      ∀ r ∈ d.roots, r ∈ d.typeNames := by
  rw [fits_empty_iff]
  constructor
  · intro had
    refine ⟨fun x hx => ⟨had.permitted x hx, ?_⟩,
      ⟨had.not_scalar, had.typeNames_nodup, had.roots_length_le⟩, had.types_ne_nil, fun n hn => ?_,
      had.roots_declared⟩
    · cases x with
      | type t => exact had.fields_nodup t (List.mem_filterMap.2 ⟨_, hx, rfl⟩)
      | schema root => trivial
    · obtain ⟨t, ht, f, hf, rfl⟩ := mem_references.1 hn
      exact had.resolved t ht f hf
  · rintro ⟨hd, ⟨hscalar, hnodup, hroots⟩, hne, hres, hroot⟩
    refine ⟨fun x hx => (hd x hx).1, hne, hroots, hnodup, hscalar, fun t ht => ?_,
      fun t ht f hf => ?_, hroot⟩
    · obtain ⟨x, hx, hxt⟩ := List.mem_filterMap.1 ht
      cases x with
      | type u =>
        cases hxt
        exact (hd _ hx).2
      | schema root => cases hxt
    · exact hres _ (mem_references.2 ⟨t, ht, f, hf, rfl⟩)

end Grammar.Document

/-- **The language.** A text makes a schema exactly if it is read without a fault, its lexemes
derive a document, this derivation is the only one, the document is admissible, and the schema is
the one that the document stands for. -/
theorem Schema.ofText_eq_ok_iff (text source : String) (s : Schema) :
    Schema.ofText text source = .ok s ↔ (Stream.ofText text).isComplete = true ∧
      ∃ d : Grammar.Document, d.lexemes = (Stream.ofText text).lexemes ∧
        (∀ e : Grammar.Document, e.lexemes = (Stream.ofText text).lexemes → e = d) ∧
        d.Admissible ∧ d.schema source (Stream.ofText text) = s := by
  constructor
  · intro h
    unfold Schema.ofText at h
    split at h
    · cases h
    · rename_i c hadd
      obtain ⟨d, p, hr, hd, hfit, rfl⟩ := Collector.addSource_eq_none_iff.1 hadd
      have hroots := ((Grammar.Document.fits_empty_iff source d _).1 hfit).2.2
      obtain ⟨hne, hres, hroot, rfl⟩ := (Grammar.Document.build_collected_eq_ok_iff hroots).1 h
      have hlex : d.lexemes = (Stream.ofText text).lexemes := by
        rw [hr.lexemes]
        exact (List.append_nil _).symm
      refine ⟨hr.isComplete, d, hlex, fun e he => ?_, ?_, rfl⟩
      · exact Grammar.Document.lexemes_injective (he.trans hlex.symm)
      · exact (d.admissible_iff source _).2 ⟨hd, hfit, hne, hres, hroot⟩
  · rintro ⟨hcomplete, d, hlex, -, had, rfl⟩
    obtain ⟨p, hr⟩ := Stream.reads_stop hcomplete
    rw [← hlex] at hr
    obtain ⟨hd, hfit, hmakes⟩ := (d.admissible_iff source (Stream.ofText text)).1 had
    unfold Schema.ofText
    rw [Collector.addSource_eq_none_iff.2 ⟨d, p, hr, hd, hfit, rfl⟩]
    obtain ⟨hne, hres, hroot⟩ := hmakes
    exact (Grammar.Document.build_collected_eq_ok_iff had.roots_length_le).2
      ⟨hne, hres, hroot, rfl⟩

end TypedQuery
