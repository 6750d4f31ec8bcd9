import TypedQuery.Proofs.Schema.Draft
import TypedQuery.Proofs.Schema.Splitting

/-!
# Which error is reported

Sources whose tokens derive from the grammar can still be refused, for what their names are. The
clauses are looked at in order, and the first that is defective is reported. Only then comes what
concerns all of them: that there is a type, that references are resolved, that the root is declared.

* `Grammar.Placed`: a clause and where it stands.
* `Grammar.Defect`: what is wrong with a clause after those before it, in order of precedence.
* `Grammar.Lacks`: what clauses without a defect lack, in order of precedence.
* `Collector.takes_of_defect`, `Collector.exists_takes`: a clause is refused for its defect, and is
  taken without one. `Collector.takeAll` carries both over to any number of clauses.
* `Collector.ofSources_reports`: what sources are refused for, and what they make if they are not.
-/

namespace TypedQuery

/-! ## Clauses and their places -/

namespace Grammar

open TypedQuery.Stream (Reads)

/-- A clause, the source it stands in and the tokens from its first one on. -/
structure Placed where
  source : String
  stream : Stream
  clause : Clause

/-- The clauses of a draft whose tokens come first in `s`. -/
def Draft.placed (source : String) : Draft → Stream → List Placed
  | [], _ => []
  | x :: d, s => ⟨source, s, x⟩ :: placed source d (s.drop x.lexemes.length)

/-- The index of the keyword of a type among its tokens. -/
def TypeDef.keyword (t : TypeDef) : Nat := (Description.lexemes t.description).length

namespace Placed

/-- Where the token with index `i` of the clause stands. -/
def token (p : Placed) (i : Nat) : Location :=
  Document.locate p.source (p.stream.drop i).position

/-- The object type that a clause declares. -/
def object? (p : Placed) : Option ObjectType :=
  match p.clause with
  | .type t => some (t.object p.source p.stream)
  | .block _ _ => none

/-- The query root that a clause declares. -/
def root? (p : Placed) : Option RootDecl :=
  match p.clause with
  | .type _ => none
  | .block root _ => some ⟨root, p.token 4, p.token 0⟩

section

variable {p : Placed} {t : TypeDef} {root : String} {more : List String}

theorem object?_of_type (h : p.clause = .type t) :
    p.object? = some (t.object p.source p.stream) := by
  rw [object?, h]

theorem object?_of_block (h : p.clause = .block root more) : p.object? = none := by
  rw [object?, h]

theorem root?_of_type (h : p.clause = .type t) : p.root? = none := by
  rw [root?, h]

theorem root?_of_block (h : p.clause = .block root more) :
    p.root? = some ⟨root, p.token 4, p.token 0⟩ := by
  rw [root?, h]

end

/-- The tokens of a clause are where they should be, and no name in it is reserved. -/
structure Stands (p : Placed) : Prop where
  permitted : p.clause.Permitted
  reads : ∃ r, Reads p.clause.lexemes p.stream r

end Placed

/-- What is wrong with the clause `p` when `before` are the clauses before it. In a type, a field
that repeats a name goes before the name of the type; in a block, a repeated operation goes before
the block itself. -/
inductive Defect (before : List Placed) (p : Placed) : SchemaError → Prop where
  | field {t : TypeDef} {fs gs : List FieldDef} {f : FieldDef} (hp : p.clause = .type t)
      (ht : t.fields = fs ++ f :: gs) (hfs : (fs.map FieldDef.name).Nodup)
      (hf : f.name ∈ fs.map FieldDef.name) :
      Defect before p ⟨.fieldTwice t.name f.name,
        some (p.token (t.keyword + 3 + Document.nameIndex fs f))⟩
  | scalar {t : TypeDef} (hp : p.clause = .type t) (ht : (t.fields.map FieldDef.name).Nodup)
      (hs : (Scalar.ofName? t.name).isSome) :
      Defect before p ⟨.scalarName t.name, some (p.token t.keyword)⟩
  | type {t u : TypeDef} {q : Placed} (hp : p.clause = .type t)
      (ht : (t.fields.map FieldDef.name).Nodup) (hs : Scalar.ofName? t.name = none)
      (hq : q ∈ before) (hu : q.clause = .type u) (hname : u.name = t.name) :
      Defect before p ⟨.typeTwice t.name (some (q.token u.keyword)), some (p.token t.keyword)⟩
  | operation {root second : String} {more : List String}
      (hp : p.clause = .block root (second :: more)) :
      Defect before p ⟨.operationTwice "query", some (p.token 5)⟩
  | schema {root first : String} {more : List String} {q : Placed} (hp : p.clause = .block root [])
      (hq : q ∈ before) (hfirst : q.clause = .block first more) :
      Defect before p ⟨.schemaTwice (q.token 0), some (p.token 0)⟩

/-- None of the clauses `ps`, which stand after `before`, is defective. -/
def CleanAfter (before ps : List Placed) : Prop :=
  ∀ pre p post e, ps = pre ++ p :: post → ¬ Defect (before ++ pre) p e

/-- One of the clauses declares a type of that name. -/
def Declared (ps : List Placed) (n : String) : Prop :=
  ∃ q ∈ ps, ∃ u : TypeDef, q.clause = .type u ∧ u.name = n

/-- The name is that of a scalar or of a declared type. -/
def Known (ps : List Placed) (n : String) : Prop := (Scalar.ofName? n).isSome ∨ Declared ps n

/-- Every field of the clause has a known type. -/
def Resolved (ps : List Placed) (q : Placed) : Prop :=
  ∀ t : TypeDef, q.clause = .type t → ∀ f ∈ t.fields, Known ps f.type.target

/-- What clauses lack that have no defect each, and the kind of error that this makes: a type at
all, the type of a field, or the declared root. `last` is where the last source ends. -/
inductive Lacks (ps : List Placed) (last : Location) : SchemaError.Kind → SchemaError → Prop where
  | types (h : ∀ n, ¬ Declared ps n) : Lacks ps last .malformed ⟨.noTypes, some last⟩
  | target {before after : List Placed} {p : Placed} {t : TypeDef} {fs gs : List FieldDef}
      {f : FieldDef} (hps : ps = before ++ p :: after) (hbefore : ∀ q ∈ before, Resolved ps q)
      (hp : p.clause = .type t) (ht : t.fields = fs ++ f :: gs)
      (hfs : ∀ g ∈ fs, Known ps g.type.target) (hf : ¬ Known ps f.type.target) :
      Lacks ps last .unresolved ⟨.unknownType t.name f.name f.type.target,
        some (p.token (t.keyword + 3 + Document.nameIndex fs f))⟩
  | root {p : Placed} {root : String} {more : List String} (hsome : ∃ n, Declared ps n)
      (hall : ∀ q ∈ ps, Resolved ps q) (hp : p ∈ ps) (hroot : p.clause = .block root more)
      (hname : ¬ Declared ps root) :
      Lacks ps last .unresolved ⟨.unknownRoot root, some (p.token 4)⟩

/-- What clauses are refused for. A defect goes before everything that is lacking, and of several
defective clauses the first one counts. -/
inductive Reported (ps : List Placed) (last : Location) :
    SchemaError.Kind → SchemaError → Prop where
  | defect {before after : List Placed} {p : Placed} {e : SchemaError}
      (hps : ps = before ++ p :: after) (hbefore : CleanAfter [] before) (h : Defect before p e) :
      Reported ps last .duplicate e
  | lack {k : SchemaError.Kind} {e : SchemaError} (hps : CleanAfter [] ps)
      (h : Lacks ps last k e) : Reported ps last k e

/-- The schema that clauses make. The query root is the declared one, else the type `Query`, else
the first type. -/
def schema (ps : List Placed) : Schema :=
  let types := ps.filterMap Placed.object?
  let names := types.map ObjectType.name
  { types := types.map fun t => (t.name, t)
    queryType :=
      match (ps.filterMap Placed.root?).head? with
      | some r => r.typeName
      | none => if "Query" ∈ names then "Query" else names.headD "" }

variable {before ps qs : List Placed} {p : Placed} {e : SchemaError}

theorem Defect.kind (h : Defect before p e) : e.kind = .duplicate := by
  cases h <;> rfl

theorem cleanAfter_nil (before : List Placed) : CleanAfter before [] := by
  intro pre p post e h
  cases pre <;> cases h

theorem cleanAfter_cons :
    CleanAfter before (p :: ps) ↔ (∀ e, ¬ Defect before p e) ∧ CleanAfter (before ++ [p]) ps := by
  constructor
  · intro h
    refine ⟨fun e => ?_, fun pre q post e hps => ?_⟩
    · have hfirst := h [] p ps e rfl
      rwa [List.append_nil] at hfirst
    · have hrest := h (p :: pre) q post e (by rw [hps]; rfl)
      rwa [List.append_assoc, List.singleton_append]
  · rintro ⟨hp, hps⟩ pre q post e hsplit
    cases pre with
    | nil =>
      cases hsplit
      rw [List.append_nil]
      exact hp e
    | cons x pre =>
      cases hsplit
      have hrest := hps pre q post e rfl
      rwa [List.append_assoc, List.singleton_append] at hrest

theorem cleanAfter_append :
    CleanAfter before (ps ++ qs) ↔ CleanAfter before ps ∧ CleanAfter (before ++ ps) qs := by
  induction ps generalizing before with
  | nil => simp [cleanAfter_nil]
  | cons p ps ih =>
    rw [List.cons_append, cleanAfter_cons, ih, cleanAfter_cons, and_assoc, List.append_assoc,
      List.singleton_append]

/-- Clauses that are not clean have a first one with a defect. -/
theorem exists_defect (before ps : List Placed) : CleanAfter before ps ∨
    ∃ pre p post e, ps = pre ++ p :: post ∧ CleanAfter before pre ∧ Defect (before ++ pre) p e := by
  induction ps generalizing before with
  | nil => exact .inl (cleanAfter_nil before)
  | cons p ps ih =>
    by_cases hp : ∃ e, Defect before p e
    · obtain ⟨e, he⟩ := hp
      exact .inr ⟨[], p, ps, e, rfl, cleanAfter_nil before, by rwa [List.append_nil]⟩
    · have hclean : ∀ e, ¬ Defect before p e := fun e he => hp ⟨e, he⟩
      rcases ih (before ++ [p]) with h | ⟨pre, q, post, e, rfl, hpre, he⟩
      · exact .inl (cleanAfter_cons.2 ⟨hclean, h⟩)
      · refine .inr ⟨p :: pre, q, post, e, rfl, cleanAfter_cons.2 ⟨hclean, hpre⟩, ?_⟩
        rwa [List.append_assoc, List.singleton_append] at he

/-- The clauses of a draft that is read stand where they should. -/
theorem Draft.stands_of_mem_placed {source : String} {d : Draft} {s r : Stream}
    (h : Reads d.lexemes s r) (hd : d.Permitted) : ∀ p ∈ d.placed source s, p.Stands := by
  induction d generalizing s with
  | nil => simp [placed]
  | cons x d ih =>
    obtain ⟨m, hx, hm⟩ := Stream.reads_append.1 h
    obtain ⟨hpx, hpd⟩ := List.forall_mem_cons.1 hd
    rw [placed, hx.drop]
    exact List.forall_mem_cons.2 ⟨⟨hpx, m, hx⟩, ih hm hpd⟩

end Grammar

/-! ## One clause after the other -/

namespace Collector

open TypedQuery.Grammar TypedQuery.Stream

variable {c c' : Collector} {p : Placed} {before ps : List Placed} {e : SchemaError}

/-- Reads a clause and adds its definition. -/
def takes (c : Collector) (p : Placed) : Except SchemaError Collector :=
  Document.definition p.source p.stream >>= fun x => c.add x.1

/-- Takes clauses up to the first that is refused. -/
def takeAll (c : Collector) : List Placed → Collector × Option SchemaError
  | [] => (c, none)
  | p :: ps =>
    match c.takes p with
    | .error e => (c, some e)
    | .ok c => c.takeAll ps

/-- A collector holds what the clauses declare. -/
structure Holds (c : Collector) (ps : List Placed) : Prop where
  types : c.types = ps.filterMap Placed.object?
  root : c.root = (ps.filterMap Placed.root?).head?
  nodup : c.typeNames.Nodup
  roots_length_le : (ps.filterMap Placed.root?).length ≤ 1

namespace Holds

theorem empty : Holds {} [] := ⟨rfl, rfl, List.nodup_nil, Nat.zero_le 1⟩

theorem atEnd (hc : c.Holds ps) (source : String) (q : Position) : (c.atEnd source q).Holds ps :=
  ⟨hc.types, hc.root, hc.nodup, hc.roots_length_le⟩

theorem mem_typeNames (hc : c.Holds ps) {n : String} : n ∈ c.typeNames ↔ Declared ps n := by
  rw [typeNames, hc.types, Declared]
  simp only [List.mem_map, List.mem_filterMap]
  constructor
  · rintro ⟨o, ⟨q, hq, ho⟩, rfl⟩
    cases hu : q.clause with
    | type u =>
      rw [Placed.object?_of_type hu] at ho
      cases ho
      exact ⟨q, hq, u, hu, rfl⟩
    | block root more =>
      rw [Placed.object?_of_block hu] at ho
      cases ho
  · rintro ⟨q, hq, u, hu, rfl⟩
    exact ⟨_, ⟨q, hq, Placed.object?_of_type hu⟩, rfl⟩

/-- The type with a name is the one that declares it: there is no second one. -/
theorem find?_eq (hc : c.Holds ps) {q : Placed} {u : TypeDef} (hq : q ∈ ps)
    (hu : q.clause = .type u) : c.find? u.name = some (u.object q.source q.stream) := by
  have hmem : u.object q.source q.stream ∈ c.types := by
    rw [hc.types, List.mem_filterMap]
    exact ⟨q, hq, Placed.object?_of_type hu⟩
  have hnodup : (c.types.map ObjectType.name).Nodup := hc.nodup
  unfold find?
  generalize c.types = ts at hmem hnodup
  induction ts with
  | nil => cases hmem
  | cons t ts ih =>
    obtain ⟨ht, hts⟩ := List.nodup_cons.1 hnodup
    rcases List.mem_cons.1 hmem with rfl | hmem
    · simp [TypeDef.object]
    · have hne : t.name ≠ u.name := by
        intro he
        exact ht (he ▸ List.mem_map.2 ⟨_, hmem, rfl⟩)
      rw [List.find?_cons, show (t.name == u.name) = false by simpa using hne]
      exact ih hmem hts

/-- The root is the one that a block declares: there is no second one. -/
theorem root_eq (hc : c.Holds ps) {q : Placed} {root : String} {more : List String}
    (hq : q ∈ ps) (hroot : q.clause = .block root more) :
    c.root = some ⟨root, q.token 4, q.token 0⟩ := by
  have hmem : ⟨root, q.token 4, q.token 0⟩ ∈ ps.filterMap Placed.root? :=
    List.mem_filterMap.2 ⟨q, hq, Placed.root?_of_block hroot⟩
  have hle := hc.roots_length_le
  rw [hc.root]
  cases hroots : ps.filterMap Placed.root? with
  | nil =>
    rw [hroots] at hmem
    cases hmem
  | cons r rest =>
    rw [hroots] at hmem hle
    obtain rfl : rest = [] := List.length_eq_zero_iff.1 (by simpa using hle)
    rw [List.mem_singleton.1 hmem]
    rfl

theorem exists_block (hc : c.Holds ps) {r : RootDecl} (hr : c.root = some r) :
    ∃ q ∈ ps, ∃ root more, q.clause = .block root more ∧ r = ⟨root, q.token 4, q.token 0⟩ := by
  rw [hc.root] at hr
  obtain ⟨q, hq, hroot⟩ := List.mem_filterMap.1 (List.mem_of_head? hr)
  cases hclause : q.clause with
  | type t =>
    rw [Placed.root?_of_type hclause] at hroot
    cases hroot
  | block root more =>
    rw [Placed.root?_of_block hclause] at hroot
    cases hroot
    exact ⟨q, hq, root, more, hclause, rfl⟩

/-- A type with a free name comes to what is held. -/
theorem concat_type (hc : c.Holds ps) {t : TypeDef} (hp : p.clause = .type t)
    (hfree : t.name ∉ c.typeNames) :
    Holds { c with types := c.types ++ [t.object p.source p.stream] } (ps ++ [p]) := by
  refine ⟨?_, ?_, ?_, ?_⟩
  · simp [List.filterMap_append, Placed.object?_of_type hp, hc.types]
  · simp [List.filterMap_append, Placed.root?_of_type hp, hc.root]
  · have hnodup := List.nodup_append.2 ⟨hc.nodup, List.pairwise_singleton _ t.name, ?_⟩
    · simpa [typeNames, TypeDef.object] using hnodup
    · rintro n hn _ hm rfl
      exact hfree (List.mem_singleton.1 hm ▸ hn)
  · simpa [List.filterMap_append, Placed.root?_of_type hp] using hc.roots_length_le

/-- The first root comes to what is held. -/
theorem concat_block (hc : c.Holds ps) {root : String} {more : List String}
    (hp : p.clause = .block root more) (hnone : c.root = none) :
    Holds { c with root := some ⟨root, p.token 4, p.token 0⟩ } (ps ++ [p]) := by
  have hroot := Placed.root?_of_block hp
  have hnil : ps.filterMap Placed.root? = [] := by
    rw [← List.head?_eq_none_iff, ← hc.root, hnone]
  refine ⟨?_, ?_, hc.nodup, ?_⟩
  · simp [List.filterMap_append, Placed.object?_of_block hp, hc.types]
  · simp [List.filterMap_append, hroot, hnil]
  · simp [List.filterMap_append, hroot, hnil]

end Holds

theorem takes_eq_add {x : Def} (hx : x.clause = p.clause) (hp : p.Stands)
    (hd : Document.DistinctFields x) : c.takes p = c.add (x.definition p.source p.stream) := by
  obtain ⟨r, hr⟩ := hp.reads
  rw [← hx, Def.lexemes_clause] at hr
  have hpermitted : x.Permitted := Def.permitted_clause.1 (hx ▸ hp.permitted)
  unfold takes
  rw [Document.definition_of_reads p.source hr hpermitted hd]
  rfl

/-- A clause is refused for its defect. -/
theorem takes_of_defect (hc : c.Holds before) (hp : p.Stands) (h : Defect before p e) :
    c.takes p = .error e := by
  obtain ⟨r, hr⟩ := hp.reads
  have hpermitted := hp.permitted
  cases h with
  | field hclause ht hfs hf =>
    rw [hclause] at hr hpermitted
    unfold takes
    rw [Document.definition_of_repeated_field hr hpermitted ht hfs hf]
    rfl
  | @scalar t hclause ht hs =>
    rw [takes_eq_add (x := .type t) hclause.symm hp ht]
    show c.addType (t.object p.source p.stream) = _
    simp only [addType, TypeDef.object, hs, if_true]
    rfl
  | @type t u q hclause ht hs hq hu hname =>
    have hfind := hc.find?_eq hq hu
    rw [hname] at hfind
    rw [takes_eq_add (x := .type t) hclause.symm hp ht]
    show c.addType (t.object p.source p.stream) = _
    simp only [addType, TypeDef.object, hs, hfind, Option.isSome_none, Bool.false_eq_true, if_false]
    rfl
  | operation hclause =>
    rw [hclause] at hr hpermitted
    unfold takes
    rw [Document.definition_of_repeated_operation hr hpermitted]
    rfl
  | @schema root first more q hclause hq hfirst =>
    rw [takes_eq_add (x := .schema root) hclause.symm hp trivial]
    show c.addRoot _ = _
    unfold addRoot
    rw [hc.root_eq hq hfirst]
    rfl

/-- A clause without a defect is taken. -/
theorem exists_takes (hc : c.Holds before) (hp : p.Stands) (h : ∀ e, ¬ Defect before p e) :
    ∃ c', c.takes p = .ok c' ∧ c'.Holds (before ++ [p]) := by
  cases hclause : p.clause with
  | type t =>
    by_cases ht : (t.fields.map FieldDef.name).Nodup
    · have hs : Scalar.ofName? t.name = none :=
        Option.not_isSome_iff_eq_none.1 fun hs => h _ (.scalar hclause ht hs)
      have hfree : t.name ∉ c.typeNames := by
        intro hmem
        obtain ⟨q, hq, u, hu, hname⟩ := hc.mem_typeNames.1 hmem
        exact h _ (.type hclause ht hs hq hu hname)
      refine ⟨_, ?_, hc.concat_type hclause hfree⟩
      rw [takes_eq_add (x := .type t) hclause.symm hp ht]
      exact addType_eq_ok.2 ⟨hs, hfree, rfl⟩
    · obtain ⟨fs, f, gs, hfields, hfs, hf⟩ := exists_repeated ht
      exact absurd (.field hclause hfields hfs hf) (h _)
  | block root more =>
    cases more with
    | cons second more => exact absurd (.operation hclause) (h _)
    | nil =>
      have hnone : c.root = none := by
        cases hr : c.root with
        | none => rfl
        | some r =>
          obtain ⟨q, hq, first, more, hfirst, -⟩ := hc.exists_block hr
          exact absurd (.schema hclause hq hfirst) (h _)
      refine ⟨_, ?_, hc.concat_block hclause hnone⟩
      rw [takes_eq_add (x := .schema root) hclause.symm hp trivial]
      exact addRoot_eq_ok.2 ⟨hnone, rfl⟩

/-! ## Any number of clauses -/

theorem exists_takeAll (hc : c.Holds before) (hps : ∀ p ∈ ps, p.Stands)
    (hclean : CleanAfter before ps) :
    ∃ c', c.takeAll ps = (c', none) ∧ c'.Holds (before ++ ps) := by
  induction ps generalizing c before with
  | nil => exact ⟨c, rfl, by rwa [List.append_nil]⟩
  | cons p ps ih =>
    obtain ⟨hp, hrest⟩ := List.forall_mem_cons.1 hps
    obtain ⟨hfirst, hafter⟩ := cleanAfter_cons.1 hclean
    obtain ⟨c₁, htakes, hc₁⟩ := exists_takes hc hp hfirst
    obtain ⟨c', hall, hc'⟩ := ih hc₁ hrest hafter
    refine ⟨c', ?_, by rwa [List.append_assoc, List.singleton_append] at hc'⟩
    simp only [takeAll, htakes, hall]

theorem takeAll_of_defect {post : List Placed} (hc : c.Holds before)
    (hps : ∀ q ∈ ps ++ p :: post, q.Stands) (hclean : CleanAfter before ps)
    (h : Defect (before ++ ps) p e) : (c.takeAll (ps ++ p :: post)).2 = some e := by
  induction ps generalizing c before with
  | nil =>
    rw [List.append_nil] at h
    simp only [List.nil_append, takeAll, takes_of_defect hc (hps p (by simp)) h]
  | cons q ps ih =>
    obtain ⟨hq, hrest⟩ := List.forall_mem_cons.1 hps
    obtain ⟨hfirst, hafter⟩ := cleanAfter_cons.1 hclean
    obtain ⟨c₁, htakes, hc₁⟩ := exists_takes hc hq hfirst
    rw [← List.singleton_append, ← List.append_assoc] at h
    simp only [List.cons_append, takeAll, htakes]
    exact ih hc₁ hrest hafter h

/-! ## What is lacking -/

theorem build_of_unresolved (h : c.types.findSome? c.unresolved? = some e) :
    c.build = .error e := by
  unfold build
  split
  · rename_i hnil
    rw [hnil] at h
    cases h
  · rw [h]

/-- A name that a field may have as its type. -/
def Knows (c : Collector) (n : String) : Prop := (Scalar.ofName? n).isSome ∨ n ∈ c.typeNames

/-- The complaint about a field of an unknown type. -/
def unknown? (c : Collector) (type : String) (f : Field) : Option SchemaError :=
  if f.type.scalar?.isNone && (c.find? f.type.target).isNone then
    some ⟨.unknownType type f.name f.type.target, f.location⟩
  else none

theorem unresolved?_eq_findSome? (c : Collector) (t : ObjectType) :
    c.unresolved? t = t.fields.findSome? (c.unknown? t.name) := rfl

theorem isNone_eq_true_iff {n : String} :
    ((Scalar.ofName? n).isNone && (c.find? n).isNone) = true ↔ ¬ c.Knows n := by
  rw [Knows, not_or, ← find?_eq_none, Option.not_isSome_iff_eq_none]
  simp

section

variable {source type : String} {f : FieldDef} {s : Stream}

theorem unknown?_of_knows (h : c.Knows f.type.target) :
    c.unknown? type (f.field source s) = none := by
  rw [← f.type.target_ref] at h
  exact if_neg fun hnone => isNone_eq_true_iff.1 hnone h

theorem unknown?_of_not_knows (h : ¬ c.Knows f.type.target) :
    c.unknown? type (f.field source s) = some ⟨.unknownType type f.name f.type.target,
      some (Document.locate source (s.drop (Document.nameIndex [] f)).position)⟩ := by
  have hunknown := h
  rw [← f.type.target_ref] at hunknown
  refine (if_pos (isNone_eq_true_iff.2 hunknown)).trans ?_
  simp [FieldDef.field, Document.nameIndex]

/-- Of fields, the first whose type is not known is complained of. -/
theorem findSome?_fieldsAt {fs : List FieldDef} :
    (fieldsAt source fs s).findSome? (c.unknown? type) = some e ↔
      ∃ gs f hs, fs = gs ++ f :: hs ∧ (∀ g ∈ gs, c.Knows g.type.target) ∧
        ¬ c.Knows f.type.target ∧ ⟨.unknownType type f.name f.type.target,
          some (Document.locate source (s.drop (Document.nameIndex gs f)).position)⟩ = e := by
  induction fs generalizing s with
  | nil => simp [fieldsAt]
  | cons f fs ih =>
    rw [fieldsAt, List.findSome?_cons]
    by_cases hf : c.Knows f.type.target
    · rw [unknown?_of_knows hf]
      refine ih.trans ⟨?_, ?_⟩
      · rintro ⟨gs, g, hs, rfl, hgs, hg, rfl⟩
        exact ⟨f :: gs, g, hs, rfl, List.forall_mem_cons.2 ⟨hf, hgs⟩, hg,
          by rw [Document.drop_nameIndex]⟩
      · rintro ⟨gs, g, hs, hsplit, hgs, hg, rfl⟩
        cases gs with
        | nil =>
          cases hsplit
          exact absurd hf hg
        | cons x gs =>
          cases hsplit
          exact ⟨gs, g, hs, rfl, (List.forall_mem_cons.1 hgs).2, hg,
            by rw [Document.drop_nameIndex]⟩
    · rw [unknown?_of_not_knows hf]
      simp only [Option.some.injEq]
      constructor
      · rintro rfl
        exact ⟨[], f, fs, rfl, by simp, hf, rfl⟩
      · rintro ⟨gs, g, hs, hsplit, hgs, hg, rfl⟩
        cases gs with
        | nil =>
          cases hsplit
          rfl
        | cons x gs =>
          cases hsplit
          exact absurd ((List.forall_mem_cons.1 hgs).1) hf

end

namespace Holds

variable {q : Placed}

theorem knows_iff (hc : c.Holds ps) {n : String} : c.Knows n ↔ Known ps n := by
  rw [Knows, hc.mem_typeNames, Known]

theorem unresolved?_eq_some_iff (hc : c.Holds ps) :
    q.object?.bind c.unresolved? = some e ↔ ∃ t fs f gs, q.clause = .type t ∧
      t.fields = fs ++ f :: gs ∧ (∀ g ∈ fs, Known ps g.type.target) ∧
      ¬ Known ps f.type.target ∧ ⟨.unknownType t.name f.name f.type.target,
        some (q.token (t.keyword + 3 + Document.nameIndex fs f))⟩ = e := by
  unfold Placed.object?
  cases q.clause with
  | block root more => simp
  | type t =>
    have hfields : (t.object q.source q.stream).fields =
        fieldsAt q.source t.fields (q.stream.drop (t.keyword + 3)) := by
      rw [← Document.drop_drop]
      rfl
    rw [Option.bind_some, unresolved?_eq_findSome?, hfields, findSome?_fieldsAt]
    simp only [hc.knows_iff, Document.drop_drop, Placed.token]
    constructor
    · rintro ⟨fs, f, gs, ht, hfs, hf, rfl⟩
      exact ⟨t, fs, f, gs, rfl, ht, hfs, hf, rfl⟩
    · rintro ⟨_, fs, f, gs, ⟨⟩, ht, hfs, hf, rfl⟩
      exact ⟨fs, f, gs, ht, hfs, hf, rfl⟩

theorem unresolved?_eq_none_iff (hc : c.Holds ps) :
    q.object?.bind c.unresolved? = none ↔ Resolved ps q := by
  unfold Placed.object? Resolved
  cases q.clause with
  | block root more => simp
  | type t =>
    have htargets := map_target_fieldsAt q.source t.fields ((q.stream.drop t.keyword).drop 3)
    have hfields : (∀ f ∈ (t.object q.source q.stream).fields, c.Knows f.type.target) ↔
        ∀ f ∈ t.fields, c.Knows f.type.target := by
      rw [← List.forall_mem_map (f := fun f : Field => f.type.target) (P := c.Knows),
        ← List.forall_mem_map (f := fun f : FieldDef => f.type.target) (P := c.Knows), ← htargets]
      rfl
    rw [Option.bind_some, unresolved?_eq_none]
    refine hfields.trans ?_
    simp only [hc.knows_iff, Clause.type.injEq, forall_eq']

theorem findSome?_unresolved? (hc : c.Holds ps) :
    c.types.findSome? c.unresolved? = ps.findSome? fun q => q.object?.bind c.unresolved? := by
  rw [hc.types]
  clear hc
  induction ps with
  | nil => rfl
  | cons q ps ih => cases hq : q.object? <;> simp [List.findSome?_cons, hq, ih]

variable {last : Location} {k : SchemaError.Kind} {s : Schema}

/-- What is built is refused for something that is lacking. -/
theorem lacks_of_build (hc : c.Holds ps) (hlast : c.lastEnd = some last)
    (h : c.build = .error e) : Lacks ps last e.kind e := by
  unfold build at h
  split at h
  · rename_i hnil
    cases h
    rw [hlast]
    refine .types fun n hn => ?_
    have hmem := hc.mem_typeNames.2 hn
    rw [typeNames, hnil] at hmem
    cases hmem
  · rename_i first rest hcons
    rw [hc.findSome?_unresolved?] at h
    split at h
    · rename_i e' hsome
      cases h
      obtain ⟨before, p, after, hps, he, hbefore⟩ := List.findSome?_eq_some_iff.1 hsome
      obtain ⟨t, fs, f, gs, hp, ht, hfs, hf, rfl⟩ := hc.unresolved?_eq_some_iff.1 he
      exact .target hps (fun q hq => hc.unresolved?_eq_none_iff.1 (hbefore q hq)) hp ht hfs hf
    · rename_i hnone
      have hall : ∀ q ∈ ps, Resolved ps q := fun q hq =>
        hc.unresolved?_eq_none_iff.1 (List.findSome?_eq_none_iff.1 hnone q hq)
      have hfirst : first.name ∈ c.typeNames := by simp [typeNames, hcons]
      cases hroot : c.rootName first with
      | ok n =>
        rw [hroot] at h
        cases h
      | error e' =>
        rw [hroot] at h
        cases h
        unfold rootName at hroot
        split at hroot
        · rename_i r hr
          split at hroot
          · cases hroot
          · rename_i hunknown
            cases hroot
            obtain ⟨q, hq, root, more, hblock, rfl⟩ := hc.exists_block hr
            exact .root ⟨first.name, hc.mem_typeNames.1 hfirst⟩ hall hq hblock fun hdeclared =>
              hunknown (find?_isSome.2 (hc.mem_typeNames.2 hdeclared))
        · cases hroot

theorem build_of_lacks (hc : c.Holds ps) (hlast : c.lastEnd = some last) (h : Lacks ps last k e) :
    c.build = .error e ∧ e.kind = k := by
  cases h with
  | types h =>
    have hnil : c.types = [] := by
      refine List.eq_nil_iff_forall_not_mem.2 fun t ht => h t.name ?_
      exact hc.mem_typeNames.1 (List.mem_map.2 ⟨t, ht, rfl⟩)
    simp [build, hnil, hlast, SchemaError.kind, SchemaError.Cause.kind]
  | target hps hbefore hp ht hfs hf =>
    refine ⟨build_of_unresolved ?_, rfl⟩
    rw [hc.findSome?_unresolved?, List.findSome?_eq_some_iff]
    exact ⟨_, _, _, hps, hc.unresolved?_eq_some_iff.2 ⟨_, _, _, _, hp, ht, hfs, hf, rfl⟩,
      fun q hq => hc.unresolved?_eq_none_iff.2 (hbefore q hq)⟩
  | root hsome hall hp hroot hname =>
    refine ⟨?_, rfl⟩
    have hnone : c.types.findSome? c.unresolved? = none := by
      rw [hc.findSome?_unresolved?, List.findSome?_eq_none_iff]
      exact fun q hq => hc.unresolved?_eq_none_iff.2 (hall q hq)
    have hfind := find?_eq_none.2 fun hmem => hname (hc.mem_typeNames.1 hmem)
    unfold build
    split
    · rename_i hnil
      obtain ⟨n, hn⟩ := hsome
      have hmem := hc.mem_typeNames.2 hn
      rw [typeNames, hnil] at hmem
      cases hmem
    · simp only [hnone, rootName, hc.root_eq hp hroot, hfind]
      rfl

theorem schema_eq (hc : c.Holds ps) (h : c.build = .ok s) : schema ps = s := by
  obtain ⟨-, -, -, rfl⟩ := Collector.build_eq_ok_iff.1 h
  simp only [schema, queryType, typeNames, ← hc.types, ← hc.root]
  rfl

end Holds

/-! ## Sources -/

/-- The clauses of sources, one source after the other. -/
def clausesOf (draft : String → Draft) (sources : List (String × String)) : List Placed :=
  sources.flatMap fun x => (draft x.2).placed x.1 (Stream.ofText x.2)

/-- Reading a draft and adding what is read takes its clauses one after the other. -/
theorem addAll_of_takeAll (c : Collector) (source : String) {d : Draft} {s : Stream}
    {q : Position} (h : Reads d.lexemes s (.stop q)) (hd : d.Permitted) :
    (∀ c' e, c.takeAll (d.placed source s) = (c', some e) →
      c.addAll (Document.definitions source s).1 = (c', some e) ∨
        c.addAll (Document.definitions source s).1 = (c', none) ∧
          (Document.definitions source s).2 = .failed e) ∧
    ∀ c', c.takeAll (d.placed source s) = (c', none) →
      c.addAll (Document.definitions source s).1 = (c', none) ∧
        (Document.definitions source s).2 = .complete q := by
  induction d generalizing c s with
  | nil =>
    obtain rfl : s = .stop q := h
    refine ⟨fun c' e htake => (by cases htake), fun c' htake => ?_⟩
    cases htake
    rw [Document.definitions]
    exact ⟨rfl, rfl⟩
  | cons x d ih =>
    obtain ⟨m, hx, hm⟩ := reads_append.1 h
    obtain ⟨hpx, hpd⟩ := List.forall_mem_cons.1 hd
    have hstop : s.isStop = false := Document.isStop_of_reads hx x.lexemes_ne_nil
    simp only [Draft.placed, takeAll, takes, hx.drop]
    rcases Document.definition_of_clause source hx hpx with ⟨y, -, -, -, hy⟩ | ⟨e, he, -⟩
    · rw [Document.definitions_of_ok hstop hy, hy]
      simp only [Document.ok_bind, addAll]
      cases hadd : c.add (y.definition source s) with
      | error e =>
        exact ⟨fun c' e' htake => .inl htake, fun c' htake => (by cases htake)⟩
      | ok c₁ => exact ih c₁ hm hpd
    · rw [Document.definitions_of_error hstop he, he]
      refine ⟨fun c' e' htake => .inr ?_, fun c' htake => (by cases htake)⟩
      cases htake
      exact ⟨rfl, rfl⟩

theorem addSource_of_takeAll {source text : String} {d : Draft} {q : Position}
    (h : Reads d.lexemes (Stream.ofText text) (.stop q)) (hd : d.Permitted) :
    (∀ c' e, c.takeAll (d.placed source (Stream.ofText text)) = (c', some e) →
      c.addSource source text = (c', some e)) ∧
    ∀ c', c.takeAll (d.placed source (Stream.ofText text)) = (c', none) →
      c.addSource source text = (c'.atEnd source q, none) := by
  obtain ⟨hrefused, htaken⟩ := addAll_of_takeAll c source h hd
  have hof : Document.ofText source text = Document.definitions source (Stream.ofText text) :=
    Document.ofStream_of_isComplete h.isComplete
  refine ⟨fun c' e htake => ?_, fun c' htake => ?_⟩
  · unfold addSource
    rw [hof]
    rcases hrefused c' e htake with hall | ⟨hall, hend⟩
    · simp only [hall]
    · simp only [hall, hend]
  · obtain ⟨hall, hend⟩ := htaken c' htake
    unfold addSource
    rw [hof]
    simp only [hall, hend]
    rfl

end Collector

/-- The tokens of a stream are all there, they derive the draft, and it uses no reserved name. -/
structure Grammar.Draft.Derives (d : Draft) (s : Stream) : Prop where
  isComplete : s.isComplete = true
  lexemes_eq : d.lexemes = s.lexemes
  permitted : d.Permitted

namespace Collector

open TypedQuery.Grammar TypedQuery.Stream

/-- Where a source ends. -/
def endOf (draft : String → Draft) (x : String × String) : Location :=
  Document.locate x.1 ((Stream.ofText x.2).drop (draft x.2).lexemes.length).position

section

variable {c : Collector} {p : Placed} {before ps post : List Placed} {e : SchemaError}
  {d : Draft} {source text : String}

theorem exists_addSource (source : String) (hc : c.Holds before)
    (h : d.Derives (Stream.ofText text))
    (hclean : CleanAfter before (d.placed source (Stream.ofText text))) :
    ∃ c', c.addSource source text = (c', none) ∧
      c'.Holds (before ++ d.placed source (Stream.ofText text)) ∧ c'.lastEnd =
        some (Document.locate source ((Stream.ofText text).drop d.lexemes.length).position) := by
  obtain ⟨q, hq⟩ := Stream.reads_stop h.isComplete
  rw [← h.lexemes_eq] at hq
  obtain ⟨c', htake, hc'⟩ := exists_takeAll hc (Draft.stands_of_mem_placed hq h.permitted) hclean
  exact ⟨_, (addSource_of_takeAll hq h.permitted).2 c' htake, hc'.atEnd source q,
    by rw [hq.drop]; rfl⟩

theorem addSource_of_defect (hc : c.Holds before) (h : d.Derives (Stream.ofText text))
    (hsplit : d.placed source (Stream.ofText text) = ps ++ p :: post)
    (hclean : CleanAfter before ps) (he : Defect (before ++ ps) p e) :
    (c.addSource source text).2 = some e := by
  obtain ⟨q, hq⟩ := Stream.reads_stop h.isComplete
  rw [← h.lexemes_eq] at hq
  have hstands : ∀ q ∈ d.placed source (Stream.ofText text), q.Stands :=
    Draft.stands_of_mem_placed hq h.permitted
  rw [hsplit] at hstands
  have htake := takeAll_of_defect hc hstands hclean he
  rw [← hsplit] at htake
  rw [(addSource_of_takeAll hq h.permitted).1 _ e (Prod.ext rfl htake)]

end

section

variable {c : Collector} {p : Placed} {before ps post : List Placed} {e : SchemaError}
  {draft : String → Draft} {sources : List (String × String)}

/-- Sources without a defect are taken. -/
theorem exists_addSources (hc : c.Holds before)
    (h : ∀ x ∈ sources, (draft x.2).Derives (Stream.ofText x.2))
    (hclean : CleanAfter before (clausesOf draft sources)) :
    ∃ c', c.addSources sources = (c', none) ∧ c'.Holds (before ++ clausesOf draft sources) ∧
      ∀ x, sources.getLast? = some x → c'.lastEnd = some (endOf draft x) := by
  induction sources generalizing c before with
  | nil => exact ⟨c, rfl, by simpa [clausesOf] using hc, by simp⟩
  | cons x sources ih =>
    obtain ⟨hx, hrest⟩ := List.forall_mem_cons.1 h
    have hcons : clausesOf draft (x :: sources) =
      (draft x.2).placed x.1 (Stream.ofText x.2) ++ clausesOf draft sources := rfl
    rw [hcons, cleanAfter_append] at hclean
    obtain ⟨c₁, hadd, hc₁, hlast⟩ := exists_addSource x.1 hc hx hclean.1
    obtain ⟨c', hadds, hc', hlast'⟩ := ih hc₁ hrest hclean.2
    refine ⟨c', by simp only [addSources, hadd, hadds], ?_, fun y hy => ?_⟩
    · rwa [hcons, ← List.append_assoc]
    · cases sources with
      | nil =>
        cases hy
        cases hadds
        exact hlast
      | cons z sources => exact hlast' y hy

/-- Sources are refused for the first defect in them. -/
theorem addSources_of_defect (hc : c.Holds before)
    (h : ∀ x ∈ sources, (draft x.2).Derives (Stream.ofText x.2))
    (hsplit : clausesOf draft sources = ps ++ p :: post) (hclean : CleanAfter before ps)
    (he : Defect (before ++ ps) p e) : (c.addSources sources).2 = some e := by
  induction sources generalizing c before ps with
  | nil => simp [clausesOf] at hsplit
  | cons x sources ih =>
    obtain ⟨hx, hrest⟩ := List.forall_mem_cons.1 h
    -- The defect is in the first source or in those after it.
    rcases List.append_eq_append_iff.1 hsplit with ⟨qs, rfl, hqs⟩ | ⟨qs, hqs, hcons⟩
    · rw [cleanAfter_append] at hclean
      rw [← List.append_assoc] at he
      obtain ⟨c₁, hadd, hc₁, -⟩ := exists_addSource x.1 hc hx hclean.1
      simp only [addSources, hadd]
      exact ih hc₁ hrest hqs hclean.2 he
    · cases qs with
      | nil =>
        rw [List.append_nil] at hqs
        rw [← hqs] at hclean he
        obtain ⟨c₁, hadd, hc₁, -⟩ := exists_addSource x.1 hc hx hclean
        simp only [addSources, hadd]
        have hfirst : clausesOf draft sources = [] ++ p :: post := hcons.symm
        exact ih hc₁ hrest hfirst (cleanAfter_nil _) (by rwa [List.append_nil])
      | cons q qs =>
        cases hcons
        have hadd := addSource_of_defect hc hx hqs hclean he
        rcases hx : c.addSource x.1 x.2 with ⟨c', o⟩
        rw [hx] at hadd
        cases hadd
        simp only [addSources, hx]

end

section

variable {front : List (String × String)} {last : String × String} {draft : String → Draft}

theorem ofSources_of_refused {sources : List (String × String)} {e : SchemaError}
    (h : (addSources {} sources).2 = some e) : ofSources sources = .error e := by
  unfold ofSources
  rcases hc : addSources {} sources with ⟨c, o⟩
  rw [hc] at h
  cases h
  rfl

theorem ofSources_of_reported {k : SchemaError.Kind} {e : SchemaError}
    (h : ∀ x ∈ front ++ [last], (draft x.2).Derives (Stream.ofText x.2))
    (he : Reported (clausesOf draft (front ++ [last])) (endOf draft last) k e) :
    ofSources (front ++ [last]) = .error e ∧ e.kind = k := by
  cases he with
  | defect hps hbefore hdefect =>
    have hadds := addSources_of_defect .empty h hps hbefore hdefect
    exact ⟨ofSources_of_refused hadds, hdefect.kind⟩
  | lack hclean hlacks =>
    obtain ⟨c, hadds, hc, hlast⟩ := exists_addSources .empty h hclean
    unfold ofSources
    rw [hadds]
    exact hc.build_of_lacks (hlast last (by simp)) hlacks

theorem ofSources_of_not_reported
    (h : ∀ x ∈ front ++ [last], (draft x.2).Derives (Stream.ofText x.2))
    (hnone : ∀ k e, ¬ Reported (clausesOf draft (front ++ [last])) (endOf draft last) k e) :
    ofSources (front ++ [last]) = .ok (schema (clausesOf draft (front ++ [last]))) := by
  have hclean : CleanAfter [] (clausesOf draft (front ++ [last])) := by
    refine (exists_defect [] _).resolve_right ?_
    rintro ⟨before, p, after, e, hps, hbefore, he⟩
    exact hnone _ _ (.defect hps hbefore he)
  obtain ⟨c, hadds, hc, hlast⟩ := exists_addSources .empty h hclean
  unfold ofSources
  simp only [hadds]
  cases hb : c.build with
  | ok s => exact congrArg Except.ok (hc.schema_eq hb).symm
  | error e => exact absurd (.lack hclean (hc.lacks_of_build (hlast last (by simp)) hb)) (hnone _ e)

end

/-- **Precedence of errors.** Sources whose tokens derive from the grammar are refused exactly for
what is reported of their clauses, which settles the kind of the error, its cause and its place. If
there is nothing to report they make the schema of their clauses. -/
theorem ofSources_reports (front : List (String × String)) (last : String × String)
    (draft : String → Draft)
    (h : ∀ x ∈ front ++ [last], (draft x.2).Derives (Stream.ofText x.2)) :
    (∀ e, ofSources (front ++ [last]) = .error e ↔
      Reported (clausesOf draft (front ++ [last])) (endOf draft last) e.kind e) ∧
    ∀ s, ofSources (front ++ [last]) = .ok s ↔
      (∀ k e, ¬ Reported (clausesOf draft (front ++ [last])) (endOf draft last) k e) ∧
        schema (clausesOf draft (front ++ [last])) = s := by
  refine ⟨fun e => ⟨fun hrun => ?_, fun he => (ofSources_of_reported h he).1⟩,
    fun s => ⟨fun hrun => ?_, ?_⟩⟩
  · by_cases hsome : ∃ k e, Reported (clausesOf draft (front ++ [last])) (endOf draft last) k e
    · obtain ⟨k, e', he⟩ := hsome
      obtain ⟨herror, rfl⟩ := ofSources_of_reported h he
      cases hrun.symm.trans herror
      exact he
    · rw [ofSources_of_not_reported h fun k e he => hsome ⟨k, e, he⟩] at hrun
      cases hrun
  · have hnone : ∀ k e,
        ¬ Reported (clausesOf draft (front ++ [last])) (endOf draft last) k e := by
      intro k e he
      cases hrun.symm.trans (ofSources_of_reported h he).1
    rw [ofSources_of_not_reported h hnone] at hrun
    exact ⟨hnone, Except.ok.inj hrun⟩
  · rintro ⟨hnone, rfl⟩
    exact ofSources_of_not_reported h hnone

/-- A type that two sources declare is reported, and that its field refers to nothing is not. -/
theorem ofSources_reports_redeclared :
    let text := "type A \x7b b: B \x7d"
    let draft : String → Draft := fun _ => [.type ⟨none, "A", ⟨none, "b", .name "B" false⟩, []⟩]
    (∀ x ∈ [("a", text)] ++ [("b", text)], (draft x.2).Derives (Stream.ofText x.2)) ∧
      Reported (clausesOf draft ([("a", text)] ++ [("b", text)])) (endOf draft ("b", text))
        .duplicate ⟨.typeTwice "A" (some ⟨"a", 1, 1⟩), some ⟨"b", 1, 1⟩⟩ := by
  intro text draft
  have hderives : (draft text).Derives (Stream.ofText text) :=
    ⟨by decide +kernel, by decide +kernel,
      by simp [draft, Draft.Permitted, Clause.Permitted, TypeDef.Permitted, TypeDef.fields,
        FieldDef.Permitted, Reference.target, IsReserved]⟩
  have h : ∀ x ∈ [("a", text)] ++ [("b", text)], (draft x.2).Derives (Stream.ofText x.2) := by
    simpa using hderives
  exact ⟨h, ((ofSources_reports _ _ draft h).1 ⟨.typeTwice "A" _, _⟩).1
    (ofSources_of_refused (by decide +kernel))⟩

end Collector

end TypedQuery
