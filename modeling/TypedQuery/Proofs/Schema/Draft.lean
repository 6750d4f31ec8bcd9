import TypedQuery.Proofs.Schema.Language
import TypedQuery.Proofs.Schema.Placing

/-!
# Documents before their names are compared

The grammar alone lets a schema block name the query root several times and a type repeat its
fields. A `Draft` is a derivation of that kind:

    schema_def := "schema" "{" ("query" ":" Name)+ "}"

The readers take a draft up to the first name that comes twice, and complain of nothing else.

* `Document.definition_of_repeated_field`, `Document.definition_of_repeated_operation`: the two
  things that a reader finds wrong with a clause.
* `Document.definition_of_clause`: every other clause is a definition and is read.
* `Document.kind_of_draft`: a draft is refused for nothing but a name that comes twice.
* `Document.exists_document_of_definitions`: a stream begins with the document of its definitions,
  whatever follows.
-/

namespace TypedQuery

/-! ## Clauses -/

namespace Grammar

/-- A definition as the grammar alone has it. -/
inductive Clause where
  | type (t : TypeDef)
  /-- A block that names the query root once or more. -/
  | block (root : String) (more : List String)
  deriving DecidableEq

namespace Clause

/-- The sentence that names a query root. -/
def operation (root : String) : List Lexeme := [.name "query", .punct .colon, .name root]

/-- The sentence of a clause. -/
def lexemes : Clause → List Lexeme
  | .type t => t.lexemes
  | .block root more =>
    .name "schema" :: .punct .braceL :: ((root :: more).flatMap operation ++ [.punct .braceR])

/-- The clause uses no reserved name. -/
def Permitted : Clause → Prop
  | .type t => t.Permitted
  | .block root more => ∀ r ∈ root :: more, ¬ IsReserved r

end Clause

/-- The clauses of a source. -/
abbrev Draft := List Clause

namespace Draft

/-- The sentence of a draft. -/
def lexemes (d : Draft) : List Lexeme := d.flatMap Clause.lexemes

/-- The draft uses no reserved name. -/
def Permitted (d : Draft) : Prop := ∀ x ∈ d, x.Permitted

end Draft

/-- A definition is a clause that names the query root once. -/
def Def.clause : Def → Clause
  | .type t => .type t
  | .schema root => .block root []

theorem Clause.lexemes_ne_nil (x : Clause) : x.lexemes ≠ [] := by
  cases x <;> simp [lexemes, TypeDef.lexemes]

theorem Def.lexemes_clause (x : Def) : x.clause.lexemes = x.lexemes := by
  cases x <;> rfl

theorem Def.permitted_clause {x : Def} : x.clause.Permitted ↔ x.Permitted := by
  cases x <;> simp [clause, Clause.Permitted, Permitted]

/-- Names that are not all different have a first one that comes again. -/
theorem exists_repeated {fs : List FieldDef} (h : ¬ (fs.map FieldDef.name).Nodup) :
    ∃ before f after, fs = before ++ f :: after ∧ (before.map FieldDef.name).Nodup ∧
      f.name ∈ before.map FieldDef.name := by
  -- Walk along the fields; `before` are those that were different so far.
  have hwalk : ∀ (fs before : List FieldDef), (before.map FieldDef.name).Nodup →
      ¬ ((before ++ fs).map FieldDef.name).Nodup → ∃ before' f after,
        before ++ fs = before' ++ f :: after ∧ (before'.map FieldDef.name).Nodup ∧
          f.name ∈ before'.map FieldDef.name := by
    intro fs
    induction fs with
    | nil =>
      intro before hbefore hnot
      exact absurd (by simpa using hbefore) hnot
    | cons f fs ih =>
      intro before hbefore hnot
      by_cases hf : f.name ∈ before.map FieldDef.name
      · exact ⟨before, f, fs, rfl, hbefore, hf⟩
      · have hnext : ((before ++ [f]).map FieldDef.name).Nodup := by
          rw [List.map_append, List.nodup_append]
          refine ⟨hbefore, by simp, ?_⟩
          rintro n hn _ hm rfl
          rw [List.map_cons, List.map_nil, List.mem_singleton] at hm
          exact hf (hm ▸ hn)
        have hlist : before ++ f :: fs = before ++ [f] ++ fs := by simp
        rw [hlist] at hnot ⊢
        exact ih (before ++ [f]) hnext hnot
  exact hwalk fs [] List.nodup_nil h

end Grammar

/-! ## Reading a clause -/

namespace Document

open TypedQuery.Stream TypedQuery.Grammar

variable {source : String} {s m r : Stream}

theorem ok_bind {α β : Type} (a : α) (k : α → Except SchemaError β) : (.ok a >>= k) = k a := rfl

theorem error_bind {α β : Type} (e : SchemaError) (k : α → Except SchemaError β) :
    (.error e >>= k) = .error e := rfl

theorem bind_eq_error {α β : Type} {x : Except SchemaError α} {k : α → Except SchemaError β}
    {e : SchemaError} :
    (x >>= k) = .error e ↔ x = .error e ∨ ∃ a, x = .ok a ∧ k a = .error e := by
  cases x <;> simp [bind, Except.bind]

/-- A stream does not end where tokens are to be read. -/
theorem isStop_of_reads {ls : List Lexeme} (h : Reads ls s r) (hne : ls ≠ []) :
    s.isStop = false := by
  cases ls with
  | nil => exact absurd rfl hne
  | cons l ls =>
    obtain ⟨p, m, rfl, -⟩ := h
    rfl

/-- The index of a field's name among the tokens of the fields that begin with `before`. -/
def nameIndex (before : List FieldDef) (f : FieldDef) : Nat :=
  (before.flatMap FieldDef.lexemes).length + (Description.lexemes f.description).length

theorem drop_drop (s : Stream) (i j : Nat) : (s.drop i).drop j = s.drop (i + j) := by
  induction i generalizing s with
  | zero => rw [Nat.zero_add]; rfl
  | succ i ih => rw [Nat.succ_add]; exact ih s.tail

theorem drop_nameIndex (s : Stream) (g : FieldDef) (before : List FieldDef) (f : FieldDef) :
    (s.drop g.lexemes.length).drop (nameIndex before f) = s.drop (nameIndex (g :: before) f) := by
  rw [drop_drop]
  simp only [nameIndex, List.flatMap_cons, List.length_append, Nat.add_assoc]

/-- Fields are read up to the first whose name has come before. -/
theorem fields_of_repeated {type : String} {seen : List Field} {before after : List FieldDef}
    {f : FieldDef}
    (h : Reads ((before ++ f :: after).flatMap FieldDef.lexemes ++ [.punct .braceR]) s r)
    (hp : ∀ g ∈ before ++ f :: after, g.Permitted) (hfresh : FreshFields seen before)
    (hf : f.name ∈ before.map FieldDef.name ∨ f.name ∈ seen.map Field.name) :
    fields source type seen s = .error ⟨.fieldTwice type f.name,
      some (locate source (s.drop (nameIndex before f)).position)⟩ := by
  induction before generalizing seen s with
  | nil =>
    rw [List.nil_append, List.flatMap_cons, List.append_assoc] at h
    obtain ⟨m, hx, hm⟩ := reads_append.1 h
    have hread : fieldDef source s = .ok (f.field source s, m) :=
      fieldDef_eq_ok.2 ⟨f, hx, rfl, hp f (by simp), endsField_of_reads hm⟩
    have hseen : seen.any (fun g => g.name == (f.field source s).name) = true := by
      rcases hf with hf | hf
      · cases hf
      · obtain ⟨g, hg, hname⟩ := List.mem_map.1 hf
        exact List.any_eq_true.2 ⟨g, hg, by simp [FieldDef.field, hname]⟩
    rw [fields_of_ok _ _ hread, if_pos hseen]
    simp [FieldDef.field, nameIndex]
  | cons g before ih =>
    rw [List.cons_append, List.flatMap_cons, List.append_assoc] at h
    obtain ⟨m, hx, hm⟩ := reads_append.1 h
    have hread : fieldDef source s = .ok (g.field source s, m) :=
      fieldDef_eq_ok.2 ⟨g, hx, rfl, hp g (by simp), endsField_of_reads hm⟩
    obtain ⟨hseen, hrest⟩ := (freshFields_cons source s).1 hfresh
    -- A field follows, so neither the closing brace nor the end of the text.
    obtain ⟨x, xs, hcons⟩ : ∃ x xs, before ++ f :: after = x :: xs := by
      cases before <;> exact ⟨_, _, rfl⟩
    have hhead : startsText m.head? = true ∨ ∃ n, m.head? = some (.name n) := by
      rw [hm.head?, hcons, List.flatMap_cons, List.append_assoc, List.append_assoc]
      exact x.head?_lexemes _
    have hbrace : m.head? ≠ some (.punct .braceR) := by
      intro hb
      rw [hb] at hhead
      rcases hhead with h | ⟨n, h⟩ <;> cases h
    have hstop : m.isStop = false := isStop_of_reads hm (by simp)
    rw [fields_of_ok _ _ hread, if_neg (by simp [hseen]), if_neg hbrace, if_neg (by simp [hstop]),
      ← drop_nameIndex, hx.drop]
    refine ih hm (fun x hx => hp x (List.mem_cons_of_mem _ hx)) hrest ?_
    rw [List.map_cons, List.mem_cons] at hf
    rcases hf with (hf | hf) | hf
    · exact .inr (by simp [FieldDef.field, hf])
    · exact .inl hf
    · exact .inr (List.mem_cons_of_mem _ hf)

/-! ## Definitions in stages -/

theorem description_of_reads {d : Option Description} {l : Lexeme}
    (h : Reads (Description.lexemes d) s m) (hm : m.head? = some l)
    (hl : startsText (some l) = false) :
    description source s = .ok (d.map Description.value, m) := by
  refine description_eq_ok.2 ⟨d, h, rfl, ?_⟩
  rintro rfl
  rw [show s = m from h, hm, hl]

/-- A definition goes on as a type after the keyword. -/
theorem definition_of_type {d : Option Description}
    (h : Reads (Description.lexemes d ++ [.name "type"]) s m) :
    definition source s = (objectType source (d.map Description.value)
      (s.drop (Description.lexemes d).length).position m >>= fun x => .ok (.object x.1, x.2)) := by
  obtain ⟨k, hd, p, m', rfl, hm, rfl⟩ := reads_append.1 h
  have htake : Stream.take source m' = .ok () := take_eq_ok.2 hm
  unfold definition
  rw [description_of_reads hd rfl rfl, hd.drop, ok_bind]
  simp only [if_true, htake, ok_bind]
  rfl

/-- A definition goes on as a schema block after the keyword. -/
theorem definition_of_schema (h : Reads [.name "schema"] s m) : definition source s =
    (rootBlock source s.position m >>= fun x => .ok (.root x.1, x.2)) := by
  obtain ⟨p, m', rfl, hm, rfl⟩ := h
  have hd : Reads (Description.lexemes none) (.next ⟨.name "schema", p⟩ m')
    (.next ⟨.name "schema", p⟩ m') := rfl
  have htake : Stream.take source m' = .ok () := take_eq_ok.2 hm
  unfold definition
  rw [description_of_reads hd rfl rfl, ok_bind]
  simp only [String.reduceEq, if_false, if_true, Option.map_none, Option.isSome_none,
    Bool.false_eq_true, htake, ok_bind]
  rfl

theorem objectType_of_reads {text : Option String} {start : Position} {n : String}
    (h : Reads [.name n, .punct .braceL] s m) (hn : ¬ IsReserved n) :
    objectType source text start s = (fields source n [] m >>= fun x =>
      .ok (⟨n, x.1, text, some (locate source start)⟩, x.2)) := by
  obtain ⟨p, m', rfl, hm', hb⟩ := h
  have hname : name source "a type name" (.next ⟨.name n, p⟩ m') = .ok ((n, p), m') :=
    name_eq_ok.2 ⟨rfl, hm', hn⟩
  unfold objectType
  rw [hname, ok_bind]
  simp only [hb.head?, List.cons_append, List.head?_cons, Option.some.injEq, reduceCtorEq, if_false,
    Lexeme.punct.injEq, punct_eq_ok.2 hb, ok_bind]
  rfl

/-- A type is read up to the first field whose name has come before. -/
theorem definition_of_repeated_field {t : TypeDef} {before after : List FieldDef} {f : FieldDef}
    (h : Reads t.lexemes s r) (hp : t.Permitted) (ht : t.fields = before ++ f :: after)
    (hnodup : (before.map FieldDef.name).Nodup) (hf : f.name ∈ before.map FieldDef.name) :
    definition source s = .error ⟨.fieldTwice t.name f.name, some (locate source (s.drop
      ((Description.lexemes t.description).length + 3 + nameIndex before f)).position)⟩ := by
  have hsplit : t.lexemes = (Description.lexemes t.description ++ [.name "type"]) ++
      ([.name t.name, .punct .braceL] ++
        ((before ++ f :: after).flatMap FieldDef.lexemes ++ [.punct .braceR])) := by
    simp [TypeDef.lexemes, ← ht]
  rw [hsplit] at h
  obtain ⟨m, hkeyword, h⟩ := reads_append.1 h
  obtain ⟨k, hopen, h⟩ := reads_append.1 h
  have hdrop : s.drop ((Description.lexemes t.description).length + 3 + nameIndex before f) =
      k.drop (nameIndex before f) := by
    rw [← hopen.drop, ← hkeyword.drop, drop_drop, drop_drop]
    congr 1
    simp only [List.length_append, List.length_cons, List.length_nil]
    omega
  rw [definition_of_type hkeyword, objectType_of_reads hopen hp.1,
    fields_of_repeated h (ht ▸ hp.2) ⟨hnodup, by simp⟩ (.inl hf), hdrop]
  rfl

theorem operation_of_repeated (h : Reads [.name "query"] s m) :
    operation source true s = failAt source s (.operationTwice "query") := by
  obtain ⟨p, m, rfl, hm, rfl⟩ := h
  have hname : anyName source "a root operation" (.next ⟨.name "query", p⟩ m) =
      .ok (("query", p), m) := anyName_eq_ok.2 ⟨rfl, hm⟩
  unfold operation
  rw [hname, ok_bind]
  rfl

/-- A block that names the query root goes on with the next operation. -/
theorem rootBlock_of_operation {start : Position} {root : String}
    (h : Reads (.punct .braceL :: Clause.operation root) s m) (hroot : ¬ IsReserved root)
    (hbrace : m.head? ≠ some (.punct .braceR)) : rootBlock source start s =
      (operation source true m >>= fun x => failAt source x.2 (.operationTwice "query")) := by
  obtain ⟨p, k, rfl, hk, p₁, k₁, rfl, hk₁, p₂, k₂, rfl, hk₂, p₃, k₃, rfl, hk₃, rfl⟩ := h
  have hopen : punct source .braceL (.next ⟨.punct .braceL, p⟩ _) = .ok _ :=
    punct_eq_ok.2 ⟨p, _, rfl, hk, rfl⟩
  have hfirst : operation source false (.next ⟨.name "query", p₁⟩ _) = .ok ((root, p₃), k₃) :=
    operation_eq_ok.2 ⟨_, ⟨p₁, _, rfl, hk₁, p₂, _, rfl, hk₂, rfl⟩, rfl, hk₃, hroot⟩
  unfold rootBlock
  rw [hopen, ok_bind, hfirst, ok_bind]
  simp only [if_neg hbrace]

/-- A schema block is read up to the second time that it names the query root. -/
theorem definition_of_repeated_operation {root second : String} {more : List String}
    (h : Reads (Clause.block root (second :: more)).lexemes s r)
    (hp : (Clause.block root (second :: more)).Permitted) : definition source s =
      .error ⟨.operationTwice "query", some (locate source (s.drop 5).position)⟩ := by
  have hsplit : (Clause.block root (second :: more)).lexemes = [.name "schema"] ++
      ((.punct .braceL :: Clause.operation root) ++ ([.name "query"] ++ (.punct .colon ::
        .name second :: (more.flatMap Clause.operation ++ [.punct .braceR])))) := by
    simp [Clause.lexemes, Clause.operation]
  rw [hsplit] at h
  obtain ⟨m, hkeyword, h⟩ := reads_append.1 h
  obtain ⟨k, hfirst, h⟩ := reads_append.1 h
  obtain ⟨k', hsecond, -⟩ := reads_append.1 h
  have hbrace : k.head? ≠ some (.punct .braceR) := by rw [hsecond.head?]; simp
  rw [definition_of_schema hkeyword, rootBlock_of_operation hfirst (hp root (by simp)) hbrace,
    operation_of_repeated hsecond, ← hfirst.drop, ← hkeyword.drop, drop_drop]
  rfl

/-- A clause is a definition and is read as such, or it has a name twice. -/
theorem definition_of_clause {x : Clause} (source : String) (h : Reads x.lexemes s r)
    (hp : x.Permitted) :
    (∃ y : Def, y.clause = x ∧ y.Permitted ∧ DistinctFields y ∧
      definition source s = .ok (y.definition source s, r)) ∨
    ∃ e, definition source s = .error e ∧ e.kind = .duplicate := by
  cases x with
  | type t =>
    by_cases hd : (t.fields.map FieldDef.name).Nodup
    · exact .inl ⟨.type t, rfl, hp, hd, definition_of_reads (x := .type t) source h hp hd⟩
    · obtain ⟨before, f, after, ht, hnodup, hf⟩ := exists_repeated hd
      exact .inr ⟨_, definition_of_repeated_field h hp ht hnodup hf, rfl⟩
  | block root more =>
    cases more with
    | nil =>
      have hroot : ¬ IsReserved root := hp root (by simp)
      exact .inl ⟨.schema root, rfl, hroot, trivial,
        definition_of_reads (x := .schema root) source h hroot trivial⟩
    | cons second more => exact .inr ⟨_, definition_of_repeated_operation h hp, rfl⟩

/-! ## Whole sources -/

theorem ofStream_of_isComplete (h : s.isComplete = true) :
    ofStream source s = definitions source s := by
  cases s with
  | stop p => rfl
  | fault why p => cases h
  | next t rest => rfl

/-- The definitions of a stream that begins with a document. -/
theorem definitions_append {d : Grammar.Document} (h : Reads d.lexemes s r) (hd : d.Readable) :
    definitions source s = (d.definitions source s ++ (definitions source r).1,
      (definitions source r).2) := by
  induction d generalizing s with
  | nil => rw [show s = r from h]; rfl
  | cons x d ih =>
    obtain ⟨m, hx, hm⟩ := reads_append.1 h
    obtain ⟨⟨hp, hdis⟩, hrest⟩ := List.forall_mem_cons.1 hd
    have hstop : s.isStop = false := isStop_of_reads hx x.lexemes_ne_nil
    rw [definitions_of_ok hstop (definition_of_reads source hx hp hdis), ih hm hrest,
      Grammar.Document.definitions, hx.drop]
    rfl

/-- Where only names can be wrong, only double names are. -/
theorem kind_of_draft {d : Draft} {q : Position} {e : SchemaError}
    (h : Reads d.lexemes s (.stop q)) (hd : d.Permitted)
    (he : (definitions source s).2 = .failed e) : e.kind = .duplicate := by
  induction d generalizing s with
  | nil =>
    rw [show s = .stop q from h, definitions] at he
    cases he
  | cons x d ih =>
    obtain ⟨m, hx, hm⟩ := reads_append.1 h
    obtain ⟨hpx, hpd⟩ := List.forall_mem_cons.1 hd
    have hstop : s.isStop = false := isStop_of_reads hx x.lexemes_ne_nil
    rcases definition_of_clause source hx hpx with ⟨y, -, -, -, hy⟩ | ⟨e', he', hkind⟩
    · rw [definitions_of_ok hstop hy] at he
      exact ih hm hpd he
    · rw [definitions_of_error hstop he'] at he
      cases he
      exact hkind

/-- A stream begins with the document of its definitions, and what follows is its end or cannot be
read as a definition. -/
theorem exists_document_of_definitions (source : String) (s : Stream) :
    ∃ (d : Grammar.Document) (r : Stream), Reads d.lexemes s r ∧ d.Readable ∧
      (definitions source s).1 = d.definitions source s ∧
      ((∃ p, r = .stop p ∧ (definitions source s).2 = .complete p) ∨
        r.isStop = false ∧
          ∃ e, definition source r = .error e ∧ (definitions source s).2 = .failed e) := by
  fun_induction definitions source s with
  | case1 p =>
    exact ⟨[], .stop p, rfl, by simp [Grammar.Document.Readable], rfl, .inl ⟨p, rfl, rfl⟩⟩
  | case2 s e hs he =>
    refine ⟨[], s, rfl, by simp [Grammar.Document.Readable], rfl, .inr ⟨?_, e, he, rfl⟩⟩
    cases s with
    | stop p => exact (hs p rfl).elim
    | fault why p => rfl
    | next t rest => rfl
  | case3 s x rest ds ending hrest hs hx ih =>
    obtain ⟨d, r, hd, hread, hds, hend⟩ := ih
    obtain ⟨y, hy, rfl, hp⟩ := definition_ok hx
    rw [hrest] at hds hend
    refine ⟨y :: d, r, hy.append hd, List.forall_mem_cons.2 ⟨hp, hread⟩, ?_, hend⟩
    rw [Grammar.Document.definitions, hy.drop, ← hds]

end Document

end TypedQuery
