import TypedQuery.Schema.Collector

/-!
# The grammar of schema documents

The derivations of the schema language as trees, one node for each use of a production:

    document    := definition*
    definition  := description? type_def | schema_def
    schema_def  := "schema" "{" "query" ":" Name "}"
    type_def    := "type" Name "{" field_def+ "}"
    field_def   := description? Name ":" type_ref
    type_ref    := (Name | "[" type_ref "]") "!"?
    description := String | BlockString

`lexemes` is the sentence that a tree derives. Keywords are plain names, so `type`, `schema` and
`query` may name types and fields too.

* `Document.lexemes_injective`: a sentence has one derivation.
* `Document.Admissible`: what a document must satisfy beyond the grammar.
* `Document.schema`: the schema that a document stands for, with the places of its tokens.
-/

namespace TypedQuery

namespace Grammar

/-! ## Derivations -/

/-- The text before a definition, in one of the two string forms. -/
inductive Description where
  | string (value : String)
  | block (value : String)
  deriving DecidableEq

/-- A type reference; `bang` tells that `!` follows. -/
inductive Reference where
  | name (text : String) (bang : Bool)
  | list (of : Reference) (bang : Bool)
  deriving DecidableEq

/-- A field of a type definition. -/
structure FieldDef where
  description : Option Description
  name : String
  type : Reference
  deriving DecidableEq

/-- A type definition. It has at least one field. -/
structure TypeDef where
  description : Option Description
  name : String
  first : FieldDef
  more : List FieldDef
  deriving DecidableEq

/-- A definition: an object type, or the block that names the query root. -/
inductive Def where
  | type (t : TypeDef)
  | schema (root : String)
  deriving DecidableEq

/-- The definitions of a source. -/
abbrev Document := List Def

/-! ## Sentences -/

namespace Description

/-- The token of a description. -/
def lexeme : Description → Lexeme
  | .string v => .string v
  | .block v => .block v

/-- The text that a description stands for. -/
def value : Description → String
  | .string v => v
  | .block v => v

/-- The tokens of an optional description. -/
def lexemes (d : Option Description) : List Lexeme := d.toList.map lexeme

end Description

namespace Reference

/-- The `!` of a reference that has one. -/
def bangs (bang : Bool) : List Lexeme := if bang then [.punct .bang] else []

/-- The sentence of a reference. -/
def lexemes : Reference → List Lexeme
  | .name n b => .name n :: bangs b
  | .list r b => .punct .bracketL :: r.lexemes ++ .punct .bracketR :: bangs b

/-- Whether the reference ends in `!`. -/
def bang : Reference → Bool
  | .name _ b => b
  | .list _ b => b

/-- The type reference that a derivation stands for: brackets are lists, `!` is never null. -/
def ref : Reference → TypeRef
  | .name n b => if b then .nonNull (.named n) else .named n
  | .list r b => if b then .nonNull (.list r.ref) else .list r.ref

/-- The name inside the brackets. -/
def target : Reference → String
  | .name n _ => n
  | .list r _ => r.target

@[simp] theorem target_ref (r : Reference) : r.ref.target = r.target := by
  induction r with
  | name n b => cases b <;> rfl
  | list r b ih => cases b <;> simp [ref, target, TypeRef.target, ih]

end Reference

/-- The sentence of a field. -/
def FieldDef.lexemes (f : FieldDef) : List Lexeme :=
  Description.lexemes f.description ++ .name f.name :: .punct .colon :: f.type.lexemes

namespace TypeDef

/-- The fields, in order. -/
def fields (t : TypeDef) : List FieldDef := t.first :: t.more

/-- The sentence of a type definition. -/
def lexemes (t : TypeDef) : List Lexeme :=
  Description.lexemes t.description ++ .name "type" :: .name t.name :: .punct .braceL ::
    (t.fields.flatMap FieldDef.lexemes ++ [.punct .braceR])

end TypeDef

/-- The sentence of a definition. -/
def Def.lexemes : Def → List Lexeme
  | .type t => t.lexemes
  | .schema root =>
    [.name "schema", .punct .braceL, .name "query", .punct .colon, .name root, .punct .braceR]

/-- The sentence of a document. -/
def Document.lexemes (d : Document) : List Lexeme := d.flatMap Def.lexemes

/-! ## A sentence has one derivation -/

/-- Whether a description may begin with the lexeme. -/
def startsText : Option Lexeme → Bool
  | some (.string _) => true
  | some (.block _) => true
  | _ => false

theorem Description.lexemes_append_inj {d e : Option Description} {xs ys : List Lexeme}
    (h : lexemes d ++ xs = lexemes e ++ ys) (hx : startsText xs.head? = false)
    (hy : startsText ys.head? = false) : d = e ∧ xs = ys := by
  rcases d with _ | d <;> rcases e with _ | e
  · exact ⟨rfl, h⟩
  · cases e <;> simp only [lexemes, Option.toList, List.map_nil, List.nil_append] at h <;>
      subst h <;> simp [lexeme, startsText] at hx
  · cases d <;> simp only [lexemes, Option.toList, List.map_nil, List.nil_append] at h <;>
      subst h <;> simp [lexeme, startsText] at hy
  · cases d <;> cases e <;> simp_all [lexemes, lexeme]

theorem Reference.bangs_append_inj {a b : Bool} {xs ys : List Lexeme}
    (h : bangs a ++ xs = bangs b ++ ys) (hx : xs.head? ≠ some (.punct .bang))
    (hy : ys.head? ≠ some (.punct .bang)) : a = b ∧ xs = ys := by
  cases a <;> cases b <;> simp_all [bangs]
  all_goals subst_vars; simp_all

theorem Reference.lexemes_append_inj {r q : Reference} {xs ys : List Lexeme}
    (h : r.lexemes ++ xs = q.lexemes ++ ys) (hx : xs.head? ≠ some (.punct .bang))
    (hy : ys.head? ≠ some (.punct .bang)) : r = q ∧ xs = ys := by
  induction r generalizing q xs ys with
  | name n a =>
    cases q with
    | name m b =>
      simp only [lexemes, List.cons_append, List.cons.injEq, Lexeme.name.injEq] at h
      obtain ⟨rfl, rfl⟩ := bangs_append_inj h.2 hx hy
      exact ⟨by rw [h.1], rfl⟩
    | list q b => simp [lexemes] at h
  | list r a ih =>
    cases q with
    | name m b => simp [lexemes] at h
    | list q b =>
      simp only [lexemes, List.cons_append, List.append_assoc, List.cons.injEq, true_and] at h
      -- What follows the inner reference is its bracket on both sides, never a `!`.
      obtain ⟨rfl, hr⟩ := ih h (by simp) (by simp)
      simp only [List.cons.injEq, true_and] at hr
      obtain ⟨rfl, rfl⟩ := bangs_append_inj hr hx hy
      exact ⟨rfl, rfl⟩

theorem FieldDef.lexemes_append_inj {f g : FieldDef} {xs ys : List Lexeme}
    (h : f.lexemes ++ xs = g.lexemes ++ ys) (hx : xs.head? ≠ some (.punct .bang))
    (hy : ys.head? ≠ some (.punct .bang)) : f = g ∧ xs = ys := by
  obtain ⟨d, n, t⟩ := f
  obtain ⟨e, m, u⟩ := g
  simp only [lexemes, List.append_assoc, List.cons_append] at h
  obtain ⟨rfl, hn⟩ := Description.lexemes_append_inj h rfl rfl
  simp only [List.cons.injEq, Lexeme.name.injEq, true_and] at hn
  obtain ⟨rfl, ht⟩ := hn
  obtain ⟨rfl, rfl⟩ := Reference.lexemes_append_inj ht hx hy
  exact ⟨rfl, rfl⟩

/-- The first token of a field is a string or a name. -/
theorem FieldDef.head?_lexemes (f : FieldDef) (xs : List Lexeme) :
    startsText (f.lexemes ++ xs).head? = true ∨ ∃ n, (f.lexemes ++ xs).head? = some (.name n) := by
  obtain ⟨_ | d, n, t⟩ := f
  · exact .inr ⟨n, rfl⟩
  · cases d <;> exact .inl rfl

/-- What follows a field in a type definition: another field or the closing brace, so no token that
could continue the field. -/
theorem FieldDef.head?_rest (fs : List FieldDef) (xs : List Lexeme) (p : Punct)
    (hp : p ≠ .braceR) :
    (fs.flatMap FieldDef.lexemes ++ .punct .braceR :: xs).head? ≠ some (.punct p) := by
  cases fs with
  | nil => simpa using Ne.symm hp
  | cons f fs =>
    rw [List.flatMap_cons, List.append_assoc]
    intro h
    rcases f.head?_lexemes (fs.flatMap FieldDef.lexemes ++ .punct .braceR :: xs) with h' | ⟨n, h'⟩
    · rw [h] at h'; cases h'
    · rw [h] at h'; cases h'

theorem fields_append_inj {fs gs : List FieldDef} {xs ys : List Lexeme}
    (h : fs.flatMap FieldDef.lexemes ++ .punct .braceR :: xs =
      gs.flatMap FieldDef.lexemes ++ .punct .braceR :: ys) : fs = gs ∧ xs = ys := by
  induction fs generalizing gs with
  | nil =>
    cases gs with
    | nil => simpa using h
    | cons g gs =>
      have hg := g.head?_lexemes (gs.flatMap FieldDef.lexemes ++ .punct .braceR :: ys)
      rw [← List.append_assoc, ← List.flatMap_cons, ← h] at hg
      rcases hg with hg | ⟨n, hg⟩ <;> cases hg
  | cons f fs ih =>
    cases gs with
    | nil =>
      have hf := f.head?_lexemes (fs.flatMap FieldDef.lexemes ++ .punct .braceR :: xs)
      rw [← List.append_assoc, ← List.flatMap_cons, h] at hf
      rcases hf with hf | ⟨n, hf⟩ <;> cases hf
    | cons g gs =>
      simp only [List.flatMap_cons, List.append_assoc] at h
      obtain ⟨rfl, hr⟩ := FieldDef.lexemes_append_inj h
        (FieldDef.head?_rest fs xs .bang (by decide)) (FieldDef.head?_rest gs ys .bang (by decide))
      obtain ⟨rfl, rfl⟩ := ih hr
      exact ⟨rfl, rfl⟩

theorem TypeDef.lexemes_append_inj {t u : TypeDef} {xs ys : List Lexeme}
    (h : t.lexemes ++ xs = u.lexemes ++ ys) : t = u ∧ xs = ys := by
  obtain ⟨d, n, f, fs⟩ := t
  obtain ⟨e, m, g, gs⟩ := u
  simp only [lexemes, List.append_assoc, List.cons_append, List.nil_append] at h
  obtain ⟨rfl, hn⟩ := Description.lexemes_append_inj h rfl rfl
  simp only [List.cons.injEq, Lexeme.name.injEq, true_and] at hn
  obtain ⟨rfl, hb⟩ := hn
  obtain ⟨hf, rfl⟩ := fields_append_inj hb
  simp only [fields, List.cons.injEq] at hf
  obtain ⟨rfl, rfl⟩ := hf
  exact ⟨rfl, rfl⟩

/-- A type definition and a schema block begin differently. -/
theorem TypeDef.lexemes_ne_schema (t : TypeDef) (root : String) (xs ys : List Lexeme) :
    t.lexemes ++ xs ≠ (Def.schema root).lexemes ++ ys := by
  obtain ⟨_ | d, n, f, fs⟩ := t
  · simp [lexemes, Description.lexemes, Def.lexemes]
  · cases d <;> simp [lexemes, Description.lexemes, Description.lexeme, Def.lexemes]

theorem Def.lexemes_append_inj {d e : Def} {xs ys : List Lexeme}
    (h : d.lexemes ++ xs = e.lexemes ++ ys) : d = e ∧ xs = ys := by
  cases d with
  | type t =>
    cases e with
    | type u =>
      obtain ⟨rfl, rfl⟩ := TypeDef.lexemes_append_inj h
      exact ⟨rfl, rfl⟩
    | schema root => exact absurd h (TypeDef.lexemes_ne_schema t root xs ys)
  | schema root =>
    cases e with
    | type u => exact absurd h.symm (TypeDef.lexemes_ne_schema u root ys xs)
    | schema r => simpa [lexemes] using h

theorem Def.lexemes_ne_nil (d : Def) : d.lexemes ≠ [] := by
  cases d <;> simp [lexemes, TypeDef.lexemes]

/-- The grammar is unambiguous: a sentence has one derivation. -/
theorem Document.lexemes_injective {d e : Document} (h : d.lexemes = e.lexemes) : d = e := by
  unfold lexemes at h
  induction d generalizing e with
  | nil =>
    cases e with
    | nil => rfl
    | cons y e => simp [Def.lexemes_ne_nil] at h
  | cons x d ih =>
    cases e with
    | nil => simp [Def.lexemes_ne_nil] at h
    | cons y e =>
      obtain ⟨rfl, hr⟩ := Def.lexemes_append_inj h
      rw [ih hr]

/-! ## What a document must satisfy -/

/-- Names that begin with two underscores are kept for introspection. -/
def IsReserved (name : String) : Prop := name.startsWith "__" = true

instance (name : String) : Decidable (IsReserved name) :=
  inferInstanceAs (Decidable (name.startsWith "__" = true))

/-- Neither the field nor its type has a reserved name. -/
def FieldDef.Permitted (f : FieldDef) : Prop := ¬ IsReserved f.name ∧ ¬ IsReserved f.type.target

/-- Neither the type nor any of its fields has a reserved name. -/
def TypeDef.Permitted (t : TypeDef) : Prop :=
  ¬ IsReserved t.name ∧ ∀ f ∈ t.fields, f.Permitted

/-- The definition uses no reserved name. -/
def Def.Permitted : Def → Prop
  | .type t => t.Permitted
  | .schema root => ¬ IsReserved root

namespace Def

/-- The type that a definition declares. -/
def type? : Def → Option TypeDef
  | .type t => some t
  | .schema _ => none

/-- The query root that a definition names. -/
def root? : Def → Option String
  | .type _ => none
  | .schema root => some root

end Def

namespace Document

/-- The type definitions, in order. -/
def types (d : Document) : List TypeDef := d.filterMap Def.type?

/-- The query roots that the schema blocks name, in order. -/
def roots (d : Document) : List String := d.filterMap Def.root?

/-- The names of the declared types, in order. -/
def typeNames (d : Document) : List String := d.types.map TypeDef.name

/-- What a document must satisfy beyond the grammar. -/
structure Admissible (d : Document) : Prop where
  permitted : ∀ x ∈ d, x.Permitted
  types_ne_nil : d.types ≠ []
  roots_length_le : d.roots.length ≤ 1
  typeNames_nodup : d.typeNames.Nodup
  not_scalar : ∀ n ∈ d.typeNames, Scalar.ofName? n = none
  fields_nodup : ∀ t ∈ d.types, (t.fields.map FieldDef.name).Nodup
  /-- Every reference is to a scalar or to a declared type. -/
  resolved : ∀ t ∈ d.types, ∀ f ∈ t.fields,
    (Scalar.ofName? f.type.target).isSome ∨ f.type.target ∈ d.typeNames
  roots_declared : ∀ r ∈ d.roots, r ∈ d.typeNames

end Document

end Grammar

/-! ## What a document stands for -/

/-- The object type that a definition declares. -/
def Definition.object? : Definition → Option ObjectType
  | .object t => some t
  | .root _ => none

/-- The query root that a definition declares. -/
def Definition.root? : Definition → Option RootDecl
  | .object _ => none
  | .root r => some r

namespace Stream

/-- The stream after its next `n` tokens. -/
def drop : Nat → Stream → Stream
  | 0, s => s
  | n + 1, s => drop n s.tail

/-- The lexemes of a stream. -/
def lexemes (s : Stream) : List Lexeme := s.tokens.map Token.lexeme

/-- Whether the text is read to its end without a fault. -/
def isComplete : Stream → Bool
  | .stop _ => true
  | .fault _ _ => false
  | .next _ rest => rest.isComplete

end Stream

namespace Grammar

variable (source : String)

/-- The field of a derivation whose tokens come first in `s`. It is placed at its name. -/
def FieldDef.field (f : FieldDef) (s : Stream) : Field where
  name := f.name
  type := f.type.ref
  description := f.description.map Description.value
  location :=
    some (Document.locate source (s.drop (Description.lexemes f.description).length).position)

/-- The fields of derivations whose tokens come first in `s`, one after the other. -/
def fieldsAt : List FieldDef → Stream → List Field
  | [], _ => []
  | f :: fs, s => f.field source s :: fieldsAt fs (s.drop f.lexemes.length)

theorem map_name_fieldsAt (fs : List FieldDef) (s : Stream) :
    (fieldsAt source fs s).map Field.name = fs.map FieldDef.name := by
  induction fs generalizing s with
  | nil => rfl
  | cons f fs ih => simp [fieldsAt, FieldDef.field, ih]

theorem map_target_fieldsAt (fs : List FieldDef) (s : Stream) :
    (fieldsAt source fs s).map (fun f => f.type.target) = fs.map (fun f => f.type.target) := by
  induction fs generalizing s with
  | nil => rfl
  | cons f fs ih => simp [fieldsAt, FieldDef.field, ih]

theorem mem_fieldsAt {fs : List FieldDef} {s : Stream} {f : Field}
    (h : f ∈ fieldsAt source fs s) : ∃ g ∈ fs, g.name = f.name ∧ g.type.ref = f.type := by
  induction fs generalizing s with
  | nil => cases h
  | cons g fs ih =>
    rcases List.mem_cons.1 h with rfl | h
    · exact ⟨g, by simp, rfl, rfl⟩
    · obtain ⟨g', hg', hname, htype⟩ := ih h
      exact ⟨g', List.mem_cons_of_mem _ hg', hname, htype⟩

/-- The object type of a derivation whose tokens come first in `s`. It is placed at the keyword. -/
def TypeDef.object (t : TypeDef) (s : Stream) : ObjectType :=
  let keyword := s.drop (Description.lexemes t.description).length
  { name := t.name
    fields := fieldsAt source t.fields (keyword.drop 3)
    description := t.description.map Description.value
    location := some (Document.locate source keyword.position) }

/-- The definition of a derivation whose tokens come first in `s`. -/
def Def.definition : Def → Stream → Definition
  | .type t, s => .object (t.object source s)
  | .schema root, s =>
    .root ⟨root, Document.locate source (s.drop 4).position, Document.locate source s.position⟩

namespace Document

/-- The definitions of a document whose tokens come first in `s`. -/
def definitions : Document → Stream → List Definition
  | [], _ => []
  | x :: d, s => x.definition source s :: definitions d (s.drop x.lexemes.length)

/-- The object types of a document, in order. -/
def objects (d : Document) (s : Stream) : List ObjectType :=
  (definitions source d s).filterMap Definition.object?

/-- The query root: the declared one, else the type `Query`, else the first type. -/
def queryType (d : Document) : String :=
  match d.roots with
  | root :: _ => root
  | [] => if "Query" ∈ d.typeNames then "Query" else d.typeNames.headD ""

/-- The schema of a document whose tokens are those of `s`. -/
def schema (d : Document) (s : Stream) : Schema :=
  ⟨(d.objects source s).map fun t => (t.name, t), d.queryType⟩

end Document

end Grammar

end TypedQuery
