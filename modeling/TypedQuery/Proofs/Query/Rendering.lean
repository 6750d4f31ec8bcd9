import TypedQuery.Query.Request
import TypedQuery.Proofs.Client.Reaching

/-!
# The text of a query

A query document has the form `query Name? { selection+ }`, where a selection is a name that may
carry selections between braces. What a text of this form says is its `Operation`. It leaves out the
types of the selections, which the schema gives back.

* `Operation.Derives`: the operation of a text, by the grammar.
* `Operation.lexemes_injective`: a text has at most one operation.
* `Lexes`: how a text is cut into lexemes, with one lemma for each piece that a document is made of.
* `Schema.Offers`, `Schema.typed?`: selections on a type, and their types along the schema.
* `Request.document_reads_back`: the document of a request derives from its operation name and its
  selection, and from nothing else.
-/

namespace TypedQuery

/-! ## The grammar -/

/-- Selections as a text shows them: names, some with selections between braces. -/
inductive Outline where
  | nil
  | leaf (name : String) (rest : Outline)
  | node (name : String) (sub rest : Outline)
  deriving DecidableEq

namespace Outline

/-- The lexemes of selections. -/
def lexemes : Outline → List Lexeme
  | .nil => []
  | .leaf name rest => .name name :: rest.lexemes
  | .node name sub rest =>
    .name name :: .punct .braceL :: (sub.lexemes ++ .punct .braceR :: rest.lexemes)

/-- There is a selection between any two braces. -/
def Filled : Outline → Prop
  | .nil => True
  | .leaf _ rest => rest.Filled
  | .node _ sub rest => sub ≠ .nil ∧ sub.Filled ∧ rest.Filled

/-- What follows a selection up to its closing brace does not open another one. -/
theorem lexemes_append_ne {o : Outline} {r r' : List Lexeme} :
    o.lexemes ++ .punct .braceR :: r ≠ .punct .braceL :: r' := by
  cases o <;> simp [lexemes]

/-- Selections up to a closing brace can be read in one way only. -/
theorem lexemes_append_inj {a b : Outline} {r r' : List Lexeme}
    (h : a.lexemes ++ .punct .braceR :: r = b.lexemes ++ .punct .braceR :: r') :
    a = b ∧ r = r' := by
  induction a generalizing b r r' with
  | nil =>
    cases b with
    | nil => simpa [lexemes] using h
    | leaf name rest => simp [lexemes] at h
    | node name sub rest => simp [lexemes] at h
  | leaf name rest ih =>
    cases b with
    | nil => simp [lexemes] at h
    | leaf name' rest' =>
      obtain ⟨hname, hrest⟩ := List.cons.inj h
      obtain ⟨rfl, rfl⟩ := ih hrest
      cases hname
      exact ⟨rfl, rfl⟩
    | node name' sub' rest' => exact absurd (List.cons.inj h).2 lexemes_append_ne
  | node name sub rest ihsub ih =>
    cases b with
    | nil => simp [lexemes] at h
    | leaf name' rest' => exact absurd (List.cons.inj h).2.symm lexemes_append_ne
    | node name' sub' rest' =>
      simp only [lexemes, List.cons_append, List.append_assoc, List.cons.injEq, true_and] at h
      obtain ⟨hname, htail⟩ := h
      obtain ⟨rfl, hrest⟩ := ihsub htail
      obtain ⟨rfl, rfl⟩ := ih hrest
      cases hname
      exact ⟨rfl, rfl⟩

end Outline

/-- What a query document says: perhaps a name, and its selections. -/
structure Operation where
  name : Option String
  fields : Outline
  deriving DecidableEq

namespace Operation

/-- The lexemes of a query document. -/
def lexemes (o : Operation) : List Lexeme :=
  .name "query" :: (o.name.toList.map Lexeme.name ++
    .punct .braceL :: (o.fields.lexemes ++ [.punct .braceR]))

/-- `text` is a query document, and `o` is what it says. -/
structure Derives (o : Operation) (text : String) : Prop where
  complete : (Stream.ofText text).isComplete = true
  lexemes_eq : (Stream.ofText text).lexemes = o.lexemes
  fields_ne_nil : o.fields ≠ .nil
  filled : o.fields.Filled

theorem lexemes_injective {a b : Operation} (h : a.lexemes = b.lexemes) : a = b := by
  obtain ⟨name, fields⟩ := a
  obtain ⟨name', fields'⟩ := b
  have htail := (List.cons.inj h).2
  cases name with
  | none =>
    cases name' with
    | none =>
      obtain rfl : fields = fields' := (Outline.lexemes_append_inj (List.cons.inj htail).2).1
      rfl
    | some n' => cases (List.cons.inj htail).1
  | some n =>
    cases name' with
    | none => cases (List.cons.inj htail).1
    | some n' =>
      obtain ⟨hn, hfields⟩ := List.cons.inj htail
      obtain rfl : fields = fields' := (Outline.lexemes_append_inj (List.cons.inj hfields).2).1
      cases hn
      rfl

theorem Derives.unique {a b : Operation} {text : String} (ha : a.Derives text)
    (hb : b.Derives text) : a = b :=
  lexemes_injective (ha.lexemes_eq.symm.trans hb.lexemes_eq)

end Operation

/-! ## Cutting a text into lexemes -/

/-- Wherever the text stands, it is cut into the given lexemes and nothing is left of it. -/
def Lexes (cs : List Char) (ls : List Lexeme) : Prop :=
  ∀ p, (Stream.scan p cs).isComplete = true ∧ (Stream.scan p cs).lexemes = ls

namespace Lexes

variable {cs : List Char} {ls : List Lexeme}

theorem nil : Lexes [] [] := fun p => by
  rw [Stream.scan]
  exact ⟨rfl, rfl⟩

theorem blank (h : Lexes cs ls) : Lexes (' ' :: cs) ls := fun p => by
  rw [Stream.scan]
  exact h _

theorem newLine (h : Lexes cs ls) : Lexes ('\n' :: cs) ls := fun p => by
  rw [Stream.scan]
  exact h _

theorem blanks (n : Nat) (h : Lexes cs ls) : Lexes (List.replicate n ' ' ++ cs) ls := by
  induction n with
  | zero => exact h
  | succ n ih => exact ih.blank

theorem braceL (h : Lexes cs ls) : Lexes ('\x7b' :: cs) (.punct .braceL :: ls) := fun p => by
  rw [Stream.scan]
  exact ⟨(h _).1, congrArg _ (h _).2⟩

theorem braceR (h : Lexes cs ls) : Lexes ('\x7d' :: cs) (.punct .braceR :: ls) := fun p => by
  rw [Stream.scan]
  exact ⟨(h _).1, congrArg _ (h _).2⟩

end Lexes

/-- A character that starts a name starts nothing else. -/
theorem Lexeme.read_of_isNameStart {c : Char} (h : isNameStart c = true) (cs : List Char) :
    (Stream.isBlank c || c == '\n' || c == '\r' || c == '#') = false ∧
    read c cs = .ok ⟨.name (String.ofList (c :: cs.takeWhile isNameChar)),
      (cs.takeWhile isNameChar).length⟩ := by
  have hascii : ∀ d : Char, d.toNat < 128 → isNameStart d = true →
      (Stream.isBlank d || d == '\n' || d == '\r' || d == '#') = false ∧
      (Punct.ofChar? d).isNone ∧ (d == '"' || isDigit d || d == '-') = false :=
    forall_ascii (by decide)
  obtain ⟨hblank, hpunct, hother⟩ :=
    hascii c (toNat_lt_of_isNameChar (by rw [isNameChar, h]; rfl)) h
  simp only [Bool.or_eq_false_iff] at hother
  refine ⟨hblank, ?_⟩
  simp only [read, Option.isNone_iff_eq_none.1 hpunct, hother, h]
  rfl

/-- A name is read together with the characters of names that follow it. -/
theorem Stream.scan_name {name : String} (hn : IsName name) (p : Position) (cs : List Char) :
    scan p (name.toList ++ cs) =
      .next ⟨.name (.ofList (name.toList ++ cs.takeWhile Lexeme.isNameChar)), p⟩
        (scan (p.after (name.toList ++ cs.takeWhile Lexeme.isNameChar))
          (cs.dropWhile Lexeme.isNameChar)) := by
  obtain ⟨c, rest, hname, hc, hrest⟩ := hn
  have htake : (rest ++ cs).takeWhile Lexeme.isNameChar =
      rest ++ cs.takeWhile Lexeme.isNameChar := List.takeWhile_append_of_pos hrest
  obtain ⟨hblank, hread⟩ := Lexeme.read_of_isNameStart hc (rest ++ cs)
  simp only [Bool.or_eq_false_iff] at hblank
  have hword : rest ++ cs =
      rest ++ cs.takeWhile Lexeme.isNameChar ++ cs.dropWhile Lexeme.isNameChar := by
    rw [List.append_assoc, List.takeWhile_append_dropWhile]
  rw [htake] at hread
  rw [hname, List.cons_append, Stream.scan]
  simp only [hblank, hread, Bool.false_eq_true, if_false]
  rw [hword, List.take_left, List.drop_left]
  rfl

/-- A name that ends where the text goes on. -/
theorem Stream.scan_whole_name {name : String} (hn : IsName name) (p : Position) {cs : List Char}
    (hcs : ∀ c ∈ cs.head?, Lexeme.isNameChar c = false) :
    scan p (name.toList ++ cs) = .next ⟨.name name, p⟩ (scan (p.after name.toList) cs) := by
  have hword : cs.takeWhile Lexeme.isNameChar = [] ∧ cs.dropWhile Lexeme.isNameChar = cs := by
    cases cs with
    | nil => exact ⟨rfl, rfl⟩
    | cons d cs => simp [hcs d rfl]
  rw [scan_name hn, hword.1, hword.2, List.append_nil, String.ofList_toList]

theorem Lexes.name {name : String} (hn : IsName name) {cs : List Char} {ls : List Lexeme}
    (hcs : ∀ c ∈ cs.head?, Lexeme.isNameChar c = false) (h : Lexes cs ls) :
    Lexes (name.toList ++ cs) (.name name :: ls) := fun p => by
  rw [Stream.scan_whole_name hn p hcs]
  exact ⟨(h _).1, congrArg _ (h _).2⟩

/-! ## Rendered selections -/

/-- The selection without its types. -/
def Selection.outline : Selection → Outline
  | .nil => .nil
  | .scalar name rest => .leaf name rest.outline
  | .object name _ sub rest => .node name sub.outline rest.outline

/-- All names of the selection, at every level, are names of the language. -/
def Selection.Named : Selection → Prop
  | .nil => True
  | .scalar name rest => IsName name ∧ rest.Named
  | .object name _ sub rest => IsName name ∧ sub.Named ∧ rest.Named

/-- Lines, each with its end. -/
def lineText (lines : List String) : List Char := lines.flatMap fun l => l.toList ++ ['\n']

theorem toList_intercalate_newLine {lines : List String} (h : lines ≠ []) :
    ("\n".intercalate lines).toList ++ ['\n'] = lineText lines := by
  induction lines with
  | nil => exact absurd rfl h
  | cons l lines ih =>
    cases lines with
    | nil => simp [lineText]
    | cons l' lines =>
      rw [String.intercalate_cons_cons, String.toList_append, String.toList_append,
        List.append_assoc, ih (List.cons_ne_nil _ _)]
      simp [lineText]

/-- The lines of a selection are cut into the lexemes of its outline. -/
theorem Lexes.lines {sel : Selection} (hs : sel.Named) (depth : Int) {cs : List Char}
    {ls : List Lexeme} (h : Lexes cs ls) :
    Lexes (lineText (sel.lines depth) ++ cs) (sel.outline.lexemes ++ ls) := by
  induction sel generalizing depth cs ls with
  | nil => exact h
  | scalar name rest ih =>
    have hrest := (ih hs.2 depth h).newLine
    have hline := (Lexes.name hs.1 (by simp; decide) hrest).blanks (2 * depth.toNat)
    simpa [lineText, Selection.lines, Selection.indentation, Selection.outline, Outline.lexemes]
      using hline
  | object name type sub rest ihsub ih =>
    have hclose := ((ih hs.2.2 depth h).newLine.braceR).blanks (2 * depth.toNat)
    have hsub := (ihsub hs.2.1 (depth + 1) hclose).newLine.braceL.blank
    have hline := (Lexes.name hs.1 (by simp; decide) hsub).blanks (2 * depth.toNat)
    simpa [lineText, Selection.lines, Selection.indentation, Selection.outline, Outline.lexemes]
      using hline

theorem Selection.lines_ne_nil {sel : Selection} (h : sel ≠ .nil) (depth : Int) :
    sel.lines depth ≠ [] := by
  cases sel with
  | nil => exact absurd rfl h
  | scalar name rest => exact List.cons_ne_nil _ _
  | object name type sub rest => exact List.cons_ne_nil _ _

theorem Selection.outline_ne_nil {sel : Selection} (h : sel ≠ .nil) : sel.outline ≠ .nil := by
  cases sel with
  | nil => exact absurd rfl h
  | scalar name rest => exact nofun
  | object name type sub rest => exact nofun

/-! ## Types along the schema -/

namespace Schema

variable {s : Schema} {t : ObjectType} {sel : Selection}

/-- The fields of `sel` are fields of `t`, in any order. A scalar field stands alone, and an object
field carries a selection that is not empty and that its own type offers in turn. -/
inductive Offers (s : Schema) : ObjectType → Selection → Prop where
  | nil {t : ObjectType} : Offers s t .nil
  | scalar {t : ObjectType} {f : Field} {rest : Selection} (field : f ∈ t.fields)
    (kind : f.type.scalar?.isSome) (hrest : Offers s t rest) : Offers s t (.scalar f.name rest)
  | object {t u : ObjectType} {f : Field} {sub rest : Selection} (field : f ∈ t.fields)
    (kind : f.type.scalar? = none) (target : u ∈ s.objects) (name : f.type.target = u.name)
    (filled : sub ≠ .nil) (hsub : Offers s u sub) (hrest : Offers s t rest) :
    Offers s t (.object f.name u.name sub rest)

/-- The selection on a type that an outline stands for. The type of the selection on an object field
is the one that the schema gives to the field. -/
def typed? (s : Schema) (t : ObjectType) : Outline → Option Selection
  | .nil => some .nil
  | .leaf name rest => do
    let rest ← s.typed? t rest
    return .scalar name rest
  | .node name sub rest => do
    let f ← t.field? name
    let u ← s.find? f.type.target
    let sub ← s.typed? u sub
    let rest ← s.typed? t rest
    return .object name u.name sub rest

theorem WellFormed.find?_eq (hw : s.WellFormed) (ht : t ∈ s.objects) :
    s.find? t.name = some t := by
  obtain ⟨⟨key, u⟩, he, rfl⟩ := List.mem_map.1 ht
  obtain rfl : key = u.name := hw.key_eq_name _ he
  exact Table.get?_eq_some hw.keys_nodup he

theorem WellFormed.field?_eq (hw : s.WellFormed) (ht : t ∈ s.objects) {f : Field}
    (hf : f ∈ t.fields) : t.field? f.name = some f := by
  have hsome : (t.field? f.name).isSome := List.find?_isSome.2 ⟨f, hf, by simp⟩
  obtain ⟨g, hg⟩ := Option.isSome_iff_exists.1 hsome
  have hname : g.name = f.name := by simpa using List.find?_some hg
  rw [hg, List.inj_on_of_nodup_map (hw.types_wellFormed t ht).fields_nodup
    (List.mem_of_find?_eq_some hg) hf hname]

/-- A selection that fits a type is one that the type offers. -/
theorem Selects.offers (hw : s.WellFormed) (ht : t ∈ s.objects) (h : s.Selects t sel) :
    s.Offers t sel := by
  induction sel generalizing t with
  | nil => exact .nil
  | scalar name rest ih =>
    have hcons : s.Selects t (.cons ⟨name, none⟩ rest) := h
    have hx : ⟨name, none⟩ ∈ (Selection.scalar name rest).toList := List.mem_cons_self ..
    obtain ⟨f, hf, rfl⟩ := h.exists_field hx
    exact .scalar hf ((h.sub_eq_none_iff hx hf rfl).1 rfl) (ih ht hcons.of_cons)
  | object name type sub rest ihsub ih =>
    have hcons : s.Selects t (.cons ⟨name, some ⟨type, sub⟩⟩ rest) := h
    have hx : ⟨name, some ⟨type, sub⟩⟩ ∈ (Selection.object name type sub rest).toList :=
      List.mem_cons_self ..
    obtain ⟨f, hf, rfl⟩ := h.exists_field hx
    obtain ⟨htarget, hne⟩ := h.target_eq hx rfl hf rfl
    have hnone : f.type.scalar? = none := by
      rw [← Option.not_isSome_iff_eq_none, ← h.sub_eq_none_iff hx hf rfl]
      exact nofun
    obtain ⟨u, hu, huname⟩ := hw.exists_object ht hf hnone
    obtain rfl : u.name = type := huname.trans htarget.symm
    exact .object hf hnone hu huname.symm hne (ihsub hu (h.of_sub hx rfl hu rfl))
      (ih ht hcons.of_cons)

namespace Offers

theorem named (hw : s.WellFormed) (ht : t ∈ s.objects) (h : s.Offers t sel) : sel.Named := by
  induction h with
  | nil => trivial
  | scalar field _ _ ih => exact ⟨(hw.types_wellFormed _ ht).fields_isName _ field, ih ht⟩
  | object field _ target _ _ _ _ ihsub ih =>
    exact ⟨(hw.types_wellFormed _ ht).fields_isName _ field, ihsub target, ih ht⟩

theorem filled_outline (h : s.Offers t sel) : sel.outline.Filled := by
  induction h with
  | nil => trivial
  | scalar _ _ _ ih => exact ih
  | object _ _ _ _ filled _ _ ihsub ih => exact ⟨Selection.outline_ne_nil filled, ihsub, ih⟩

/-- The schema gives back the types of a selection that it offers. -/
theorem typed?_outline (hw : s.WellFormed) (ht : t ∈ s.objects) (h : s.Offers t sel) :
    s.typed? t sel.outline = some sel := by
  induction h with
  | nil => rfl
  | scalar _ _ _ ih =>
    rw [Selection.outline, typed?, ih ht]
    rfl
  | object field _ target name _ _ _ ihsub ih =>
    rw [Selection.outline, typed?, hw.field?_eq ht field, Option.bind_eq_bind, Option.bind_some,
      name, hw.find?_eq target, Option.bind_eq_bind, Option.bind_some, ihsub target, ih ht]
    rfl

end Offers

end Schema

/-! ## Requests -/

/-- The selection on the root type of a schema that an operation stands for. -/
def Operation.selection? (o : Operation) (s : Schema) : Option SelectionSet := do
  let root ← s.root?
  let fields ← s.typed? root o.fields
  return ⟨root.name, fields⟩

/-- A query on the root type of a schema: a selection that the type offers and that is not empty,
and perhaps a name of the language for the operation. -/
structure Schema.Admits (s : Schema) (sel : SelectionSet) (name : Option String) : Prop where
  offers : ∃ t, s.root? = some t ∧ t.name = sel.type ∧ s.Offers t sel.fields
  fields_ne_nil : sel.fields ≠ .nil
  isName : ∀ n ∈ name, IsName n

/-- A well-typed selection on the root type makes a query, unless it is empty. -/
theorem Schema.WellTyped.admits {s : Schema} (hw : s.WellFormed) {sel : SelectionSet}
    (h : s.WellTyped sel) (htype : sel.type = s.queryType) (hne : sel.fields ≠ .nil)
    {name : Option String} (hname : ∀ n ∈ name, IsName n) : s.Admits sel name := by
  obtain ⟨t, ht, hsel, hfits⟩ := h.selects hw
  refine ⟨⟨t, ?_, hsel, hfits.offers hw ht⟩, hne, hname⟩
  rw [root?, ← htype, ← hsel, hw.find?_eq ht]

namespace Request

theorem toList_document {r : Request} (h : r.selection.fields ≠ .nil) :
    r.document.toList = (header r.operationName).toList ++
      ' ' :: '\x7b' :: '\n' :: (lineText (r.selection.fields.lines 1) ++ ['\x7d']) := by
  rw [← toList_intercalate_newLine (Selection.lines_ne_nil h 1)]
  simp [document, SelectionSet.render]

/-- What comes before the braces is cut into the keyword and the name, if there is one. -/
theorem lexes_header {name : Option String} (hname : ∀ n ∈ name, IsName n) {cs : List Char}
    {ls : List Lexeme} (h : Lexes cs ls) :
    Lexes ((header name).toList ++ ' ' :: cs) (.name "query" :: (name.toList.map .name ++ ls)) := by
  have hquery : IsName "query" :=
    ⟨'q', "uery".toList, rfl, by decide, List.all_eq_true.1 (by decide)⟩
  have hblank : ∀ d ∈ (' ' :: cs).head?, Lexeme.isNameChar d = false := by simp; decide
  cases name with
  | none => exact h.blank.name hquery hblank
  | some n =>
    have hn := hname n rfl
    have hfull : n.isEmpty = false := by
      obtain ⟨c, cs, htext, -⟩ := hn
      rw [Bool.eq_false_iff, Ne, String.isEmpty_iff]
      rintro rfl
      cases htext
    have htext := ((h.blank.name hn hblank).blank.name hquery) (by simp; decide)
    simpa [header, hfull] using htext

theorem derives_document (r : Request) (hne : r.selection.fields ≠ .nil)
    (hs : r.selection.fields.Named) (hfilled : r.selection.fields.outline.Filled)
    (hname : ∀ n ∈ r.operationName, IsName n) :
    Operation.Derives ⟨r.operationName, r.selection.fields.outline⟩ r.document := by
  have hbody := (Lexes.nil.braceR.lines hs 1).newLine.braceL
  have hlexes := lexes_header hname hbody Position.start
  rw [← toList_document hne] at hlexes
  exact ⟨hlexes.1, hlexes.2, Selection.outline_ne_nil hne, hfilled⟩

theorem ofSelection?_eq {sel : SelectionSet} (h : sel.fields ≠ .nil) (response : String)
    (name : Option String) : ofSelection? sel response name = some ⟨sel, response, name⟩ := by
  rw [ofSelection?, Selection.isEmpty_eq_false.2 h]
  rfl

end Request

/-- The document of a query that the schema admits derives from its name and its selection. -/
theorem Schema.Admits.derives {s : Schema} (hw : s.WellFormed) {sel : SelectionSet}
    {name : Option String} (h : s.Admits sel name) (response : String) :
    ∃ o : Operation, o.Derives (Request.document ⟨sel, response, name⟩) ∧ o.name = name ∧
      o.selection? s = some sel := by
  obtain ⟨t, hroot, htype, hsel⟩ := h.offers
  have ht : t ∈ s.objects := List.mem_map_of_mem (Table.mem_of_get? hroot)
  refine ⟨⟨name, sel.fields.outline⟩, ?_, rfl, ?_⟩
  · exact Request.derives_document ⟨sel, response, name⟩ h.fields_ne_nil (hsel.named hw ht)
      hsel.filled_outline h.isName
  · rw [Operation.selection?, hroot, Option.bind_eq_bind, Option.bind_some,
      hsel.typed?_outline hw ht, htype]
    rfl

/-- **A document loses nothing.** Take a schema that a collector has built and a query that it
admits. The document of the request is a sentence of the grammar, and what it says is the name of
the operation and, with the types along the schema, the selection. So another query that the schema
admits has the same document if and only if it has the same name and the same selection. -/
theorem Request.document_reads_back (calls : List Collector.Call) (s : Schema)
    (hs : s ∈ Collector.built {} calls) (sel : SelectionSet) (name : Option String)
    (h : s.Admits sel name) (response : String) :
    ∃ r, Request.ofSelection? sel response name = some r ∧
      (∃! o : Operation, o.Derives r.document) ∧
      (∀ o : Operation, o.Derives r.document → o.name = name ∧ o.selection? s = some sel) ∧
      ∀ sel' name' response' r', s.Admits sel' name' →
        Request.ofSelection? sel' response' name' = some r' →
        (r.document = r'.document ↔ name = name' ∧ sel = sel') := by
  have hw := Collector.wellFormed_of_mem_built hs
  obtain ⟨o, ho, hname, hsel⟩ := h.derives hw response
  refine ⟨_, ofSelection?_eq h.fields_ne_nil response name, ⟨o, ho, fun _ h' => h'.unique ho⟩,
    fun o' ho' => ho.unique ho' ▸ ⟨hname, hsel⟩, fun sel' name' response' r' h' hr' => ?_⟩
  rw [ofSelection?_eq h'.fields_ne_nil response' name', Option.some.injEq] at hr'
  subst hr'
  constructor
  · intro hdoc
    obtain ⟨o', ho', hname', hsel'⟩ := h'.derives hw response'
    obtain rfl := ho.unique (hdoc ▸ ho')
    exact ⟨hname.symm.trans hname', Option.some.inj (hsel.symm.trans hsel')⟩
  · rintro ⟨rfl, rfl⟩
    rfl

/-- A named query, two levels deep on a type that refers to itself, can be read back. -/
theorem Request.document_reads_back_nested :
    let text := "query Deep \x7b\n  n\n  q \x7b\n    n\n  \x7d\n\x7d"
    Schema.looped ∈ Collector.built {} Collector.loopedCalls ∧
      Schema.looped.Admits .looped (some "Deep") ∧
      ∃ o : Operation, o.Derives text ∧ o.name = some "Deep" ∧
        o.selection? .looped = some .looped := by
  intro text
  have hadmits : Schema.looped.Admits .looped (some "Deep") := by
    refine Schema.wellTyped_looped.admits
      (Collector.wellFormed_of_mem_built Collector.looped_mem_built) rfl nofun ?_
    rintro _ ⟨⟩
    exact ⟨'D', "eep".toList, rfl, by decide, List.all_eq_true.1 (by decide)⟩
  obtain ⟨r, hr, ⟨o, ho, -⟩, hback, -⟩ := Request.document_reads_back Collector.loopedCalls .looped
    Collector.looped_mem_built .looped (some "Deep") hadmits "QueryResponse"
  obtain rfl : _ = r := Option.some.inj hr
  have htext : Request.document ⟨.looped, "QueryResponse", some "Deep"⟩ = text := by
    decide +kernel
  exact ⟨Collector.looped_mem_built, hadmits, o, htext ▸ ho, hback o ho⟩

end TypedQuery
