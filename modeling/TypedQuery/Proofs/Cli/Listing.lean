import TypedQuery.Cli.Command
import TypedQuery.Proofs.Schema.Notation

/-!
# Types in listings and docstrings

The listing of a schema and the docstrings of its client give the type of each field in schema
notation. A notation stands for one reference, so both say what the types are.

* `Cli.schemaLines_inj`: the listing of a schema determines its fields and their types.
* `Client.docLine_inj`: the docstring of an accessor determines its field and the type.
* `TypeRef.notation_round_trips`: notations, token by token and in the texts that show them.
-/

namespace TypedQuery

/-- The types of a well-formed schema have notations. -/
theorem Schema.WellFormed.writable {s : Schema} (hw : s.WellFormed) {t : ObjectType}
    (ht : t ∈ s.objects) {f : Field} (hf : f ∈ t.fields) : f.type.Writable := by
  refine ⟨(hw.types_wellFormed t ht).proper f hf, Client.Plan.isName_target hw ht hf, ?_⟩
  rcases hw.resolved t ht f hf with hscalar | hmem
  · obtain ⟨k, hk⟩ := Option.isSome_iff_exists.1 hscalar
    rw [← Scalar.name_of_ofName? hk]
    cases k <;> decide +kernel
  · rw [← Client.Plan.map_name_objects hw.keyed] at hmem
    obtain ⟨u, hu, hname⟩ := List.mem_map.1 hmem
    rw [← hname]
    exact (hw.types_wellFormed u hu).not_reserved

/-- A name ends before a character that belongs to no name. -/
theorem IsName.append_inj {n n' : String} (hn : IsName n) (hn' : IsName n') {d : Char}
    (hd : Lexeme.isNameChar d = false) {cs cs' : List Char}
    (h : n.toList ++ d :: cs = n'.toList ++ d :: cs') : n = n' ∧ cs = cs' := by
  have hend : ∀ rest, ∀ c ∈ (d :: rest).head?, Lexeme.isNameChar c = false := by
    rintro rest c ⟨⟩
    exact hd
  obtain ⟨hname, hrest⟩ := append_inj_of_all (isWord_iff.1 hn.isWord) (isWord_iff.1 hn'.isWord)
    (hend _) (hend _) h
  exact ⟨String.toList_inj.1 hname, (List.cons.inj hrest).2⟩

/-! ## Lines of a listing -/

/-- What a listing says of a type: its name, and the names and types of its fields. -/
def ObjectType.listed (t : ObjectType) : String × List (String × TypeRef) :=
  (t.name, t.fields.map fun f => (f.name, f.type))

namespace Cli

/-- The line about a type. -/
def typeLine (s : Schema) (t : ObjectType) : String :=
  "type " ++ t.name ++ if t.name = s.queryType then " (root)" else ""

/-- The line about a field. -/
def fieldLine (f : Field) : String :=
  "  " ++ f.name ++ ": " ++ f.type.render ++
    if f.type.scalar?.isSome then "  [scalar]" else "  [object]"

/-- Whether a line is indented. -/
def isIndented (line : String) : Bool := line.toList.head? == some ' '

theorem typeLines_eq (s : Schema) (t : ObjectType) :
    typeLines s t = typeLine s t :: t.fields.map fieldLine := rfl

theorem toList_typeLine (s : Schema) (t : ObjectType) : ∃ cs,
    (typeLine s t).toList = "type ".toList ++ (t.name.toList ++ cs) ∧
      ∀ c ∈ cs.head?, Lexeme.isNameChar c = false := by
  by_cases hroot : t.name = s.queryType
  · refine ⟨' ' :: "(root)".toList, by simp [typeLine, hroot], ?_⟩
    rintro c ⟨⟩
    decide
  · exact ⟨[], by simp [typeLine, hroot], by simp⟩

theorem typeLine_inj {s s' : Schema} {t t' : ObjectType} (ht : IsName t.name) (ht' : IsName t'.name)
    (h : typeLine s t = typeLine s' t') : t.name = t'.name := by
  obtain ⟨cs, hcs, hend⟩ := toList_typeLine s t
  obtain ⟨cs', hcs', hend'⟩ := toList_typeLine s' t'
  rw [← String.toList_inj, hcs, hcs'] at h
  have hname := append_inj_of_all (isWord_iff.1 ht.isWord) (isWord_iff.1 ht'.isWord) hend hend'
    (List.append_cancel_left h)
  exact String.toList_inj.1 hname.1

/-- A reference may end before two blanks and a bracket. -/
theorem endsBefore_blanks (r : TypeRef) (p : Position) (cs : List Char) :
    r.EndsBefore p (' ' :: ' ' :: '[' :: cs) := by
  have hscan : Stream.scan p (' ' :: ' ' :: '[' :: cs) =
      .next ⟨.punct .bracketL, (p.right 1).right 1⟩
        (Stream.scan (((p.right 1).right 1).right 1) cs) := by
    rw [Stream.scan_blank, Stream.scan_blank, Stream.scan_punct rfl]
  refine ⟨?_, fun _ => ?_, ?_⟩
  · rintro n - c ⟨⟩
    decide
  · rw [hscan]
    exact fun h => by cases h
  · rw [hscan]
    rfl

theorem toList_fieldLine (f : Field) : ∃ cs, (fieldLine f).toList =
    ' ' :: ' ' ::
      (f.name.toList ++ ':' :: ' ' :: (f.type.render.toList ++ ' ' :: ' ' :: '[' :: cs)) := by
  by_cases hscalar : f.type.scalar?.isSome
  · exact ⟨"scalar]".toList, by simp [fieldLine, hscalar]⟩
  · exact ⟨"object]".toList, by simp [fieldLine, hscalar]⟩

theorem fieldLine_inj {f f' : Field} (hf : IsName f.name) (hf' : IsName f'.name)
    (htype : f.type.Writable) (htype' : f'.type.Writable) (h : fieldLine f = fieldLine f') :
    f.name = f'.name ∧ f.type = f'.type := by
  obtain ⟨cs, hcs⟩ := toList_fieldLine f
  obtain ⟨cs', hcs'⟩ := toList_fieldLine f'
  rw [← String.toList_inj, hcs, hcs'] at h
  obtain ⟨hname, hrest⟩ := hf.append_inj hf' (by decide) (List.cons.inj (List.cons.inj h).2).2
  exact ⟨hname, htype.append_inj htype' (fun p => endsBefore_blanks _ p _)
    (fun p => endsBefore_blanks _ p _) (List.cons.inj hrest).2⟩

theorem isIndented_fieldLine (f : Field) : isIndented (fieldLine f) = true := by
  obtain ⟨cs, hcs⟩ := toList_fieldLine f
  rw [isIndented, hcs]
  rfl

theorem head?_typeLine (s : Schema) (t : ObjectType) : (typeLine s t).toList.head? = some 't' := by
  obtain ⟨cs, hcs, -⟩ := toList_typeLine s t
  rw [hcs]
  rfl

/-- The lines about fields give their names and types. -/
theorem fields_of_lines {fs fs' : List Field}
    (hfs : (∀ f ∈ fs, IsName f.name) ∧ ∀ f ∈ fs, f.type.Writable)
    (hfs' : (∀ f ∈ fs', IsName f.name) ∧ ∀ f ∈ fs', f.type.Writable)
    (h : fs.map fieldLine = fs'.map fieldLine) :
    fs.map (fun f => (f.name, f.type)) = fs'.map fun f => (f.name, f.type) := by
  induction fs generalizing fs' with
  | nil =>
    cases fs' with
    | nil => rfl
    | cons f' fs' => cases h
  | cons f fs ih =>
    cases fs' with
    | nil => cases h
    | cons f' fs' =>
      obtain ⟨hline, hrest⟩ := List.cons.inj h
      obtain ⟨⟨hf, hfs⟩, htype, htypes⟩ := And.imp List.forall_mem_cons.1 List.forall_mem_cons.1 hfs
      obtain ⟨⟨hf', hfs'⟩, htype', htypes'⟩ :=
        And.imp List.forall_mem_cons.1 List.forall_mem_cons.1 hfs'
      obtain ⟨hname, hsame⟩ := fieldLine_inj hf hf' htype htype' hline
      rw [List.map_cons, List.map_cons, hname, hsame, ih ⟨hfs, htypes⟩ ⟨hfs', htypes'⟩ hrest]

/-- What follows the lines about a type starts with a line that is not indented. -/
theorem isIndented_head? {s : Schema} {os : List ObjectType} {last : String}
    (hlast : last.toList.head? = some 'O') :
    ∀ line ∈ (os.flatMap (typeLines s) ++ [last]).head?, isIndented line = false := by
  cases os with
  | nil =>
    rintro line ⟨⟩
    rw [isIndented, hlast]
    decide
  | cons t os =>
    intro line hline
    obtain rfl : typeLine s t = line := Option.some.inj hline
    rw [isIndented, head?_typeLine]
    decide

/-- The lines about types, up to a last line that starts like none of them. -/
theorem listed_of_lines {s s' : Schema} {os os' : List ObjectType}
    (hos : ∀ t ∈ os, t.WellFormed ∧ ∀ f ∈ t.fields, f.type.Writable)
    (hos' : ∀ t ∈ os', t.WellFormed ∧ ∀ f ∈ t.fields, f.type.Writable) {last last' : String}
    (hlast : last.toList.head? = some 'O') (hlast' : last'.toList.head? = some 'O')
    (h : os.flatMap (typeLines s) ++ [last] = os'.flatMap (typeLines s') ++ [last']) :
    os.map ObjectType.listed = os'.map ObjectType.listed ∧ last = last' := by
  induction os generalizing os' with
  | nil =>
    cases os' with
    | nil => exact ⟨rfl, (List.cons.inj h).1⟩
    | cons t' os' =>
      have hline : last = typeLine s' t' := (List.cons.inj h).1
      rw [hline, head?_typeLine] at hlast
      cases hlast
  | cons t os ih =>
    cases os' with
    | nil =>
      have hline : typeLine s t = last' := (List.cons.inj h).1
      rw [← hline, head?_typeLine] at hlast'
      cases hlast'
    | cons t' os' =>
      obtain ⟨⟨hw, hwrite⟩, hos⟩ := List.forall_mem_cons.1 hos
      obtain ⟨⟨hw', hwrite'⟩, hos'⟩ := List.forall_mem_cons.1 hos'
      simp only [List.flatMap_cons, typeLines_eq, List.cons_append, List.append_assoc] at h
      obtain ⟨hline, hrest⟩ := List.cons.inj h
      -- The lines about fields are indented, and the line behind the last of them is not.
      obtain ⟨hfields, hrest⟩ := append_inj_of_all (List.forall_mem_map.2 fun f _ =>
        isIndented_fieldLine f) (List.forall_mem_map.2 fun f _ => isIndented_fieldLine f)
        (isIndented_head? hlast) (isIndented_head? hlast') hrest
      obtain ⟨htail, hlasts⟩ := ih hos hos' hrest
      refine ⟨?_, hlasts⟩
      rw [List.map_cons, List.map_cons, htail, ObjectType.listed, ObjectType.listed,
        typeLine_inj hw.isName hw'.isName hline, fields_of_lines ⟨hw.fields_isName, hwrite⟩
          ⟨hw'.fields_isName, hwrite'⟩ hfields]

/-- The listing of a schema determines its types, their fields, the types of these, and the type at
which queries start. -/
theorem schemaLines_inj {s s' : Schema} (hw : s.WellFormed) (hw' : s'.WellFormed)
    (h : schemaLines s = schemaLines s') :
    s.objects.map ObjectType.listed = s'.objects.map ObjectType.listed ∧
      s.queryType = s'.queryType := by
  obtain ⟨hobjects, hlast⟩ := listed_of_lines
    (fun t ht => ⟨hw.types_wellFormed t ht, fun f hf => hw.writable ht hf⟩)
    (fun t ht => ⟨hw'.types_wellFormed t ht, fun f hf => hw'.writable ht hf⟩)
    (by simp) (by simp) h
  have hlength : s.types.length = s'.types.length := by
    have hmaps := congrArg List.length hobjects
    simpa [Schema.objects, Table.values] using hmaps
  rw [hlength] at hlast
  exact ⟨hobjects, by simpa using hlast⟩

end Cli

/-! ## Docstrings -/

namespace Client

/-- The docstring line of an accessor. -/
def docLine (t : TypePlan) (f : FieldPlan) : Line :=
  [.code "    ", .docstring ("``" ++ t.name ++ "." ++ f.name ++ ": " ++ f.type.render ++ "``")]

theorem docLine_mem_lines {plan : Plan} (root : TypePlan) (runtime : Item) {t : TypePlan}
    (ht : t ∈ plan.types) {f : FieldPlan} (hf : f ∈ t.fields) :
    docLine t f ∈ Layout.lines plan root runtime := by
  have haccessor : docLine t f ∈ plan.types.flatMap fun t => t.fields.flatMap (Layout.accessor t) :=
    List.mem_flatMap.2 ⟨t, ht, List.mem_flatMap.2 ⟨f, hf, by simp [Layout.accessor, docLine]⟩⟩
  simp only [Layout.lines, List.mem_append]
  tauto

theorem toList_docLine (t : TypePlan) (f : FieldPlan) : (docLine t f).text.toList =
    "    \"\"\"``".toList ++ (t.name.toList ++ '.' :: (f.name.toList ++ ':' :: ' ' ::
      (f.type.render.toList ++ "``\"\"\"".toList))) := by
  simp [docLine, Line.text, Item.text, String.join]

/-- The docstring of an accessor determines the names of the type and of the field, and the type of
the field. -/
theorem docLine_inj {t t' : TypePlan} {f f' : FieldPlan} (ht : IsName t.name) (ht' : IsName t'.name)
    (hf : IsName f.name) (hf' : IsName f'.name) (htype : f.type.Writable)
    (htype' : f'.type.Writable) (h : (docLine t f).text = (docLine t' f').text) :
    t.name = t'.name ∧ f.name = f'.name ∧ f.type = f'.type := by
  rw [← String.toList_inj, toList_docLine, toList_docLine] at h
  obtain ⟨htname, hrest⟩ := ht.append_inj ht' (by decide) (List.append_cancel_left h)
  obtain ⟨hfname, hrest⟩ := hf.append_inj hf' (by decide) hrest
  have hrender := List.append_cancel_right (List.cons.inj hrest).2
  exact ⟨htname, hfname, htype.render_inj htype' (String.toList_inj.1 hrender)⟩

/-- A planned field, with what its docstring shows. -/
theorem Plan.Pairs.shown {s : Schema} (hw : s.WellFormed) {plan : Plan} {o : ObjectType}
    {t : TypePlan} (hp : Plan.Pairs s plan o t) {f : FieldPlan} (hf : f ∈ t.fields) :
    IsName t.name ∧ IsName f.name ∧ f.type.Writable := by
  obtain ⟨g, hg, i, hof⟩ := hp.exists_field hf
  have hobject := hw.types_wellFormed o hp.object
  rw [hp.of.name, hof.name, hof.type_eq]
  exact ⟨hobject.isName, hobject.fields_isName g hg, hw.writable hp.object hg⟩

end Client

/-! ## Notations -/

open Client in
/-- **Notations round-trip.** Wherever the notation of a reference stands, it is read as the
reference, and the text behind it is left, exactly if no `!` of the reference follows another, the
name inside is one and is not reserved, and the text does not go on with what could belong to the
reference. From whatever token of a text a reference is read, the tokens that it takes are those of
its notation. So no two references have one notation. All types of a schema that was read have one;
the listing of the schema determines them, and so do the docstrings of its client. -/
theorem TypeRef.notation_round_trips :
    (∀ (source : String) (r : TypeRef) (p : Position) (cs : List Char),
      Document.typeRef source (Stream.scan p (r.render.toList ++ cs)) =
          .ok (r, Stream.scan (p.right r.render.toList.length) cs) ↔
        r.Writable ∧ r.EndsBefore (p.right r.render.toList.length) cs) ∧
    (∀ (source text : String) (n : Nat) (r : TypeRef) (rest : Stream),
      Document.typeRef source ((Stream.ofText text).drop n) = .ok (r, rest) →
        r.Writable ∧ (Stream.ofText r.render).isComplete = true ∧
          Stream.Reads (Stream.ofText r.render).lexemes ((Stream.ofText text).drop n) rest) ∧
    (∀ r r' : TypeRef, r.Writable → r'.Writable → r.render = r'.render → r = r') ∧
    (∀ calls s, s ∈ Collector.built {} calls → ∀ calls' s', s' ∈ Collector.built {} calls' →
      (∀ t ∈ s.objects, ∀ f ∈ t.fields, f.type.Writable) ∧
      (Cli.schemaLines s = Cli.schemaLines s' →
        s.objects.map ObjectType.listed = s'.objects.map ObjectType.listed ∧
          s.queryType = s'.queryType) ∧
      ∀ plan plan', Plan.ofSchema s = .ok plan → Plan.ofSchema s' = .ok plan' →
        ∀ t ∈ plan.types, ∀ f ∈ t.fields, ∀ t' ∈ plan'.types, ∀ f' ∈ t'.fields,
          (∀ root runtime, docLine t f ∈ Layout.lines plan root runtime) ∧
          ((docLine t f).text = (docLine t' f').text →
            t.name = t'.name ∧ f.name = f'.name ∧ f.type = f'.type)) := by
  refine ⟨fun source r p cs => Document.typeRef_render_iff, fun source text n r rest h => ?_,
    fun r r' hr hr' h => hr.render_inj hr' h, fun calls s hs calls' s' hs' => ?_⟩
  · have hnames : ∀ name, .name name ∈ ((Stream.ofText text).drop n).lexemes → IsName name :=
      fun name hname => Stream.isName_of_mem_scan (Stream.lexemes_drop_subset _ n hname)
    exact Document.reads_of_typeRef hnames h
  · have hw := Collector.wellFormed_of_mem_built hs
    have hw' := Collector.wellFormed_of_mem_built hs'
    refine ⟨fun t ht f hf => hw.writable ht hf, Cli.schemaLines_inj hw hw', ?_⟩
    intro plan plan' hp hp' t ht f hf t' ht' f' hf'
    obtain ⟨o, ho⟩ := Plan.exists_pairs hp ht
    obtain ⟨o', ho'⟩ := Plan.exists_pairs hp' ht'
    obtain ⟨hname, hfield, htype⟩ := ho.shown hw hf
    obtain ⟨hname', hfield', htype'⟩ := ho'.shown hw' hf'
    exact ⟨fun root runtime => docLine_mem_lines root runtime ht hf,
      docLine_inj hname hname' hfield hfield' htype htype'⟩

/-- A list that is never null, of films none of which is null. -/
def TypeRef.wrapped : TypeRef := .nonNull (.list (.nonNull (.named "Film")))

theorem TypeRef.writable_wrapped : wrapped.Writable := by
  refine ⟨⟨rfl, rfl, trivial⟩, ⟨'F', ['i', 'l', 'm'], by decide, by decide, ?_⟩, by decide +kernel⟩
  exact List.all_eq_true.1 (by decide)

open Client in
/-- A wrapped reference in front of another field, a list read from the third token of a text, and
the schema that refers to itself. -/
theorem TypeRef.notation_round_trips_wrapped :
    wrapped.Writable ∧ wrapped.render = "[Film!]!" ∧
    Document.typeRef "a" (Stream.scan .start (wrapped.render.toList ++ " b: Int".toList)) =
      .ok (wrapped, Stream.scan ⟨1, 9⟩ " b: Int".toList) ∧
    (∃ rest, Document.typeRef "a" ((Stream.ofText "q: [Q!]").drop 2) =
        .ok (.list (.nonNull (.named "Q")), rest) ∧
      Stream.Reads (Stream.ofText "[Q!]").lexemes ((Stream.ofText "q: [Q!]").drop 2) rest) ∧
    (∀ r : TypeRef, r.Writable → r.render = wrapped.render → r = wrapped) ∧
    (∃ plan, Schema.looped ∈ Collector.built {} Collector.loopedCalls ∧
      Plan.ofSchema .looped = .ok plan ∧ ∃ t ∈ plan.types, ∃ f ∈ t.fields,
        f.type = .list (.nonNull (.named "Query")) ∧
        ∀ t' ∈ plan.types, ∀ f' ∈ t'.fields,
          (docLine t f).text = (docLine t' f').text → f'.type = f.type) := by
  obtain ⟨hread, htokens, hinj, hshown⟩ := notation_round_trips
  have hend : wrapped.EndsBefore ⟨1, 9⟩ " b: Int".toList := by
    refine ⟨?_, fun hnull => ?_, by decide +kernel⟩
    · rintro n ⟨⟩
    · cases hnull
  have hlist : ((Document.typeRef "a" ((Stream.ofText "q: [Q!]").drop 2)).toOption.any
      fun x => x.1 == .list (.nonNull (.named "Q"))) = true := by
    decide +kernel
  obtain ⟨⟨r, rest⟩, hrest, hr⟩ := (Option.any_eq_true _ _).1 hlist
  rw [toOption_eq_some] at hrest
  obtain rfl : r = .list (.nonNull (.named "Q")) := beq_iff_eq.1 hr
  have hplan : ((Plan.ofSchema .looped).toOption.any fun plan =>
      plan.types.any fun t => t.fields.any fun f =>
        f.type == .list (.nonNull (.named "Query"))) = true := by
    decide +kernel
  obtain ⟨plan, hp, hcheck⟩ := (Option.any_eq_true _ _).1 hplan
  rw [toOption_eq_some] at hp
  simp only [List.any_eq_true, beq_iff_eq] at hcheck
  obtain ⟨t, ht, f, hf, htype⟩ := hcheck
  refine ⟨writable_wrapped, by decide +kernel, ?_, ⟨rest, hrest, ?_⟩, ?_, plan,
    Collector.looped_mem_built, hp, t, ht, f, hf, htype, ?_⟩
  · exact (hread "a" wrapped .start " b: Int".toList).2 ⟨writable_wrapped, hend⟩
  · exact (htokens "a" "q: [Q!]" 2 _ rest hrest).2.2
  · exact fun r hr hsame => hinj r wrapped hr writable_wrapped hsame
  · intro t' ht' f' hf' hdoc
    have hbuilt := Collector.looped_mem_built
    obtain ⟨-, -, hdocs⟩ := hshown _ _ hbuilt _ _ hbuilt
    exact ((hdocs plan plan hp hp t ht f hf t' ht' f' hf').2 hdoc).2.2.symm

end TypedQuery
