import TypedQuery.Client.Generate
import TypedQuery.Proofs.Schema.Placing
import TypedQuery.Proofs.Schema.WellFormed

/-!
# What a module is determined by

Blanks, commas, comments, line ends and the name of the source decide where tokens stand, and that
is all they decide. Every text that is read without a fault is the text of its lexemes with each
token moved from its index to its position (`Stream.move_indexed`). So two texts with the same
lexemes are read to the same schema or to the same error (`generate_determined_by_lexemes`), and
since a plan is made without looking at places (`Plan.ofSchema_place`), the modules are the same
text.
-/

namespace TypedQuery

/-! ## Plans are made without looking at places -/

namespace Client.Plan

variable {pl : Placement}

theorem objects_place (s : Schema) :
    (s.place pl).objects = s.objects.map (ObjectType.place pl) := by
  simp [Schema.objects, Schema.place, Table.values, Function.comp_def]

theorem unresolved?_place (s : Schema) (t : ObjectType) :
    unresolved? (s.place pl) (t.place pl) = unresolved? s t := by
  simp only [unresolved?, ObjectType.place, List.findSome?_map, Schema.find?_place,
    Option.isNone_map]
  rfl

theorem fault?_place (s : Schema) : fault? (s.place pl) = fault? s := by
  have hroot : (s.place pl).root? = s.root?.map (ObjectType.place pl) :=
    Schema.find?_place s s.queryType
  have hfault : ∀ t, faultOf? (s.place pl) (t.place pl) = faultOf? s t := by
    intro t
    rw [faultOf?, faultOf?, unresolved?_place]
    simp [ObjectType.place]
  unfold fault?
  rw [hroot, Option.isNone_map, objects_place, List.findSome?_map]
  simp only [Function.comp_def, hfault]
  rfl

theorem chooseNames_place (ts : List ObjectType) :
    chooseNames (ts.map (ObjectType.place pl)) = chooseNames ts := by
  have hnames : (ts.map (ObjectType.place pl)).map ObjectType.name = ts.map ObjectType.name := by
    simp [ObjectType.place, Function.comp_def]
  have hlengths : (ts.map (ObjectType.place pl)).map (fun t => t.fields.length) =
      ts.map fun t => t.fields.length := by
    simp [ObjectType.place, Function.comp_def]
  unfold chooseNames
  rw [hnames, hlengths]

theorem planFields_place (names : Table TypeNames) (type : String) (params : List String)
    (chosen : Chosen) (index : Nat) (fs : List Field) :
    planFields names type params chosen index (fs.map (Field.place pl)) =
      planFields names type params chosen index fs := by
  induction fs generalizing chosen index with
  | nil => rfl
  | cons f fs ih =>
    have hfield : planField names type params chosen index (f.place pl) =
        planField names type params chosen index f := rfl
    simp only [List.map_cons, planFields, hfield, ih]

theorem planType_place (s : Schema) (names : NamePlan) (classes : List String) (t : ObjectType) :
    planType (s.place pl) names classes (t.place pl) = planType s names classes t := by
  simp only [planType, ObjectType.place, List.length_map, planFields_place]
  rfl

theorem planTypes_place (s : Schema) (names : NamePlan) (classes : List String)
    (ts : List ObjectType) :
    planTypes (s.place pl) names classes (ts.map (ObjectType.place pl)) =
      planTypes s names classes ts := by
  induction ts generalizing classes with
  | nil => rfl
  | cons t ts ih => simp only [List.map_cons, planTypes, planType_place, ih]

theorem ofSchema_place (s : Schema) : ofSchema (s.place pl) = ofSchema s := by
  simp only [ofSchema, fault?_place, objects_place, chooseNames_place, planTypes_place]

end Client.Plan

/-- Whatever the options, a moved schema gives the same module. -/
theorem Client.generate_place (pl : Placement) (s : Schema) (o : Options) :
    generate (s.place pl) o = generate s o := by
  simp only [generate, prepare, Plan.ofSchema_place]

/-! ## Texts as sequences of lexemes -/

namespace Stream

/-- The stream of lexemes that has each token at the line of its index. -/
def indexed (i : Nat) : List Lexeme → Stream
  | [] => .stop ⟨i, 0⟩
  | l :: ls => .next ⟨l, ⟨i, 0⟩⟩ (indexed (i + 1) ls)

theorem tail_drop (s : Stream) (i : Nat) : (s.drop i).tail = s.drop (i + 1) := by
  induction i generalizing s with
  | zero => rfl
  | succ i ih => exact ih s.tail

end Stream

/-- From indices to the positions of the tokens of `s`. -/
def Relocation.ofStream (source : String) (s : Stream) : Relocation where
  source := ""
  target := source
  position p := (s.drop p.line).position
  placement l := Document.locate source (s.drop (l.elim 0 fun l => l.line.toNat)).position
  locate _ := rfl

namespace Stream

theorem move_indexed_drop (source : String) (s r : Stream) (i : Nat) (hr : s.drop i = r)
    (h : r.isComplete = true) :
    (indexed i r.lexemes).move (.ofStream source s) = r := by
  induction r generalizing i with
  | stop p =>
    have hp : (s.drop i).position = p := by rw [hr]; rfl
    simp only [lexemes, tokens, List.map_nil, indexed, move, Relocation.ofStream, hp]
  | fault why p => cases h
  | next t rest ih =>
    have hp : (s.drop i).position = t.position := by rw [hr]; rfl
    have hrest : s.drop (i + 1) = rest := by rw [← tail_drop, hr]; rfl
    have hmove := ih (i + 1) hrest h
    rw [lexemes] at hmove
    simp only [lexemes, tokens, List.map_cons, indexed, move, hmove]
    simp only [Relocation.ofStream, hp]

/-- A text that is read without a fault is its lexemes, moved to where they stand. -/
theorem move_indexed (source : String) (s : Stream) (h : s.isComplete = true) :
    (indexed 0 s.lexemes).move (.ofStream source s) = s :=
  move_indexed_drop source s s 0 rfl h

theorem drop_of_tail_eq {s : Stream} (h : s.tail = s) (i : Nat) : s.drop i = s := by
  induction i with
  | zero => rfl
  | succ i ih => rw [drop, h, ih]

/-- After the last token, dropping changes nothing. -/
theorem drop_of_length_le {s : Stream} {i : Nat} (h : s.lexemes.length ≤ i) :
    s.drop i = s.drop s.lexemes.length := by
  induction s generalizing i with
  | stop p => exact drop_of_tail_eq rfl i
  | fault why p => exact drop_of_tail_eq rfl i
  | next t rest ih =>
    have hlength : (Stream.next t rest).lexemes.length = rest.lexemes.length + 1 := by
      simp [lexemes, tokens]
    rw [hlength] at h ⊢
    obtain ⟨j, rfl⟩ : ∃ j, i = j + 1 := ⟨i - 1, by omega⟩
    exact ih (by omega)

end Stream

/-- Reads lexemes as a source and builds the schema; every token stands at its index. -/
def Schema.ofLexemes (ls : List Lexeme) : Except SchemaError Schema :=
  let (ds, ending) := Document.ofStream "" (Stream.indexed 0 ls)
  match ({} : Collector).addAll ds with
  | (_, some e) => .error e
  | (c, none) =>
    match ending with
    | .failed e => .error e
    | .complete p => { c with lastEnd := some (Document.locate "" p) : Collector }.build

/-- A text is read as its lexemes are, with every place moved from an index to a position. -/
theorem Schema.ofText_eq_placed (text source : String)
    (h : (Stream.ofText text).isComplete = true) :
    let m := Relocation.ofStream source (Stream.ofText text)
    Schema.ofText text source =
      placed m.placement (Schema.place m.placement) (ofLexemes (Stream.ofText text).lexemes) := by
  intro m
  have hdoc := Document.ofStream_move m (.indexed 0 (Stream.ofText text).lexemes)
  rw [Stream.move_indexed source _ h] at hdoc
  unfold ofText ofLexemes Collector.addSource Document.ofText
  change Document.ofStream source _ = Prod.map _ _ (Document.ofStream "" _) at hdoc
  rw [hdoc]
  rcases Document.ofStream "" (.indexed 0 (Stream.ofText text).lexemes) with ⟨ds, ending⟩
  have hall := Collector.addAll_place m.placement {} ds
  change ({} : Collector).addAll _ = _ at hall
  simp only [Prod.map, hall]
  rcases ({} : Collector).addAll ds with ⟨c, _ | e⟩
  · cases ending with
    | failed e => rfl
    | complete p =>
      have hplace : ({ c with lastEnd := some (Document.locate "" p) } : Collector).place
          m.placement = { c.place m.placement with
            lastEnd := some (Document.locate source (m.position p)) } := rfl
      simp only [Option.map_none, Document.Ending.move]
      rw [← Collector.build_place _ _ rfl, hplace]
      exact Collector.build_lastSource { c.place m.placement with
        lastEnd := some (Document.locate source (m.position p)) } source rfl
  · rfl

/-! ## Two layouts of the same lexemes -/

/-- Where the token with index `i` stands in a text, or where the text ends. -/
def Stream.locationAt (source text : String) (i : Nat) : Location :=
  Document.locate source ((Stream.ofText text).drop i).position

/-- Errors about two layouts of the same `n` tokens that report the same: their kind, the index of
the token they are at, and the message up to the earlier declaration that it may quote. -/
structure SchemaError.Corresponds (n : Nat) (at₁ at₂ : Nat → Location) (e₁ e₂ : SchemaError) :
    Prop where
  kind : e₁.kind = e₂.kind
  location : ∃ i ≤ n, e₁.location = some (at₁ i) ∧ e₂.location = some (at₂ i)
  message : e₁.cause.message = e₂.cause.message ∨ ∃ start, ∃ i ≤ n,
    e₁.cause.message = start ++ "already declared at " ++ (at₁ i).render ++ "." ∧
    e₂.cause.message = start ++ "already declared at " ++ (at₂ i).render ++ "."

/-- An index past the end is as good as the end. -/
theorem Relocation.exists_index (l : Option Location) (n : Nat) : ∃ i ≤ n,
    ∀ source text, (Stream.ofText text).lexemes.length = n →
      (ofStream source (Stream.ofText text)).placement l = Stream.locationAt source text i := by
  let j := l.elim 0 fun l => l.line.toNat
  by_cases hj : j ≤ n
  · exact ⟨j, hj, fun _ _ _ => rfl⟩
  · refine ⟨n, Nat.le_refl n, fun source text hn => ?_⟩
    show Document.locate source ((Stream.ofText text).drop j).position = _
    rw [Stream.drop_of_length_le (by omega), hn]
    rfl

theorem SchemaError.Cause.message_typeTwice (type : String) (l : Location) :
    (typeTwice type (some l)).message =
      "Type '" ++ type ++ "' is " ++ "already declared at " ++ l.render ++ "." := by
  have hsplit : "' is already declared at " = "' is " ++ "already declared at " := by decide +kernel
  show "Type '" ++ type ++ "' is already declared at " ++ l.render ++ "." = _
  rw [hsplit, ← String.append_assoc]

theorem SchemaError.Cause.message_schemaTwice (l : Location) :
    (schemaTwice l).message =
      "Schema definition is " ++ "already declared at " ++ l.render ++ "." := by
  have hsplit : "Schema definition is already declared at " =
      "Schema definition is " ++ "already declared at " := by decide +kernel
  show "Schema definition is already declared at " ++ l.render ++ "." = _
  rw [hsplit]

/-- One error, moved into two layouts. -/
theorem SchemaError.corresponds_place (e : SchemaError) {n : Nat} (source₁ source₂ : String)
    {text₁ text₂ : String} (h₁ : (Stream.ofText text₁).lexemes.length = n)
    (h₂ : (Stream.ofText text₂).lexemes.length = n) :
    Corresponds n (Stream.locationAt source₁ text₁) (Stream.locationAt source₂ text₂)
      (e.place (Relocation.ofStream source₁ (Stream.ofText text₁)).placement)
      (e.place (Relocation.ofStream source₂ (Stream.ofText text₂)).placement) := by
  obtain ⟨cause, location⟩ := e
  refine ⟨by simp, ?_, ?_⟩
  · obtain ⟨i, hi, hat⟩ := Relocation.exists_index location n
    exact ⟨i, hi, congrArg some (hat source₁ text₁ h₁), congrArg some (hat source₂ text₂ h₂)⟩
  · -- Only two causes quote a place, and it is moved like all others.
    cases cause with
    | typeTwice type first =>
      obtain ⟨i, hi, hat⟩ := Relocation.exists_index first n
      simp only [place, Cause.place, hat source₁ text₁ h₁, hat source₂ text₂ h₂,
        Cause.message_typeTwice]
      exact .inr ⟨_, i, hi, rfl, rfl⟩
    | schemaTwice first =>
      obtain ⟨i, hi, hat⟩ := Relocation.exists_index (some first) n
      simp only [place, Cause.place, hat source₁ text₁ h₁, hat source₂ text₂ h₂,
        Cause.message_schemaTwice]
      exact .inr ⟨_, i, hi, rfl, rfl⟩
    | _ => exact .inl rfl

/-- What the text of one source makes is well formed. -/
theorem Schema.wellFormed_of_ofText {text source : String} {s : Schema}
    (h : Schema.ofText text source = .ok s) : s.WellFormed := by
  unfold Schema.ofText at h
  split at h
  · cases h
  · rename_i c hadd
    have hsound := Collector.sound_addSource source text Collector.sound_empty
    rw [hadd] at hsound
    exact Collector.wellFormed_of_build hsound h

/-- **Layout does not matter.** Two texts that are read without a fault to the same lexemes, under
whatever names, make schemas that agree and give the same module for all options, or they fail with
errors that report the same. -/
theorem Client.generate_determined_by_lexemes (text₁ text₂ source₁ source₂ : String)
    (h₁ : (Stream.ofText text₁).isComplete = true) (h₂ : (Stream.ofText text₂).isComplete = true)
    (h : (Stream.ofText text₁).lexemes = (Stream.ofText text₂).lexemes) :
    (∃ s₁ s₂, Schema.ofText text₁ source₁ = .ok s₁ ∧ Schema.ofText text₂ source₂ = .ok s₂ ∧
      s₁.agrees s₂ = true ∧ ∀ o, generate s₁ o = generate s₂ o) ∨
    ∃ e₁ e₂, Schema.ofText text₁ source₁ = .error e₁ ∧ Schema.ofText text₂ source₂ = .error e₂ ∧
      SchemaError.Corresponds (Stream.ofText text₁).lexemes.length
        (Stream.locationAt source₁ text₁) (Stream.locationAt source₂ text₂) e₁ e₂ := by
  have hread₁ := Schema.ofText_eq_placed text₁ source₁ h₁
  have hread₂ := Schema.ofText_eq_placed text₂ source₂ h₂
  rw [← h] at hread₂
  cases hs : Schema.ofLexemes (Stream.ofText text₁).lexemes with
  | ok s =>
    rw [hs] at hread₁ hread₂
    -- Put everything at one place: nothing is left to tell the two schemas apart.
    have hplace : ∀ pl pl' : Placement,
        (s.place pl).place .nowhere = (s.place pl').place .nowhere := by
      intro pl pl'
      rw [Schema.place_nowhere_place, Schema.place_nowhere_place]
    refine .inl ⟨_, _, hread₁, hread₂, ?_, fun o => ?_⟩
    · exact Schema.agrees_of_place_eq (hplace _ _) (Schema.wellFormed_of_ofText hread₁).keys_nodup
    · rw [generate_place, generate_place]
  | error e =>
    rw [hs] at hread₁ hread₂
    exact .inr ⟨_, _, hread₁, hread₂,
      e.corresponds_place source₁ source₂ rfl (congrArg List.length h.symm)⟩

/-- A type that is declared twice, on one line and over several with comments: both are refused. -/
theorem Client.generate_determined_declared_twice :
    let text₁ := "type A \x7b x: Int \x7d type A \x7b y: Int \x7d"
    let text₂ := "# A schema.\ntype A,\x7b\r\n  x: Int \x7d\n\ntype A \x7b y: Int \x7d"
    (Stream.ofText text₁).isComplete = true ∧ (Stream.ofText text₂).isComplete = true ∧
      (Stream.ofText text₁).lexemes = (Stream.ofText text₂).lexemes ∧
      ∃ e₁ e₂, Schema.ofText text₁ "one" = .error e₁ ∧ Schema.ofText text₂ "two" = .error e₂ ∧
        SchemaError.Corresponds 14 (Stream.locationAt "one" text₁) (Stream.locationAt "two" text₂)
          e₁ e₂ := by
  intro text₁ text₂
  have h₁ : (Stream.ofText text₁).isComplete = true := by decide +kernel
  have h₂ : (Stream.ofText text₂).isComplete = true := by decide +kernel
  have h : (Stream.ofText text₁).lexemes = (Stream.ofText text₂).lexemes := by decide +kernel
  have hlength : (Stream.ofText text₁).lexemes.length = 14 := by decide +kernel
  have hfail : (Schema.ofText text₁ "one").toOption = none := by decide +kernel
  refine ⟨h₁, h₂, h, ?_⟩
  rcases generate_determined_by_lexemes text₁ text₂ "one" "two" h₁ h₂ h with
    ⟨s₁, _, hs, -⟩ | herror
  · rw [hs] at hfail
    cases hfail
  · rwa [hlength] at herror

end TypedQuery
