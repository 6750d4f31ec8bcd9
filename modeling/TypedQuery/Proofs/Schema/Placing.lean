import TypedQuery.Proofs.Schema.Reading
import TypedQuery.Proofs.Table

/-!
# Reading does not look at places

A token carries the position where it stands, and what is read from tokens carries locations: so do
fields, types, the query root and errors. A `Relocation` moves the positions of a stream and the
locations that come from them. Reading, collecting and building do the same to what is moved as to
what is not, so all that a place can change is a place.

* `Document.ofStream_move`: the definitions of a moved stream are the moved definitions. There is
  one lemma for each reader below it.
* `Collector.addAll_place`, `Collector.build_place`: the same for a collector.
* `Schema.agrees_of_place_eq`: schemas that are the same once moved agree.
-/

namespace TypedQuery

/-! ## Moved values -/

/-- A location for each location, and one for what has none. -/
abbrev Placement := Option Location → Location

/-- Everything at one place, so that places tell nothing apart. -/
def Placement.nowhere : Placement := fun _ => ⟨"", 0, 0⟩

section

variable (pl : Placement)

/-- The field at its new place. -/
def Field.place (f : Field) : Field := { f with location := some (pl f.location) }

/-- The type and its fields at their new places. -/
def ObjectType.place (t : ObjectType) : ObjectType :=
  { t with fields := t.fields.map (Field.place pl), location := some (pl t.location) }

/-- The query root at its new places. -/
def RootDecl.place (r : RootDecl) : RootDecl :=
  { r with location := pl (some r.location), declaredAt := pl (some r.declaredAt) }

/-- The definition at its new place. -/
def Definition.place : Definition → Definition
  | .object t => .object (t.place pl)
  | .root r => .root (r.place pl)

/-- The schema with its types at their new places. -/
def Schema.place (s : Schema) : Schema :=
  { s with types := s.types.map fun entry => (entry.1, entry.2.place pl) }

/-- The cause with the earlier declaration, if it names one, at its new place. -/
def SchemaError.Cause.place : SchemaError.Cause → SchemaError.Cause
  | .typeTwice type first => .typeTwice type (some (pl first))
  | .schemaTwice first => .schemaTwice (pl (some first))
  | c => c

/-- The error at its new place. -/
def SchemaError.place (e : SchemaError) : SchemaError :=
  ⟨e.cause.place pl, some (pl e.location)⟩

/-- The collector with what it holds at its new places. -/
def Collector.place (c : Collector) : Collector :=
  { c with
    types := c.types.map (ObjectType.place pl)
    root := c.root.map (RootDecl.place pl)
    lastEnd := c.lastEnd.map fun l => pl (some l) }

/-- The outcome of a reader with its value changed by `f` or its error moved. -/
def placed {α β : Type} (f : α → β) : Except SchemaError α → Except SchemaError β
  | .ok a => .ok (f a)
  | .error e => .error (e.place pl)

/-- Steps that move their outcome, one after the other. -/
theorem placed_bind {α α' β β' : Type} {x : Except SchemaError α} {k : α → Except SchemaError β}
    {k' : α' → Except SchemaError β'} {f : α → α'} {g : β → β'}
    (h : ∀ a, k' (f a) = placed pl g (k a)) :
    (placed pl f x >>= k') = placed pl g (x >>= k) := by
  cases x with
  | error e => rfl
  | ok a => exact h a

@[simp] theorem SchemaError.Cause.kind_place (c : SchemaError.Cause) :
    (c.place pl).kind = c.kind := by
  cases c <;> rfl

@[simp] theorem SchemaError.kind_place (e : SchemaError) : (e.place pl).kind = e.kind :=
  e.cause.kind_place pl

end

/-! ## Agreement -/

section

variable {pl : Placement}

theorem Field.agrees_of_place_eq {f g : Field} (h : f.place pl = g.place pl) :
    f.agrees g = true := by
  simp only [Field.place, Field.mk.injEq] at h
  simp [Field.agrees, h.1, h.2.1, h.2.2.1]

theorem ObjectType.fieldsAgree_of_map_place_eq {fs gs : List Field}
    (h : fs.map (Field.place pl) = gs.map (Field.place pl)) : fieldsAgree fs gs = true := by
  induction fs generalizing gs with
  | nil =>
    cases gs with
    | nil => rfl
    | cons g gs => cases h
  | cons f fs ih =>
    cases gs with
    | nil => cases h
    | cons g gs =>
      simp only [List.map_cons, List.cons.injEq] at h
      rw [fieldsAgree, Field.agrees_of_place_eq h.1, ih h.2, Bool.and_self]

theorem ObjectType.agrees_of_place_eq {t u : ObjectType} (h : t.place pl = u.place pl) :
    t.agrees u = true := by
  simp only [ObjectType.place, ObjectType.mk.injEq] at h
  obtain ⟨hname, hfields, hdescription, -⟩ := h
  simp [agrees, hname, hdescription, fieldsAgree_of_map_place_eq hfields]

theorem Schema.find?_place (s : Schema) (name : String) :
    (s.place pl).find? name = (s.find? name).map (ObjectType.place pl) :=
  Table.get?_map _ s.types name

/-- Schemas that differ in places only agree. A key that comes twice would be looked up once. -/
theorem Schema.agrees_of_place_eq {a b : Schema} (h : a.place pl = b.place pl)
    (hn : a.types.names.Nodup) : a.agrees b = true := by
  have hquery : a.queryType = b.queryType := (congrArg queryType h :)
  have hlength : a.types.length = b.types.length := by
    have := congrArg (fun s : Schema => s.types.length) h
    simpa [Schema.place] using this
  have hcovered : a.covered b = true := by
    refine List.all_eq_true.2 ?_
    rintro ⟨key, t⟩ ht
    have hfind : (b.find? key).map (ObjectType.place pl) = some (t.place pl) := by
      rw [← find?_place, ← h, find?_place, find?, Table.get?_eq_some hn ht, Option.map_some]
    obtain ⟨u, hu, htu⟩ := Option.map_eq_some_iff.1 hfind
    simp only [hu]
    exact ObjectType.agrees_of_place_eq htu.symm
  simp [agrees, hquery, hlength, hcovered]

/-- Where things are put last is where they are. -/
theorem Schema.place_nowhere_place (s : Schema) :
    (s.place pl).place .nowhere = s.place .nowhere := by
  simp [Schema.place, ObjectType.place, Field.place, Placement.nowhere, Function.comp_def]

end

/-! ## Moved streams -/

/-- A change of places that starts from a source: its positions go to positions of the target, and
locations follow them. -/
structure Relocation where
  source : String
  target : String
  position : Position → Position
  placement : Placement
  locate : ∀ p, placement (some (Document.locate source p)) = Document.locate target (position p)

namespace Stream

variable (m : Relocation)

/-- The stream with its positions moved. -/
def move : Stream → Stream
  | .stop p => .stop (m.position p)
  | .fault why p => .fault why (m.position p)
  | .next t rest => .next ⟨t.lexeme, m.position t.position⟩ rest.move

@[simp] theorem head?_move (s : Stream) : (s.move m).head? = s.head? := by
  cases s <;> rfl

@[simp] theorem tail_move (s : Stream) : (s.move m).tail = s.tail.move m := by
  cases s <;> rfl

@[simp] theorem isStop_move (s : Stream) : (s.move m).isStop = s.isStop := by
  cases s <;> rfl

@[simp] theorem position_move (s : Stream) : (s.move m).position = m.position s.position := by
  cases s <;> rfl

end Stream

/-! ## Readers -/

namespace Document

variable (m : Relocation)

/-- An error at a moved position, when its cause names no place. -/
theorem atPosition_move (p : Position) {c : SchemaError.Cause} (hc : c.place m.placement = c) :
    SchemaError.atPosition m.target (m.position p) c =
      (SchemaError.atPosition m.source p c).place m.placement := by
  have hloc := m.locate p
  simp only [locate] at hloc
  simp only [SchemaError.atPosition, SchemaError.place, hc, hloc]

theorem failAt_move {α β : Type} (f : α → β) (s : Stream) {c : SchemaError.Cause}
    (hc : c.place m.placement = c) :
    failAt m.target (s.move m) c = placed m.placement f (failAt m.source s c) := by
  simp only [failAt, Stream.position_move, atPosition_move m s.position hc, placed]

theorem take_move (s : Stream) :
    Stream.take m.target (s.move m) = placed m.placement id (Stream.take m.source s) := by
  cases s with
  | stop p => rfl
  | fault why p => exact congrArg Except.error (atPosition_move m p rfl)
  | next t rest => rfl

theorem punct_move (p : Punct) (s : Stream) :
    punct m.target p (s.move m) = placed m.placement (Stream.move m) (punct m.source p s) := by
  rcases s with q | ⟨why, q⟩ | ⟨⟨l, q⟩, rest⟩
  case next =>
    cases l with
    | punct x =>
      simp only [Stream.move, punct]
      split
      · rw [take_move]
        exact placed_bind _ fun _ => rfl
      · exact congrArg Except.error (atPosition_move m q rfl)
    | _ => exact failAt_move m _ (.next ⟨_, q⟩ rest) rfl
  all_goals exact failAt_move m _ _ rfl

theorem anyName_move (what : String) (s : Stream) :
    anyName m.target what (s.move m) =
      placed m.placement (Prod.map (Prod.map id m.position) (Stream.move m))
        (anyName m.source what s) := by
  rcases s with q | ⟨why, q⟩ | ⟨⟨l, q⟩, rest⟩
  case next =>
    cases l with
    | name n =>
      simp only [Stream.move, anyName]
      rw [take_move]
      exact placed_bind _ fun _ => rfl
    | _ => exact failAt_move m _ (.next ⟨_, q⟩ rest) rfl
  all_goals exact failAt_move m _ _ rfl

theorem name_move (what : String) (s : Stream) :
    name m.target what (s.move m) =
      placed m.placement (Prod.map (Prod.map id m.position) (Stream.move m))
        (name m.source what s) := by
  unfold name
  rw [anyName_move]
  refine placed_bind _ ?_
  rintro ⟨⟨n, p⟩, s⟩
  simp only [Prod.map, id]
  split
  · exact congrArg Except.error (atPosition_move m p rfl)
  · rfl

theorem description_move (s : Stream) :
    description m.target (s.move m) =
      placed m.placement (Prod.map id (Stream.move m)) (description m.source s) := by
  rcases s with q | ⟨why, q⟩ | ⟨⟨l, q⟩, rest⟩
  case next =>
    cases l with
    | string v | block v =>
      simp only [Stream.move, description]
      rw [take_move]
      exact placed_bind _ fun _ => rfl
    | _ => rfl
  all_goals rfl

theorem bang_move (r : TypeRef) (s : Stream) :
    bang m.target r (s.move m) =
      placed m.placement (Prod.map id (Stream.move m)) (bang m.source r s) := by
  by_cases h : ∃ p rest, s = .next ⟨.punct .bang, p⟩ rest
  · obtain ⟨p, rest, rfl⟩ := h
    simp only [Stream.move, bang]
    rw [take_move]
    exact placed_bind _ fun _ => rfl
  · have hs : ∀ source, bang source r s = .ok (r, s) := by
      intro source
      unfold bang
      split
      · exact absurd ⟨_, _, rfl⟩ h
      · rfl
    rw [hs m.source]
    unfold bang
    split
    · rename_i p rest hm
      rcases s with _ | _ | ⟨⟨l, q⟩, t⟩
      case next =>
        cases hm
        exact absurd ⟨_, _, rfl⟩ h
      all_goals cases hm
    · rfl

theorem typeRef_of_head? {source : String} {s : Stream}
    (h : s.head? ≠ some (.punct .bracketL)) :
    typeRef source s = (do
      let ((n, _), s) ← name source "a type" s
      bang source (.named n) s) := by
  unfold typeRef
  split
  · exact absurd rfl h
  · rfl

theorem typeRef_move (s : Stream) :
    typeRef m.target (s.move m) =
      placed m.placement (Prod.map id (Stream.move m)) (typeRef m.source s) := by
  fun_induction typeRef m.source s with
  | case1 p rest ih =>
    simp only [Stream.move, typeRef]
    rw [take_move]
    refine placed_bind _ fun _ => ?_
    rw [ih]
    refine placed_bind _ ?_
    rintro ⟨inner, s₁⟩
    simp only [Prod.map, id]
    rw [punct_move]
    exact placed_bind _ fun s₂ => bang_move m _ s₂
  | case2 s hs =>
    have hne : s.head? ≠ some (.punct .bracketL) := by
      intro h
      rcases s with _ | _ | ⟨⟨l, q⟩, t⟩
      case next =>
        cases h
        exact hs _ _ rfl
      all_goals cases h
    rw [typeRef_of_head? (by rwa [Stream.head?_move]), name_move]
    refine placed_bind _ ?_
    rintro ⟨⟨n, p⟩, s₁⟩
    exact bang_move m _ s₁

theorem fieldDef_move (s : Stream) :
    fieldDef m.target (s.move m) =
      placed m.placement (Prod.map (Field.place m.placement) (Stream.move m))
        (fieldDef m.source s) := by
  unfold fieldDef
  rw [description_move]
  refine placed_bind _ ?_
  rintro ⟨text, s₁⟩
  simp only [Prod.map, id]
  rw [name_move]
  refine placed_bind _ ?_
  rintro ⟨⟨n, p⟩, s₂⟩
  simp only [Prod.map, id, Stream.head?_move]
  split
  · exact failAt_move m _ s₂ rfl
  · rw [punct_move]
    refine placed_bind _ fun s₃ => ?_
    rw [typeRef_move]
    refine placed_bind _ ?_
    rintro ⟨type, s₄⟩
    simp only [Prod.map, id, Stream.head?_move]
    split
    · exact failAt_move m _ s₄ rfl
    · split
      · exact failAt_move m _ s₄ rfl
      · simp only [pure, Except.pure, placed, Prod.map, Field.place, m.locate]

theorem fields_of_error {source type : String} {seen : List Field} {s : Stream} {e : SchemaError}
    (h : fieldDef source s = .error e) : fields source type seen s = .error e := by
  unfold fields
  split <;> rename_i h' <;> rw [h] at h' <;> cases h'
  rfl

theorem fields_of_ok {source : String} (type : String) (seen : List Field) {s s' : Stream}
    {f : Field} (h : fieldDef source s = .ok (f, s')) : fields source type seen s =
      if seen.any (fun g => g.name == f.name) then .error ⟨.fieldTwice type f.name, f.location⟩
      else if s'.head? = some (.punct .braceR) then do
        Stream.take source s'.tail
        return ((f :: seen).reverse, s'.tail)
      else if s'.isStop then failAt source s' (.unclosedType type)
      else fields source type (f :: seen) s' := by
  conv => lhs; unfold fields
  split <;> rename_i h' <;> rw [h] at h' <;> cases h'
  rfl

theorem fields_move (type : String) (seen : List Field) (s : Stream) :
    fields m.target type (seen.map (Field.place m.placement)) (s.move m) =
      placed m.placement (Prod.map (List.map (Field.place m.placement)) (Stream.move m))
        (fields m.source type seen s) := by
  have hok : ∀ {s s' : Stream} {f : Field}, fieldDef m.source s = .ok (f, s') →
      fieldDef m.target (s.move m) = .ok (f.place m.placement, s'.move m) := by
    intro s s' f h
    rw [fieldDef_move, h]
    rfl
  have hany : ∀ (seen : List Field) (f : Field),
      (seen.map (Field.place m.placement)).any
        (fun g => g.name == (f.place m.placement).name) = seen.any (fun g => g.name == f.name) := by
    intro seen f
    rw [List.any_map]
    rfl
  fun_induction fields m.source type seen s with
  | case1 seen s e he =>
    have hm := fieldDef_move m s
    rw [he] at hm
    exact fields_of_error hm
  | case2 seen s f s' hf hseen =>
    rw [fields_of_ok _ _ (hok hf), hany, if_pos hseen]
    rfl
  | case3 seen s f s' hf hseen hclose =>
    rw [fields_of_ok _ _ (hok hf), hany, if_neg hseen, Stream.head?_move, if_pos hclose,
      Stream.tail_move, take_move]
    refine placed_bind _ fun _ => ?_
    simp only [pure, Except.pure, placed, Prod.map, List.map_reverse, List.map_cons]
  | case4 seen s f s' hf hseen hclose hstop =>
    rw [fields_of_ok _ _ (hok hf), hany, if_neg hseen, Stream.head?_move, if_neg hclose,
      Stream.isStop_move, if_pos hstop]
    exact failAt_move m _ s' rfl
  | case5 seen s f s' hf hseen hclose hstop ih =>
    rw [fields_of_ok _ _ (hok hf), hany, if_neg hseen, Stream.head?_move, if_neg hclose,
      Stream.isStop_move, if_neg hstop]
    exact ih

theorem objectType_move (text : Option String) (start : Position) (s : Stream) :
    objectType m.target text (m.position start) (s.move m) =
      placed m.placement (Prod.map (ObjectType.place m.placement) (Stream.move m))
        (objectType m.source text start s) := by
  unfold objectType
  rw [name_move]
  refine placed_bind _ ?_
  rintro ⟨⟨n, p⟩, s₁⟩
  simp only [Prod.map, id, Stream.head?_move]
  split
  · exact failAt_move m _ s₁ rfl
  · split
    · exact failAt_move m _ s₁ rfl
    · rw [punct_move]
      refine placed_bind _ fun s₂ => ?_
      have hfields := fields_move m n [] s₂
      rw [List.map_nil] at hfields
      rw [hfields]
      refine placed_bind _ ?_
      rintro ⟨fs, s₃⟩
      simp only [pure, Except.pure, placed, Prod.map, ObjectType.place, m.locate]

theorem operation_move (seen : Bool) (s : Stream) :
    operation m.target seen (s.move m) =
      placed m.placement (Prod.map (Prod.map id m.position) (Stream.move m))
        (operation m.source seen s) := by
  unfold operation
  rw [anyName_move]
  refine placed_bind _ ?_
  rintro ⟨⟨op, p⟩, s₁⟩
  simp only [Prod.map, id]
  split
  · exact congrArg Except.error (atPosition_move m p rfl)
  · split
    · exact congrArg Except.error (atPosition_move m p rfl)
    · rw [punct_move]
      exact placed_bind _ fun s₂ => name_move m _ s₂

theorem rootBlock_move (start : Position) (s : Stream) :
    rootBlock m.target (m.position start) (s.move m) =
      placed m.placement (Prod.map (RootDecl.place m.placement) (Stream.move m))
        (rootBlock m.source start s) := by
  unfold rootBlock
  rw [punct_move]
  refine placed_bind _ fun s₁ => ?_
  rw [operation_move]
  refine placed_bind _ ?_
  rintro ⟨⟨n, p⟩, s₂⟩
  simp only [Prod.map, id, Stream.head?_move, Stream.tail_move]
  split
  · rw [take_move]
    refine placed_bind _ fun _ => ?_
    simp only [pure, Except.pure, placed, Prod.map, RootDecl.place, m.locate]
  · rw [operation_move]
    refine placed_bind _ ?_
    rintro ⟨_, s₃⟩
    exact failAt_move m _ s₃ rfl

theorem definition_move (s : Stream) :
    definition m.target (s.move m) =
      placed m.placement (Prod.map (Definition.place m.placement) (Stream.move m))
        (definition m.source s) := by
  unfold definition
  rw [description_move]
  refine placed_bind _ ?_
  rintro ⟨text, s₁⟩
  rcases s₁ with q | ⟨why, q⟩ | ⟨⟨l, q⟩, rest⟩
  case next =>
    cases l with
    | name keyword =>
      simp only [Prod.map, id, Stream.move]
      split
      · rw [take_move]
        refine placed_bind _ fun _ => ?_
        rw [objectType_move]
        exact placed_bind _ fun _ => rfl
      · split
        · split
          · exact congrArg Except.error (atPosition_move m q rfl)
          · rw [take_move]
            refine placed_bind _ fun _ => ?_
            rw [rootBlock_move]
            exact placed_bind _ fun _ => rfl
        · split <;> exact congrArg Except.error (atPosition_move m q rfl)
    | _ => exact failAt_move m _ (.next ⟨_, q⟩ rest) rfl
  all_goals exact failAt_move m _ _ rfl

/-! ## Whole documents -/

/-- The ending at its new place. -/
def Ending.move : Ending → Ending
  | .complete p => .complete (m.position p)
  | .failed e => .failed (e.place m.placement)

theorem definitions_of_error {source : String} {s : Stream} {e : SchemaError}
    (hs : s.isStop = false) (h : definition source s = .error e) :
    definitions source s = ([], .failed e) := by
  unfold definitions
  split
  · cases hs
  · split <;> rename_i h' <;> rw [h] at h' <;> cases h'
    rfl

theorem definitions_of_ok {source : String} {s rest : Stream} {d : Definition}
    (hs : s.isStop = false) (h : definition source s = .ok (d, rest)) :
    definitions source s = (d :: (definitions source rest).1, (definitions source rest).2) := by
  conv => lhs; unfold definitions
  split
  · cases hs
  · split <;> rename_i h' <;> rw [h] at h' <;> cases h'
    rfl

theorem definitions_move (s : Stream) :
    definitions m.target (s.move m) =
      Prod.map (List.map (Definition.place m.placement)) (Ending.move m)
        (definitions m.source s) := by
  have hstop : ∀ s : Stream, (∀ p, s = .stop p → False) → (s.move m).isStop = false := by
    intro s hs
    cases s with
    | stop p => exact (hs p rfl).elim
    | fault why p => rfl
    | next t rest => rfl
  fun_induction definitions m.source s with
  | case1 p =>
    rw [Stream.move, definitions]
    rfl
  | case2 s e hs he =>
    have hm := definition_move m s
    rw [he] at hm
    rw [definitions_of_error (hstop s hs) hm]
    rfl
  | case3 s d rest ds ending hrest hs hd ih =>
    have hm := definition_move m s
    rw [hd] at hm
    rw [definitions_of_ok (hstop s hs) hm, ih, hrest]
    rfl

theorem ofStream_move (s : Stream) :
    ofStream m.target (s.move m) =
      Prod.map (List.map (Definition.place m.placement)) (Ending.move m)
        (ofStream m.source s) := by
  unfold ofStream
  rw [take_move]
  cases Stream.take m.source s with
  | error e => rfl
  | ok _ => exact definitions_move m s

end Document

/-! ## Collecting and building -/

namespace Collector

variable (pl : Placement)

theorem find?_place (c : Collector) (name : String) :
    (c.place pl).find? name = (c.find? name).map (ObjectType.place pl) := by
  simp only [find?, place, List.find?_map]
  rfl

theorem addType_place (c : Collector) (t : ObjectType) :
    (c.place pl).addType (t.place pl) = placed pl (place pl) (c.addType t) := by
  have hname : (t.place pl).name = t.name := rfl
  simp only [addType, hname, find?_place]
  split
  · rfl
  · cases c.find? t.name with
    | some first => rfl
    | none => simp only [Option.map_none, placed, place, List.map_append, List.map_cons,
        List.map_nil]

theorem addRoot_place (c : Collector) (r : RootDecl) :
    (c.place pl).addRoot (r.place pl) = placed pl (place pl) (c.addRoot r) := by
  have hroot : (c.place pl).root = c.root.map (RootDecl.place pl) := rfl
  simp only [addRoot, hroot]
  cases c.root <;> rfl

theorem add_place (c : Collector) (d : Definition) :
    (c.place pl).add (d.place pl) = placed pl (place pl) (c.add d) := by
  cases d with
  | object t => exact addType_place pl c t
  | root r => exact addRoot_place pl c r

/-- Moved definitions are added up to the one that is refused where they stood before. -/
theorem addAll_place (c : Collector) (ds : List Definition) :
    (c.place pl).addAll (ds.map (Definition.place pl)) =
      Prod.map (place pl) (Option.map (SchemaError.place pl)) (c.addAll ds) := by
  induction ds generalizing c with
  | nil => rfl
  | cons d ds ih =>
    simp only [List.map_cons, addAll, add_place]
    cases c.add d with
    | error e => rfl
    | ok c₁ => exact ih c₁

theorem unresolved?_place (c : Collector) (t : ObjectType) :
    (c.place pl).unresolved? (t.place pl) = (c.unresolved? t).map (SchemaError.place pl) := by
  have hfields : (t.place pl).fields = t.fields.map (Field.place pl) := rfl
  simp only [unresolved?, hfields, List.findSome?_map, find?_place, Option.isNone_map]
  induction t.fields with
  | nil => rfl
  | cons f fs ih =>
    simp only [List.findSome?_cons, Function.comp, Field.place]
    by_cases h : (f.type.scalar?.isNone && (c.find? f.type.target).isNone) = true
    · simp only [h, if_true]
      rfl
    · simp only [h]
      exact ih

theorem rootName_place (c : Collector) (first : ObjectType) :
    (c.place pl).rootName (first.place pl) = placed pl id (c.rootName first) := by
  have hroot : (c.place pl).root = c.root.map (RootDecl.place pl) := rfl
  simp only [rootName, hroot, find?_place, Option.isSome_map]
  cases c.root with
  | none => rfl
  | some r =>
    simp only [Option.map_some, RootDecl.place]
    split <;> rfl

theorem findSome?_unresolved?_place (c : Collector) (ts : List ObjectType) :
    (ts.map (ObjectType.place pl)).findSome? (c.place pl).unresolved? =
      (ts.findSome? c.unresolved?).map (SchemaError.place pl) := by
  induction ts with
  | nil => rfl
  | cons t ts ih =>
    simp only [List.map_cons, List.findSome?_cons, unresolved?_place]
    cases c.unresolved? t with
    | none => exact ih
    | some e => rfl

/-- Building does the same to what is moved. A collector without types is reported where the last
source ends, so one must have been read. -/
theorem build_place (c : Collector) (h : c.lastEnd.isSome) :
    (c.place pl).build = placed pl (Schema.place pl) c.build := by
  obtain ⟨last, hlast⟩ := Option.isSome_iff_exists.1 h
  have htypes : (c.place pl).types = c.types.map (ObjectType.place pl) := rfl
  have hend : (c.place pl).lastEnd = some (pl (some last)) := by
    simp only [place, hlast, Option.map_some]
  unfold build
  rw [htypes, findSome?_unresolved?_place, hend, hlast]
  cases c.types with
  | nil => rfl
  | cons first ts =>
    simp only [List.map_cons]
    cases (first :: ts).findSome? c.unresolved? with
    | some e => rfl
    | none =>
      simp only [Option.map_none]
      rw [rootName_place]
      refine placed_bind _ fun root => ?_
      simp only [pure, Except.pure, placed, Schema.place, List.map_cons, List.map_map, id]
      rfl

/-- Only a collector that has read no source looks at the name of the last one. -/
theorem build_lastSource (c : Collector) (source : String) (h : c.lastEnd.isSome) :
    ({ c with lastSource := source } : Collector).build = c.build := by
  obtain ⟨last, hlast⟩ := Option.isSome_iff_exists.1 h
  simp only [build, hlast]
  rfl

end Collector

end TypedQuery
