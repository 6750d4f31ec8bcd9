import TypedQuery.Proofs.Client.Calls

/-!
# Markers and selections

The signatures of a generated module count selected fields in types: a builder has an argument for
each field, `select` replaces one of them, and an accessor asks for the argument of its own field.
Beside that, a builder holds a selection. The two never disagree.

* `TypePlan.emptyArgs`, `TypePlan.selectArgs`, `Marker.admits`: the signatures, as functions.
* `Chain.typed`: the arguments of the builder that a chain of calls gives.
* `Module.markers`, `TypePlan.vector`: the arguments that a selection stands for.
* `Chain.typed_of_run`: the first are the second.
* `Chain.markers_agree`: so accessors admit exactly what is selected.
-/

namespace TypedQuery.Client

/-! ## Arguments of types -/

/-- A closed argument of a type: a marker, or a response wrapper with arguments. -/
inductive TypeArg where
  | unselected
  | selected
  | nested (of : TypeArg)
  | response (wrapper : String) (args : List TypeArg)

namespace Marker

/-- Replaces type variables by what they stand for. -/
def subst (env : Table TypeArg) : Marker → Option TypeArg
  | .any => none
  | .unselected => some .unselected
  | .selected => some .selected
  | .nested bound => (env.get? bound).map .nested
  | .param name => env.get? name

/-- Whether an argument may stand where a marker is asked for. -/
def accepts : Marker → TypeArg → Bool
  | .any, _ => true
  | .unselected, .unselected => true
  | .selected, .selected => true
  | .nested _, .nested _ => true
  | _, _ => false

/-- Whether arguments may stand where markers are asked for. -/
def admits (ms : List Marker) (args : List TypeArg) : Bool :=
  ms.length == args.length && (ms.zip args).all fun (m, a) => m.accepts a

end Marker

/-- What the type variable of a field stands for in a call of `select`: a scalar field has none, and
an object field takes a sub-selection whose answers are in the response wrapper of its type. -/
def Target.binding : Target → Option TypeArg → Option (Table TypeArg)
  | .scalar _, none => some []
  | .object _ names, some (.response wrapper args) =>
    if wrapper = names.response then some [(names.bound, .response wrapper args)] else none
  | _, _ => none

namespace TypePlan

/-- The arguments of the empty builder. -/
def emptyArgs (t : TypePlan) : Option (List TypeArg) := t.empty.mapM (Marker.subst [])

/-- The arguments of a builder after a field was selected; `answer` is the type of the answers to
the sub-selection. -/
def selectArgs (t : TypePlan) (f : FieldPlan) (args : List TypeArg) (answer : Option TypeArg) :
    Option (List TypeArg) := do
  let binding ← f.target.binding answer
  f.result.mapM (Marker.subst (t.params.zip args ++ binding))

/-- The arguments that markers by field name stand for. -/
def vector (t : TypePlan) (markers : Table TypeArg) : List TypeArg :=
  t.fields.map fun f => (markers.get? f.name).getD .unselected

end TypePlan

namespace Chain

/-- The field whose signature of `select` applies to the token that a caller passes. -/
def signature? (m : Module) (t : TypePlan) (type field : String) : Option FieldPlan :=
  match token? m type field with
  | some (.token tok) => t.fields.find? fun f => Text.unify f.tokenClass == tok.className
  | _ => none

/-- The type of the builder that the calls give: whose builder it is, and its arguments. -/
def typed (m : Module) : Chain → Option (TypePlan × List TypeArg)
  | .empty type => do
    let t ← m.type? type
    return (t, ← t.emptyArgs)
  | .select on type field _ => do
    let (t, args) ← on.typed m
    let f ← signature? m t type field
    return (t, ← t.selectArgs f args none)
  | .selectWith on type field sub => do
    let (t, args) ← on.typed m
    let f ← signature? m t type field
    let (u, inner) ← sub.typed m
    return (t, ← t.selectArgs f args (some (.response u.names.response inner)))

end Chain

/-! ## What a selection stands for -/

namespace Module

/-- The type of the answers to a selection on a type, from the markers of its fields. -/
def answer (m : Module) (type : String) (markers : Table TypeArg) : TypeArg :=
  match m.type? type with
  | some u => .response u.names.response (u.vector markers)
  | none => .response type []

/-- The markers of the selected fields. -/
def markers (m : Module) : Selection → Table TypeArg
  | .nil => []
  | .scalar name rest => (name, .selected) :: m.markers rest
  | .object name type sub rest => (name, .nested (m.answer type (m.markers sub))) :: m.markers rest

/-- The marker of a selected field. -/
def marker (m : Module) (x : SelectedField) : TypeArg :=
  match x.sub with
  | none => .selected
  | some s => .nested (m.answer s.type (m.markers s.fields))

variable (m : Module) (sel : Selection) (n : String)

theorem markers_eq_map : m.markers sel = sel.toList.map fun x => (x.name, m.marker x) := by
  induction sel with
  | nil => rfl
  | scalar name rest ih =>
    rw [markers, ih]
    rfl
  | object name type sub rest _ ih =>
    rw [markers, ih]
    rfl

theorem get?_markers : (m.markers sel).get? n = (sel.get? n).map m.marker := by
  rw [markers_eq_map, Selection.get?, ← Table.get?_map, Selection.entries, List.map_map]
  rfl

end Module

/-! ## One call -/

section

variable {plan : Plan} {m : Module} {t : TypePlan}

theorem TypePlan.getElem?_vector (t : TypePlan) (ms : Table TypeArg) (i : Nat) :
    (t.vector ms)[i]? = t.fields[i]?.map fun f => (ms.get? f.name).getD .unselected := by
  rw [vector, List.getElem?_map]

/-- The empty builder has the arguments of the empty selection. -/
theorem Plan.Coherent.emptyArgs (hc : plan.Coherent) (ht : t ∈ plan.types) :
    t.emptyArgs = some (t.vector (m.markers .nil)) := by
  refine mapM_eq_some ⟨?_, fun i a b ha hb => ?_⟩
  · rw [TypePlan.vector, TypePlan.empty, List.length_map, List.length_map, hc.params_length t ht]
  · rw [TypePlan.empty, List.getElem?_map, Option.map_eq_some_iff] at ha
    rw [TypePlan.getElem?_vector, Option.map_eq_some_iff] at hb
    obtain ⟨_, -, rfl⟩ := ha
    obtain ⟨f, -, rfl⟩ := hb
    rfl

/-- A field stands at one place. -/
theorem Plan.Coherent.index_unique (hc : plan.Coherent) (ht : t ∈ plan.types) {i j : Nat}
    {f g : FieldPlan} (hf : t.fields[i]? = some f) (hg : t.fields[j]? = some g)
    (h : f.name = g.name) : i = j := by
  refine (List.getElem?_inj ?_ (hc.fields_nodup t ht)).1 ?_
  · rw [List.length_map]
    exact (List.getElem?_eq_some_iff.1 hf).1
  · rw [List.getElem?_map, List.getElem?_map, hf, hg, Option.map_some, Option.map_some, h]

/-- Selecting a field changes the marker at its place, and no other one. -/
theorem Plan.Coherent.vector_insert (hc : plan.Coherent) (ht : t ∈ plan.types) {i : Nat}
    {f : FieldPlan} (hf : t.fields[i]? = some f) {sel : Selection} (hn : sel.names.Nodup)
    {x : SelectedField} (hx : x.name = f.name) :
    t.vector (m.markers (Builder.insert (t.fields.map FieldPlan.name) sel x)) =
      (t.vector (m.markers sel)).set i (m.marker x) := by
  apply List.ext_getElem?
  intro j
  rw [List.getElem?_set, TypePlan.getElem?_vector, TypePlan.getElem?_vector]
  cases hg : t.fields[j]? with
  | none =>
    have hij : i ≠ j := by
      rintro rfl
      rw [hf] at hg
      cases hg
    rw [if_neg hij]
    rfl
  | some g =>
    have hmem : g.name ∈ t.fields.map FieldPlan.name :=
      List.mem_map_of_mem (List.mem_of_getElem? hg)
    rw [Option.map_some, Option.map_some, Module.get?_markers, Module.get?_markers,
      Builder.get?_insert hn hmem]
    by_cases hij : i = j
    · subst hij
      rw [hf] at hg
      cases hg
      have hlt : i < (t.vector (m.markers sel)).length := by
        rw [TypePlan.vector, List.length_map]
        exact (List.getElem?_eq_some_iff.1 hf).1
      rw [if_pos hx, if_pos rfl, if_pos hlt]
      rfl
    · have hne : x.name ≠ g.name := by
        rw [hx]
        intro he
        exact hij (hc.index_unique ht hf hg he)
      rw [if_neg hne, if_neg hij]

theorem Plan.Coherent.params_nodup (hc : plan.Coherent) (ht : t ∈ plan.types) :
    t.params.Nodup := by
  obtain ⟨-, -, -, hparams, -, -⟩ := hc.distinct
  rw [hc.params t ht]
  exact (List.take_sublist _ _).nodup hparams

/-- No bound is a type parameter, so replacing one leaves the others alone. -/
theorem Plan.Coherent.bound_not_mem (hc : plan.Coherent) {u : TypePlan} (hu : u ∈ plan.types)
    (ht : t ∈ plan.types) : u.names.bound ∉ t.params := by
  obtain ⟨-, -, -, -, -, hbounds⟩ := hc.distinct
  intro hmem
  rw [hc.params t ht] at hmem
  exact hbounds u hu (List.mem_of_mem_take hmem)

/-- A type parameter stands for the argument at its place. -/
theorem get?_zip_params {params : List String} {args : List TypeArg} {rest : Table TypeArg}
    (hn : params.Nodup) {i : Nat} {p : String} {a : TypeArg} (hp : params[i]? = some p)
    (ha : args[i]? = some a) : Table.get? (params.zip args ++ rest) p = some a := by
  induction params generalizing args i with
  | nil => cases hp
  | cons q params ih =>
    obtain ⟨hq, hn⟩ := List.nodup_cons.1 hn
    cases args with
    | nil => cases ha
    | cons b args =>
      rw [List.zip_cons_cons, List.cons_append, Table.get?]
      cases i with
      | zero =>
        cases hp
        cases ha
        exact if_pos rfl
      | succ i =>
        have hne : q ≠ p := fun he => hq (he ▸ List.mem_of_getElem? hp)
        rw [if_neg hne]
        exact ih hn hp ha

theorem get?_append_of_not_mem {xs ys : Table TypeArg} {n : String} (h : n ∉ xs.names) :
    Table.get? (xs ++ ys) n = ys.get? n := by
  induction xs with
  | nil => rfl
  | cons e xs ih =>
    obtain ⟨hne, hrest⟩ := not_or.1 fun hm => h (List.mem_cons.2 hm)
    rw [List.cons_append, Table.get?, if_neg (Ne.symm hne)]
    exact ih hrest

/-- The signature of `select` for a field replaces the argument at the place of the field. -/
theorem Plan.Coherent.selectArgs_set (hc : plan.Coherent) (ht : t ∈ plan.types) {i : Nat}
    {f : FieldPlan} (hf : t.fields[i]? = some f) {args : List TypeArg}
    (hlen : args.length = t.params.length) {answer : Option TypeArg} {b : Table TypeArg}
    (hb : f.target.binding answer = some b) {a : TypeArg}
    (ha : Marker.subst (t.params.zip args ++ b) f.target.marker = some a) :
    t.selectArgs f args answer = some (args.set i a) := by
  have hmap : f.result.mapM (Marker.subst (t.params.zip args ++ b)) = some (args.set i a) := by
    rw [hc.result t ht i f hf]
    refine mapM_eq_some ⟨?_, fun j x y hx hy => ?_⟩
    · rw [List.length_set, List.length_set, List.length_map, hlen]
    · rw [List.getElem?_set] at hx hy
      by_cases hij : i = j
      · subst hij
        have hi : i < t.params.length := by
          rw [hc.params_length t ht]
          exact (List.getElem?_eq_some_iff.1 hf).1
        rw [if_pos rfl, if_pos (by rwa [List.length_map])] at hx
        rw [if_pos rfl, if_pos (by omega)] at hy
        cases hx
        cases hy
        exact ha
      · rw [if_neg hij, List.getElem?_map, Option.map_eq_some_iff] at hx
        rw [if_neg hij] at hy
        obtain ⟨p, hp, rfl⟩ := hx
        exact get?_zip_params (hc.params_nodup ht) hp hy
  rw [TypePlan.selectArgs, hb]
  exact hmap

/-- A scalar field is marked as selected. -/
theorem Plan.Coherent.selectArgs_scalar (hc : plan.Coherent) (ht : t ∈ plan.types) {i : Nat}
    {f : FieldPlan} (hf : t.fields[i]? = some f) {args : List TypeArg}
    (hlen : args.length = t.params.length) {k : Scalar} (hk : f.target = .scalar k) :
    t.selectArgs f args none = some (args.set i .selected) := by
  refine hc.selectArgs_set ht hf hlen (b := []) ?_ ?_
  · rw [hk]
    rfl
  · rw [hk]
    rfl

/-- An object field is marked with the type of the answers to its sub-selection. -/
theorem Plan.Coherent.selectArgs_object (hc : plan.Coherent) (ht : t ∈ plan.types) {i : Nat}
    {f : FieldPlan} (hf : t.fields[i]? = some f) {args : List TypeArg}
    (hlen : args.length = t.params.length) {u : TypePlan} (hu : u ∈ plan.types) {n : String}
    (htarget : f.target = .object n u.names) (inner : List TypeArg) :
    t.selectArgs f args (some (.response u.names.response inner)) =
      some (args.set i (.nested (.response u.names.response inner))) := by
  refine hc.selectArgs_set ht hf hlen (b := [(u.names.bound, .response u.names.response inner)])
    ?_ ?_
  · rw [htarget]
    exact if_pos rfl
  · have hbound : u.names.bound ∉ Table.names (t.params.zip args) := by
      rw [Table.names, List.map_fst_zip (Nat.le_of_eq hlen.symm)]
      exact hc.bound_not_mem hu ht
    rw [htarget, Target.marker, Marker.subst, get?_append_of_not_mem hbound, Table.get?, if_pos rfl]
    rfl

/-- An accessor looks only at the argument of its own field. -/
theorem Plan.Coherent.admits_owner (hc : plan.Coherent) (ht : t ∈ plan.types) {i : Nat}
    {f : FieldPlan} (hf : t.fields[i]? = some f) {args : List TypeArg}
    (hlen : args.length = t.params.length) {a : TypeArg} (ha : args[i]? = some a) :
    Marker.admits f.owner args = f.target.marker.accepts a := by
  have hi : i < t.params.length := by
    rw [← hlen]
    exact (List.getElem?_eq_some_iff.1 ha).1
  rw [hc.owner t ht i f hf, Bool.eq_iff_iff, Marker.admits, Bool.and_eq_true, List.all_eq_true]
  constructor
  · rintro ⟨-, hall⟩
    refine hall (f.target.marker, a) (List.mem_iff_getElem?.2 ⟨i, ?_⟩)
    rw [List.getElem?_zip_eq_some, List.getElem?_set, if_pos rfl, if_pos (by rwa [List.length_map])]
    exact ⟨rfl, ha⟩
  · intro hacc
    refine ⟨by simp [hlen], ?_⟩
    rintro ⟨x, y⟩ he
    obtain ⟨j, hj⟩ := List.mem_iff_getElem?.1 he
    obtain ⟨hx, hy⟩ := List.getElem?_zip_eq_some.1 hj
    rw [List.getElem?_set] at hx
    by_cases hij : i = j
    · subst hij
      rw [if_pos rfl, if_pos (by rwa [List.length_map])] at hx
      rw [ha] at hy
      rw [← show f.target.marker = x from Option.some.inj hx, ← show a = y from Option.some.inj hy]
      exact hacc
    · rw [if_neg hij, List.getElem?_map, Option.map_eq_some_iff] at hx
      obtain ⟨_, -, hany⟩ := hx
      rw [← show Marker.any = x from hany]
      rfl

/-- The signature of `select` that applies to the token of a field is the one for this field. -/
theorem Plan.Coherent.signature? (hc : plan.Coherent) (ht : t ∈ plan.types) {f : FieldPlan}
    (hf : f ∈ t.fields) {type field : String}
    (htoken : Chain.token? m type field = some (.token (f.token t))) :
    Chain.signature? m t type field = some f := by
  have hsome : (t.fields.find? fun g => Text.unify g.tokenClass ==
      (f.token t).className).isSome := by
    rw [List.find?_isSome]
    exact ⟨f, hf, beq_self_eq_true (Text.unify f.tokenClass)⟩
  obtain ⟨g, hg⟩ := Option.isSome_iff_exists.1 hsome
  have hmem := List.mem_of_find?_eq_some hg
  have hclass : Text.unify g.tokenClass = Text.unify f.tokenClass := by
    simpa [FieldPlan.token] using List.find?_some hg
  rw [Text.unify_of_isAscii ((hc.ascii t ht).tokenClass g hmem),
    Text.unify_of_isAscii ((hc.ascii t ht).tokenClass f hf)] at hclass
  rw [Chain.signature?, htoken]
  rw [List.inj_on_of_nodup_map (hc.tokenClass_nodup ht) hmem hf hclass] at hg
  exact hg

end

/-! ## Chains of calls -/

namespace Chain

variable {s : Schema} {plan : Plan} {m : Module}

theorem length_vector (hc : plan.Coherent) {t : TypePlan} (ht : t ∈ plan.types)
    (ms : Table TypeArg) : (t.vector ms).length = t.params.length := by
  rw [TypePlan.vector, List.length_map, hc.params_length t ht]

/-- Selecting a scalar field changes the arguments as it changes the selection. -/
theorem typed_select (hc : plan.Coherent) {t : TypePlan} (ht : t ∈ plan.types) {f : FieldPlan}
    (hf : f ∈ t.fields) {on : Chain} {type field : String} {null : Bool}
    (htoken : token? m type field = some (.token (f.token t)))
    (hscalar : f.target.isObject = false) {sel : Selection} (hn : sel.names.Nodup)
    (hon : on.typed m = some (t, t.vector (m.markers sel))) :
    (Chain.select on type field null).typed m = some (t, t.vector (m.markers
      (Builder.insert (t.fields.map FieldPlan.name) sel ⟨f.name, none⟩))) := by
  obtain ⟨i, hi⟩ := List.mem_iff_getElem?.1 hf
  rcases hk : f.target with k | ⟨n, names⟩
  · have hargs := hc.selectArgs_scalar ht hi (length_vector hc ht (m.markers sel)) hk
    rw [typed, hon, hc.vector_insert ht hi hn rfl]
    simp only [Option.bind_eq_bind, Option.bind_some, hc.signature? ht hf htoken, hargs]
    rfl
  · rw [hk] at hscalar
    cases hscalar

/-- So does selecting an object field, with the type of the answers to its sub-selection. -/
theorem typed_selectWith (hc : plan.Coherent) (h : Module.ofPlan plan = .ok m) {t : TypePlan}
    (ht : t ∈ plan.types) {f : FieldPlan} (hf : f ∈ t.fields) {on sub : Chain}
    {type field : String} (htoken : token? m type field = some (.token (f.token t)))
    {u : TypePlan} (hu : u ∈ plan.types) {names : TypeNames}
    (htarget : f.target = .object u.name names) {sel inner : Selection} (hn : sel.names.Nodup)
    (hon : on.typed m = some (t, t.vector (m.markers sel)))
    (hsub : sub.typed m = some (u, u.vector (m.markers inner))) :
    (Chain.selectWith on type field sub).typed m = some (t, t.vector (m.markers
      (Builder.insert (t.fields.map FieldPlan.name) sel ⟨f.name, some ⟨u.name, inner⟩⟩))) := by
  obtain ⟨i, hi⟩ := List.mem_iff_getElem?.1 hf
  obtain ⟨v, hv, hvname, rfl⟩ := hc.target t ht f hf _ names htarget
  obtain rfl := hc.type_unique hv hu hvname
  have hargs := hc.selectArgs_object ht hi (length_vector hc ht (m.markers sel)) hu htarget
    (v.vector (m.markers inner))
  have hmarker : m.marker ⟨f.name, some ⟨v.name, inner⟩⟩ =
      .nested (.response v.names.response (v.vector (m.markers inner))) := by
    show TypeArg.nested (m.answer v.name (m.markers inner)) = _
    rw [Module.answer, Module.type?_of_mem hc h hu]
  rw [typed, hon, hc.vector_insert ht hi hn rfl, hmarker]
  simp only [Option.bind_eq_bind, Option.bind_some, hc.signature? ht hf htoken, hsub, hargs]
  rfl

/-- The type of a builder has the arguments that its selection stands for. -/
theorem typed_of_run (hw : s.WellFormed) (hs : Plan.ofSchema s = .ok plan)
    (h : Module.ofPlan plan = .ok m) {c : Chain} {b : Builder} (hb : c.run m = some b) :
    ∃ t ∈ plan.types, b.cls = t.builderClass ∧
      c.typed m = some (t, t.vector (m.markers b.fields)) := by
  have hc := Plan.coherent_of_ofSchema hw hs
  have hnodup : ∀ {c : Chain} {b : Builder}, c.run m = some b → b.fields.names.Nodup := by
    intro c b hb
    obtain ⟨o, p, hp, -, hsel⟩ := selects_of_run hw hs h hb
    exact hsel.names_nodup (hw.types_wellFormed o hp.object)
  induction c generalizing b with
  | empty type =>
    obtain ⟨t, ht, htype, rfl⟩ := run_empty hc h hb
    refine ⟨t, ht, rfl, ?_⟩
    rw [typed, htype, Option.bind_eq_bind, Option.bind_some, hc.emptyArgs ht]
    rfl
  | select on type field null ih =>
    obtain ⟨b, hon, t, ht, f, hf, htype, htoken, hscalar, rfl⟩ := run_select h hb
    obtain ⟨u, hu, hcls, htyped⟩ := ih hon
    obtain rfl := hc.type_unique hu ht (by rw [htype, hcls]; rfl)
    refine ⟨u, hu, hcls, ?_⟩
    rw [hcls]
    exact typed_select hc hu hf htoken hscalar (hnodup hon) htyped
  | selectWith on type field sub ih ihsub =>
    obtain ⟨b, q, hon, hq, t, ht, f, hf, htype, htoken, ⟨names, htarget⟩, -, rfl⟩ :=
      run_selectWith h hb
    obtain ⟨u, hu, hcls, htyped⟩ := ih hon
    obtain ⟨v, hv, hqcls, hqtyped⟩ := ihsub hq
    obtain rfl := hc.type_unique hu ht (by rw [htype, hcls]; rfl)
    refine ⟨u, hu, hcls, ?_⟩
    rw [hqcls] at htarget
    rw [hcls, Builder.selectionSet, hqcls]
    exact typed_selectWith hc h hu hf htoken hv htarget (hnodup hon) htyped hqtyped

/-- The type of a builder, as the builder of `t` with arguments, agrees with what the builder has
selected. -/
structure Agrees (m : Module) (b : Builder) (t : TypePlan) (args : List TypeArg) : Prop where
  cls : b.cls = t.builderClass
  length_eq : args.length = t.fields.length
  /-- An accessor admits the arguments exactly if its field is selected. -/
  admits_iff : ∀ (i : Nat) (f : FieldPlan), t.fields[i]? = some f →
    (Marker.admits f.owner args = true ↔ f.name ∈ b.selectionSet.fieldNames)
  /-- The argument of a selected object field is the type of the answers to the very sub-selection
  that is stored. -/
  nested : ∀ (i : Nat) (f : FieldPlan), t.fields[i]? = some f → f.target.isObject = true →
    f.name ∈ b.selectionSet.fieldNames → ∃ sub u, ⟨f.name, some sub⟩ ∈ b.fields.toList ∧
      m.type? sub.type = some u ∧ f.target = .object sub.type u.names ∧
      args[i]? = some (.nested (.response u.names.response (u.vector (m.markers sub.fields))))

/-- The argument that a selection stands for at the place of a field. -/
theorem getElem?_vector_markers {t : TypePlan} {i : Nat} {f : FieldPlan}
    (hf : t.fields[i]? = some f) (sel : Selection) : (t.vector (m.markers sel))[i]? =
      some (((sel.get? f.name).map m.marker).getD .unselected) := by
  rw [TypePlan.getElem?_vector, hf, Option.map_some, Module.get?_markers]

/-- An accessor admits the arguments of a selection exactly if its field is selected. -/
theorem admits_vector_iff (hc : plan.Coherent) {o : ObjectType} {t : TypePlan}
    (hpair : Plan.Pairs s plan o t) {sel : Selection} (hsel : s.Selects o sel) {i : Nat}
    {f : FieldPlan} (hf : t.fields[i]? = some f) :
    Marker.admits f.owner (t.vector (m.markers sel)) = true ↔ f.name ∈ sel.names := by
  rw [hc.admits_owner hpair.type hf (length_vector hc hpair.type _)
    (getElem?_vector_markers hf sel), ← Selection.get?_isSome]
  cases hx : sel.get? f.name with
  | none => cases f.target <;> simp [Target.marker, Marker.accepts]
  | some x =>
    rcases hpair.selected_cases hc hsel (Selection.mem_of_get? hx) (List.mem_of_getElem? hf)
      (Selection.name_of_get? hx).symm with ⟨k, -, htarget, hsub⟩ | ⟨sub, u, -, hsub, -, htarget⟩
    · simp [htarget, Target.marker, Module.marker, hsub, Marker.accepts]
    · simp [htarget, Target.marker, Module.marker, hsub, Marker.accepts]

/-- The argument of a selected object field says what its sub-selection is. -/
theorem exists_nested_vector (hc : plan.Coherent) (h : Module.ofPlan plan = .ok m)
    {o : ObjectType} {t : TypePlan} (hpair : Plan.Pairs s plan o t) {sel : Selection}
    (hsel : s.Selects o sel) {i : Nat} {f : FieldPlan} (hf : t.fields[i]? = some f)
    (hobject : f.target.isObject = true) (hselected : f.name ∈ sel.names) :
    ∃ sub u, ⟨f.name, some sub⟩ ∈ sel.toList ∧ m.type? sub.type = some u ∧
      f.target = .object sub.type u.names ∧ (t.vector (m.markers sel))[i]? =
        some (.nested (.response u.names.response (u.vector (m.markers sub.fields)))) := by
  obtain ⟨x, hx⟩ := Option.isSome_iff_exists.1 (Selection.get?_isSome.2 hselected)
  have hmem := Selection.mem_of_get? hx
  have hname : x.name = f.name := Selection.name_of_get? hx
  rcases hpair.selected_cases hc hsel hmem (List.mem_of_getElem? hf) hname.symm with
    ⟨k, -, htarget, -⟩ | ⟨sub, u, hu, hsub, huname, htarget⟩
  · rw [htarget] at hobject
    cases hobject
  · have hutype : m.type? sub.type = some u := huname ▸ Module.type?_of_mem hc h hu
    refine ⟨sub, u, ?_, hutype, htarget, ?_⟩
    · rw [← hname, ← hsub]
      exact hmem
    · rw [getElem?_vector_markers hf, hx, Option.map_some, Option.getD_some, Module.marker, hsub]
      simp only [Module.answer, hutype]

/-- The arguments that a selection stands for agree with it. -/
theorem agrees_vector (hc : plan.Coherent) (h : Module.ofPlan plan = .ok m) {o : ObjectType}
    {t : TypePlan} (hpair : Plan.Pairs s plan o t) {b : Builder} (hcls : b.cls = t.builderClass)
    (hsel : s.Selects o b.fields) : Agrees m b t (t.vector (m.markers b.fields)) := by
  refine ⟨hcls, by rw [TypePlan.vector, List.length_map], fun i f hf => ?_,
    fun i f hf hobject hselected => ?_⟩
  · rw [Builder.selectionSet, Selection.mem_fieldNames]
    exact admits_vector_iff hc hpair hsel hf
  · rw [Builder.selectionSet, Selection.mem_fieldNames] at hselected
    exact exists_nested_vector hc h hpair hsel hf hobject hselected

/-- **Types and values agree.** Take a schema that a collector has built and the module of its plan.
Whatever calls a caller makes, if all of them succeed, the signatures give the builder a type, and
this type agrees with what the builder has selected. -/
theorem markers_agree (calls : List Collector.Call) (s : Schema) (hs : s ∈ Collector.built {} calls)
    (plan : Plan) (hp : Plan.ofSchema s = .ok plan) (m : Module)
    (hm : Module.ofPlan plan = .ok m) (c : Chain) (b : Builder) (hb : c.run m = some b) :
    ∃ t ∈ plan.types, ∃ args, c.typed m = some (t, args) ∧ Agrees m b t args := by
  have hw := Collector.wellFormed_of_mem_built hs
  have hc := Plan.coherent_of_ofSchema hw hp
  obtain ⟨t, ht, hcls, htyped⟩ := typed_of_run hw hp hm hb
  obtain ⟨o, p, hpair, hcls', hsel⟩ := selects_of_run hw hp hm hb
  obtain rfl := hc.type_unique ht hpair.type
    (congrArg BuilderClass.type (hcls.symm.trans hcls'))
  exact ⟨t, ht, _, htyped, agrees_vector hc hm hpair hcls hsel⟩

/-- A field selected twice, the second time with another sub-selection. -/
theorem markers_agree_reselected :
    let calls := [.addSource "a" "type Query \x7b n: Int q: Query \x7d", .build]
    let leaf := Chain.select (.empty "Query") "Query" "n" true
    let c := Chain.selectWith (.selectWith leaf "Query" "q" leaf) "Query" "q"
      (.selectWith (.empty "Query") "Query" "q" leaf)
    ∃ s plan m b, s ∈ Collector.built {} calls ∧ Plan.ofSchema s = .ok plan ∧
      Module.ofPlan plan = .ok m ∧ c.run m = some b ∧
      ∃ t ∈ plan.types, ∃ args, c.typed m = some (t, args) ∧ Agrees m b t args := by
  intro calls leaf c
  have hrun : ((Collector.built {} calls).head?.bind fun s => (Plan.ofSchema s).toOption.bind
      fun plan => (Module.ofPlan plan).toOption.bind fun m => c.run m).isSome = true := by
    decide +kernel
  obtain ⟨b, hb⟩ := Option.isSome_iff_exists.1 hrun
  simp only [Option.bind_eq_some_iff, toOption_eq_some] at hb
  obtain ⟨s, hs, plan, hp, m, hm, hb⟩ := hb
  have hs := List.mem_of_head? hs
  exact ⟨s, plan, m, b, hs, hp, hm, hb, markers_agree calls s hs plan hp m hm c b hb⟩

end Chain

end TypedQuery.Client
