import TypedQuery.Client.Generate
import TypedQuery.Proofs.Client.Answering
import TypedQuery.Proofs.Client.Spelling

/-!
# When a module can be generated

Names can be declared and literals end where they should, whatever a schema says. So the one thing
that can be wrong with the text of a module is how deep its brackets nest, and they nest deepest
where a response wrapper names the decoder of a field.

* `TypeRef.nesting`: how deep brackets nest in the decoder of a type.
* `Line.Sound`: what holds of every line of a module.
* `Layout.sound_lines`: it does.
* `generate_invalid_iff_deep`: when generating a module fails.
-/

namespace TypedQuery

/-- How deep brackets nest in the decoder of a type, at a position that may be null or not. Each
list takes a bracket, the innermost type takes one, and so does each position that may be null. -/
def TypeRef.nesting : TypeRef → Bool → Nat
  | .nonNull r, _ => r.nesting false
  | .list r, null => 1 + r.nesting true + null.toNat
  | .named _, null => 1 + null.toNat

namespace Client

/-! ## Brackets -/

namespace Nesting

@[simp] theorem items_nil (n : Nesting) : n.items [] = n := rfl

@[simp] theorem items_cons (n : Nesting) (i : Item) (is : List Item) :
    n.items (i :: is) = (n.item i).items is := rfl

@[simp] theorem items_append (n : Nesting) (is js : List Item) :
    n.items (is ++ js) = (n.items is).items js := List.foldl_append

/-- All brackets in `is` are closed there, and they nest `k` deep. -/
def Rises (is : List Item) (k : Nat) : Prop :=
  ∀ n : Nesting, n.depth ≤ n.peak → n.items is = ⟨n.depth, max n.peak (n.depth + k)⟩

theorem rises_zero {is : List Item} (h : ∀ n : Nesting, n.items is = n) : Rises is 0 := by
  intro n hn
  rw [h n, Nat.add_zero, Nat.max_eq_left hn]

theorem Rises.append {is js : List Item} {j k : Nat} (hj : Rises is j) (hk : Rises js k) :
    Rises (is ++ js) (max j k) := by
  intro n hn
  rw [items_append, hj n hn, hk _ (by simp only; omega)]
  simp only [mk.injEq, true_and]
  omega

/-- Code that opens a bracket, and code that closes it. -/
theorem Rises.wrap {is : List Item} {k : Nat} (h : Rises is k) {left right : String}
    (hleft : ∀ n : Nesting, n.item (.code left) = ⟨n.depth + 1, max n.peak (n.depth + 1)⟩)
    (hright : ∀ n : Nesting, n.item (.code right) = ⟨n.depth - 1, n.peak⟩) :
    Rises (.code left :: is ++ [.code right]) (k + 1) := by
  intro n hn
  rw [List.cons_append, items_cons, hleft, items_append, h _ (by simp only; omega), items_cons,
    hright]
  simp only [items_nil, mk.injEq]
  omega

/-- Parts with commas between them. -/
theorem exists_rises_commas {xs : List (List Item)} {b : Nat} (h : ∀ x ∈ xs, ∃ k ≤ b, Rises x k) :
    ∃ k ≤ b, Rises (Source.commas xs) k := by
  fun_induction Source.commas xs with
  | case1 => exact ⟨0, Nat.zero_le b, rises_zero fun n => rfl⟩
  | case2 x => exact h x (List.mem_singleton_self x)
  | case3 x y rest ih =>
    obtain ⟨j, hj, hx⟩ := h x (List.mem_cons_self ..)
    obtain ⟨k, hk, hrest⟩ := ih fun z hz => h z (List.mem_cons_of_mem _ hz)
    have hcomma : Rises [.code ", "] 0 := rises_zero fun n => by simp [item, char]
    exact ⟨max j (max 0 k), by omega, hx.append (hcomma.append hrest)⟩

theorem rises_commas {xs : List (List Item)} (h : ∀ x ∈ xs, Rises x 0) :
    Rises (Source.commas xs) 0 := by
  obtain ⟨k, hk, hrise⟩ := exists_rises_commas fun x hx => ⟨0, Nat.le_refl 0, h x hx⟩
  rwa [Nat.le_zero.1 hk] at hrise

end Nesting

open Nesting (Rises)

theorem Marker.exists_rises_items (m : Marker) : ∃ k ≤ 1, Rises m.items k := by
  cases m with
  | nested bound =>
    have hname : Rises [.name bound] 0 := Nesting.rises_zero fun n => rfl
    refine ⟨1, Nat.le_refl 1, hname.wrap (fun n => ?_) (fun n => ?_)⟩ <;>
      simp [Nesting.item, Nesting.char]
  | _ =>
    refine ⟨0, Nat.zero_le 1, Nesting.rises_zero fun n => ?_⟩
    simp [items, Nesting.item, Nesting.char]

theorem Marker.exists_rises_list (ms : List Marker) : ∃ k ≤ 1, Rises (Marker.list ms) k := by
  refine Nesting.exists_rises_commas fun x hx => ?_
  obtain ⟨m, -, rfl⟩ := List.mem_map.1 hx
  exact m.exists_rises_items

theorem TypePlan.rises_paramList (t : TypePlan) : Rises t.paramList 0 := by
  refine Nesting.rises_commas fun x hx => ?_
  obtain ⟨m, hm, rfl⟩ := List.mem_map.1 hx
  obtain ⟨n, -, rfl⟩ := List.mem_map.1 hm
  exact Nesting.rises_zero fun n => rfl

theorem DecoderExpr.rises_items (d : DecoderExpr) : Rises d.items d.depth := by
  induction d with
  | nullable d ih =>
    refine ih.wrap (fun n => ?_) (fun n => ?_) <;> simp [Nesting.item, Nesting.char]
  | list d ih =>
    refine ih.wrap (fun n => ?_) (fun n => ?_) <;> simp [Nesting.item, Nesting.char]
  | primitive kind =>
    have hkind : Rises [.code kind.name] 0 := Nesting.rises_zero fun n => by
      cases kind <;> simp [Primitive.name, Nesting.item, Nesting.char]
    refine hkind.wrap (fun n => ?_) (fun n => ?_) <;> simp [Nesting.item, Nesting.char]
  | object response =>
    have hname : Rises [.quoted response] 0 := Nesting.rises_zero fun n => rfl
    refine hname.wrap (fun n => ?_) (fun n => ?_) <;> simp [Nesting.item, Nesting.char]

theorem DecoderExpr.depth_ofRefAt {leaf : DecoderExpr} (h : leaf.depth = 1) (null : Bool)
    (r : TypeRef) : (ofRefAt leaf null r).depth = r.nesting null := by
  induction r generalizing null with
  | named name => cases null <;> simp [ofRefAt, nullableIf, depth, TypeRef.nesting, h]
  | list r ih => cases null <;> simp [ofRefAt, nullableIf, depth, TypeRef.nesting, ih, Nat.add_comm]
  | nonNull r ih => exact ih false

/-- The type of a field's values nests one bracket less than its decoder. -/
theorem ValueType.exists_rises_ofRefAt {leaf : ValueType} (h : Rises leaf.items 0) (null : Bool)
    (r : TypeRef) : ∃ k, k + 1 = r.nesting null ∧ Rises (ofRefAt leaf null r).items k := by
  have hoptional : ∀ {v : ValueType} {k : Nat} (null : Bool), Rises v.items k →
      Rises (optionalIf null v).items (k + null.toNat) := by
    intro v k null hv
    cases null with
    | false => exact hv
    | true =>
      refine hv.wrap (fun n => ?_) (fun n => ?_) <;> simp [Nesting.item, Nesting.char]
  induction r generalizing null with
  | named name => exact ⟨0 + null.toNat, by simp [TypeRef.nesting, Nat.add_comm], hoptional null h⟩
  | list r ih =>
    obtain ⟨k, hk, hr⟩ := ih true
    refine ⟨k + 1 + null.toNat, by simp only [TypeRef.nesting, ← hk]; omega, hoptional null ?_⟩
    refine hr.wrap (fun n => ?_) (fun n => ?_) <;> simp [Nesting.item, Nesting.char]
  | nonNull r ih => exact ih false

/-! ## Literals -/

namespace Docstring

theorem closes_of_isClean {cs : List Char} (h : cs.all isClean = true) : closes cs = true :=
  closes_iff.2 (run_of_isClean h)

theorem isClean_around {before name after : String} (h : IsName name)
    (hbefore : before.toList.all isClean = true) (hafter : after.toList.all isClean = true) :
    (before ++ name ++ after).toList.all isClean = true := by
  simp only [String.toList_append, List.all_append, hbefore, isClean_of_isWord h.isWord, hafter,
    Bool.and_self]

theorem isClean_render {r : TypeRef} (h : IsName r.target) :
    r.render.toList.all isClean = true := by
  induction r with
  | named name => exact isClean_of_isWord h.isWord
  | list r ih => simp [TypeRef.render, ih h, isClean]
  | nonNull r ih => simp [TypeRef.render, ih h, isClean]

end Docstring

theorem Item.isPlain_append (s s' : String) :
    isPlain (s ++ s') = (isPlain s && isPlain s') := by
  simp only [isPlain, String.toList_append, List.all_append]

theorem Line.isPlain_text {l : Line} (h : ∀ i ∈ l, Item.isPlain i.text = true) :
    Item.isPlain l.text = true := by
  rw [Item.isPlain, text, String.toList_join, List.all_flatMap, List.all_map]
  exact List.all_eq_true.2 h

theorem Source.forall_mem_commas {P : Item → Prop} {xs : List (List Item)}
    (hcomma : P (.code ", ")) (h : ∀ x ∈ xs, ∀ i ∈ x, P i) : ∀ i ∈ commas xs, P i := by
  fun_induction commas xs with
  | case1 => simp
  | case2 x => exact h x (List.mem_singleton_self x)
  | case3 x y rest ih =>
    obtain ⟨hx, hrest⟩ := List.forall_mem_cons.1 h
    exact List.forall_mem_append.2 ⟨hx, List.forall_mem_cons.2 ⟨hcomma, ih hrest⟩⟩

/-! ## Lines -/

/-- All parts of a line are what they are meant to be. Brackets nest three deep, or no deeper than
in the line that names the decoder of one of the fields `fs`. -/
structure Line.Sound (fs : List FieldPlan) (l : Line) : Prop where
  valid : l.all Item.isValid = true
  peak : l.peak ≤ 3 ∨ ∃ f ∈ fs, l.peak ≤ (Layout.accessorLine f).peak

namespace Layout

open Docstring (isClean)

variable {fs : List FieldPlan} {t : TypePlan} {f : FieldPlan}

theorem sound_blank : blank.Sound fs := ⟨rfl, .inl (by decide)⟩

theorem sound_fixed {text : String} (h : (fixed text).peak ≤ 3) : (fixed text).Sound fs :=
  ⟨rfl, .inl h⟩

theorem sound_literal {text n : String} (hn : IsName n) (h : (fixed text).peak ≤ 3) :
    Line.Sound fs [.code text, .literal n] :=
  ⟨by simp [Item.isValid, Item.isPlain_of_isWord hn.isWord], .inl h⟩

theorem sound_docstring {text s : String} (hs : Docstring.closes s.toList = true)
    (h : (fixed text).peak ≤ 3) : Line.Sound fs [.code text, .docstring s] :=
  ⟨by simp [Item.isValid, hs], .inl h⟩

theorem sound_header (hroot : t.Spelled) : (header t).Sound fs := by
  have hattr : ((t.fields.head?.map FieldPlan.attr).getD "").toList.all isClean = true := by
    cases hfields : t.fields with
    | nil => rfl
    | cons f fs =>
      have hf := hroot.fields f (hfields ▸ List.mem_cons_self ..)
      exact Docstring.isClean_of_isWord hf.attr.isName.isWord
  refine ⟨?_, .inl (by simp [Line.peak, header, Nesting.item])⟩
  simp only [header, List.all_cons, List.all_nil, Item.isValid, Bool.and_true]
  refine Docstring.closes_of_isClean ?_
  simp only [String.toList_append, List.all_append, hattr,
    Docstring.isClean_of_isWord hroot.name.isWord,
    Docstring.isClean_of_isWord hroot.names.builder.isName.isWord,
    Docstring.isClean_of_isWord hroot.names.tokens.isName.isWord]
  split <;> decide

theorem sound_imports (text : String) : ∀ l ∈ imports (.clause text true), l.Sound fs := by
  have hline : Line.Sound fs [.code "import ", .clause text true, .code " as _rt"] :=
    ⟨rfl, .inl (by simp [Line.peak, Nesting.item, Nesting.char])⟩
  simp only [imports, List.forall_mem_cons]
  exact ⟨sound_fixed (by decide), sound_blank, sound_fixed (by decide), sound_blank, hline, by simp⟩

theorem sound_exports {types : List TypePlan} (h : ∀ t ∈ types, t.Spelled) :
    (exports types).Sound fs := by
  have hname : ∀ n ∈ exported types, Item.isPlain n = true := by
    intro n hn
    simp only [exported, Sorting.byName, Sorting.mem_sort, List.mem_flatMap] at hn
    obtain ⟨t, ht, hn⟩ := hn
    have hnames := (h t ht).names
    simp only [List.mem_cons, List.not_mem_nil, or_false] at hn
    rcases hn with rfl | rfl | rfl
    · exact Item.isPlain_of_isWord hnames.tokens.isName.isWord
    · exact Item.isPlain_of_isWord hnames.builder.isName.isWord
    · exact Item.isPlain_of_isWord hnames.response.isName.isWord
  have hpeak : ∀ (ns : List String) (n : Nesting), n.items (ns.flatMap fun x =>
      [.code "    ", .literal x, .code ",\n"]) = n := by
    intro ns n
    induction ns with
    | nil => rfl
    | cons x ns ih => simpa [Nesting.item, Nesting.char] using ih
  refine ⟨?_, .inl ?_⟩
  · simp only [exports, List.cons_append, List.all_cons, List.all_append, List.all_flatMap,
      List.all_nil, Item.isValid, Bool.true_and, Bool.and_true]
    simpa using hname
  · simp [Line.peak, exports, hpeak, Nesting.item, Nesting.char]

theorem sound_typeVar {n : String} (h : Declarable n) : (typeVar n).Sound fs := by
  refine ⟨?_, .inl (by simp [Line.peak, typeVar, Nesting.item, Nesting.char])⟩
  simp [typeVar, Item.isValid, h.isValid, Item.isPlain_of_isWord h.isName.isWord]

theorem sound_boundVar (ht : t.Spelled) : (boundVar t).Sound fs := by
  have hany : Item.isPlain (Line.text (Marker.list t.any)) = true := by
    refine Line.isPlain_text (Source.forall_mem_commas (by decide) fun x hx i hi => ?_)
    obtain ⟨m, hm, rfl⟩ := List.mem_map.1 hx
    obtain ⟨-, -, rfl⟩ := List.mem_map.1 hm
    rw [List.mem_singleton.1 hi]
    decide
  have hbound : Item.isPlain
      (t.names.response ++ "[" ++ Line.text (Marker.list t.any) ++ "]") = true := by
    simp only [Item.isPlain_append, hany, Item.isPlain_of_isWord ht.names.response.isName.isWord]
    decide
  refine ⟨?_, .inl (by simp [Line.peak, boundVar, Nesting.item, Nesting.char])⟩
  simp [boundVar, Item.isValid, ht.names.bound.isValid, hbound,
    Item.isPlain_of_isWord ht.names.bound.isName.isWord]

theorem sound_heading {title : String} : ∀ l ∈ heading title, l.Sound fs := by
  simp only [heading, List.forall_mem_cons]
  exact ⟨sound_blank, sound_blank, ⟨rfl, .inl (by simp [Line.peak, Nesting.item])⟩, by simp⟩

/-! ### Fields -/

/-- How deep brackets nest in the line that names the decoder of a field. -/
theorem peak_accessorLine (f : FieldPlan) :
    (accessorLine f).peak = 1 + f.type.nesting true := by
  have hleaf : f.target.decoder.depth = 1 := by cases f.target <;> rfl
  have hdepth : f.decoder.depth = f.type.nesting true := DecoderExpr.depth_ofRefAt hleaf true f.type
  have hrise := f.decoder.rises_items
  rw [hdepth] at hrise
  simp [Line.peak, accessorLine, Nesting.item, Nesting.char, hrise _]

theorem sound_accessorLine (hf : f.Spelled) (hmem : f ∈ fs) : (accessorLine f).Sound fs := by
  have hdecoder : ∀ d : DecoderExpr, d.items.all Item.isValid = true := by
    intro d
    induction d with
    | nullable d ih => simpa [DecoderExpr.items, Item.isValid] using ih
    | list d ih => simpa [DecoderExpr.items, Item.isValid] using ih
    | primitive kind => rfl
    | object response => rfl
  refine ⟨?_, .inr ⟨f, hmem, Nat.le_refl _⟩⟩
  simp only [accessorLine, List.cons_append, List.nil_append, List.all_cons, List.all_append,
    List.all_nil, Item.isValid, hdecoder, hf.attr.isValid, hf.accessorClass.isValid,
    Item.isPlain_of_isWord hf.name.isWord, Bool.and_self]

/-- The markers of a response or of a builder: their names can be declared. -/
theorem isValid_markers {ms : List Marker} (h : ∀ m ∈ ms, m.Spelled) :
    (Marker.list ms).all Item.isValid = true := by
  refine List.all_eq_true.2 (Source.forall_mem_commas rfl fun x hx i hi => ?_)
  obtain ⟨m, hm, rfl⟩ := List.mem_map.1 hx
  have hspelled := h m hm
  cases m with
  | any | unselected | selected =>
    rw [List.mem_singleton.1 hi]
    rfl
  | nested bound =>
    simp only [Marker.items, List.mem_cons, List.not_mem_nil, or_false] at hi
    rcases hi with rfl | rfl | rfl
    · rfl
    · exact Declarable.isValid hspelled
    · rfl
  | param name =>
    rw [List.mem_singleton.1 hi]
    exact Declarable.isValid hspelled

theorem isValid_params (ht : t.Spelled) : t.paramList.all Item.isValid = true :=
  isValid_markers (List.forall_mem_map.2 ht.params)

theorem isValid_valueType (hf : f.Spelled) : f.valueType.items.all Item.isValid = true := by
  have hoptional : ∀ (null : Bool) (v : ValueType), v.items.all Item.isValid = true →
      (ValueType.optionalIf null v).items.all Item.isValid = true := by
    intro null v hv
    cases null with
    | false => exact hv
    | true => simpa [ValueType.optionalIf, ValueType.items, Item.isValid] using hv
  have hleaf : f.target.valueType.items.all Item.isValid = true := by
    cases htarget : f.target with
    | scalar k => rfl
    | object n own =>
      have hbound := (hf.target.names n own htarget).bound
      simp [Target.valueType, ValueType.items, Item.isValid, hbound.isValid]
  have href : ∀ (r : TypeRef) (null : Bool),
      (ValueType.ofRefAt f.target.valueType null r).items.all Item.isValid = true := by
    intro r
    induction r with
    | named name => exact fun null => hoptional null _ hleaf
    | list r ih =>
      refine fun null => hoptional null _ ?_
      simpa [ValueType.items, Item.isValid] using ih true
    | nonNull r ih => exact fun null => ih false
  exact href f.type true

theorem exists_rises_valueType (f : FieldPlan) :
    ∃ k, k + 1 = f.type.nesting true ∧ Rises f.valueType.items k := by
  refine ValueType.exists_rises_ofRefAt (Nesting.rises_zero fun n => ?_) true f.type
  cases f.target with
  | scalar k => cases k <;> simp [Target.valueType, ValueType.items, Scalar.primitive,
      Primitive.name, Nesting.item, Nesting.char]
  | object n own => rfl

theorem sound_accessor (ht : t.Spelled) (hf : f.Spelled) (hmem : f ∈ fs) :
    ∀ l ∈ accessor t f, l.Sound fs := by
  have hclass : Line.Sound fs [.code "class ", .name f.accessorClass, .code "(_rt.Accessor):"] :=
    ⟨by simp [Item.isValid, hf.accessorClass.isValid],
      .inl (by simp [Line.peak, Nesting.item, Nesting.char])⟩
  have hdoc : Line.Sound fs [.code "    ", .docstring
      ("``" ++ t.name ++ "." ++ f.name ++ ": " ++ f.type.render ++ "``")] := by
    refine sound_docstring (Docstring.closes_of_isClean ?_) (by decide)
    simp only [String.toList_append, List.all_append, Docstring.isClean_render hf.type,
      Docstring.isClean_of_isWord ht.name.isWord, Docstring.isClean_of_isWord hf.name.isWord]
    decide
  have hget : Line.Sound fs (.code "    def __get__(self, obj: " :: t.ownerType f ++
      .code ", owner: _t.Any = None) -> " :: f.valueType.items ++ [.code ":"]) := by
    obtain ⟨j, hj, howner⟩ := Marker.exists_rises_list f.owner
    obtain ⟨k, hk, hvalue⟩ := exists_rises_valueType f
    constructor
    · simp only [TypePlan.ownerType, List.cons_append, List.append_assoc, List.all_cons,
        List.all_append, List.all_nil, Item.isValid, ht.names.response.isValid,
        isValid_markers hf.owner, isValid_valueType hf, Bool.and_self]
    · have hpeak : Line.peak (.code "    def __get__(self, obj: " :: t.ownerType f ++
          .code ", owner: _t.Any = None) -> " :: f.valueType.items ++ [.code ":"]) =
            max (max 2 (2 + j)) k := by
        simp [Line.peak, TypePlan.ownerType, Nesting.item, Nesting.char, howner _, hvalue _]
      have haccessor := peak_accessorLine f
      by_cases hdeep : k ≤ 3
      · exact .inl (by omega)
      · exact .inr ⟨f, hmem, by omega⟩
  simp only [accessor, List.forall_mem_cons]
  exact ⟨sound_blank, sound_blank, hclass, hdoc, sound_blank, hget, sound_fixed (by decide),
    by simp⟩

theorem sound_classDoc {line : String} (h : line.toList.all isClean = true) (description : String) :
    (classDoc line description).Sound fs := by
  have hrun : (Docstring.Scan.plain 0).run (if description.isEmpty then "" else
      "\n    " ++ Docstring.indent (Docstring.escape description) ++ "\n").toList = .plain 0 := by
    split
    · rfl
    · simp only [String.toList_append, Docstring.Scan.run_append, Docstring.run_indent]
      rw [Docstring.run_of_isClean (by decide), Docstring.run_escape,
        Docstring.run_of_isClean (by decide)]
  refine sound_docstring ?_ (by decide)
  rw [Docstring.closes_iff]
  simp only [String.toList_append, Docstring.Scan.run_append]
  rw [Docstring.run_of_isClean h, Docstring.run_of_isClean (by decide), hrun,
    Docstring.run_of_isClean (by decide)]

theorem sound_response (ht : t.Spelled) (hmem : ∀ f ∈ t.fields, f ∈ fs) :
    ∀ l ∈ response t, l.Sound fs := by
  have hclass : Line.Sound fs (.code "class " :: .name t.names.response ::
      .code "(_rt.Response, _t.Generic[" :: t.paramList ++ [.code "]):"]) := by
    constructor
    · simp only [List.cons_append, List.all_cons, List.all_append, List.all_nil, Item.isValid,
        ht.names.response.isValid, isValid_params ht, Bool.and_self]
    · exact .inl (by simp [Line.peak, Nesting.item, Nesting.char, t.rises_paramList _])
  have hdoc : (classDoc ("Response wrapper for ``" ++ t.name ++ "`` selections.")
      t.description).Sound fs :=
    sound_classDoc (Docstring.isClean_around ht.name (by decide) (by decide)) _
  rw [response, List.forall_mem_append]
  refine ⟨?_, List.forall_mem_map.2 fun f hf => sound_accessorLine (ht.fields f hf) (hmem f hf)⟩
  simp only [List.forall_mem_cons]
  exact ⟨sound_blank, sound_blank, hclass, hdoc, sound_blank, by simp⟩

theorem sound_token (ht : t.Spelled) (hf : f.Spelled) : ∀ l ∈ token t f, l.Sound fs := by
  have hclass : Line.Sound fs [.code "class ", .name f.tokenClass, .code "(_rt.FieldToken):"] :=
    ⟨by simp [Item.isValid, hf.tokenClass.isValid],
      .inl (by simp [Line.peak, Nesting.item, Nesting.char])⟩
  have hdoc : Line.Sound fs [.code "    ",
      .docstring (Docstring.indent (Docstring.escape f.description))] := by
    refine sound_docstring ?_ (by decide)
    rw [Docstring.closes_iff, Docstring.run_indent, Docstring.run_escape]
  simp only [token, List.forall_mem_append, List.forall_mem_cons]
  refine ⟨⟨⟨⟨sound_blank, sound_blank, sound_fixed (by decide), hclass, by simp⟩, ?_⟩,
    sound_literal ht.name (by decide), sound_literal hf.name (by decide), by simp⟩, ?_⟩
  · split
    · simp
    · simp only [List.forall_mem_cons]
      exact ⟨hdoc, sound_blank, by simp⟩
  · split
    · simp only [List.forall_mem_cons]
      exact ⟨sound_fixed (by decide), sound_literal hf.target.name (by decide), by simp⟩
    · simp

/-! ### Builders -/

theorem isValid_selectParams (hf : f.Spelled) : (selectParams f).all Item.isValid = true := by
  have htoken := hf.tokenClass.isValid
  cases htarget : f.target with
  | scalar k => simp [selectParams, htarget, Target.isObject, Item.isValid, htoken]
  | object n own =>
    have hbound := (hf.target.names n own htarget).bound.isValid
    simp [selectParams, htarget, Target.isObject, Target.subSelection, Item.isValid, htoken, hbound]

/-- The parameters of `select` leave one bracket open and nest no more than two deep. -/
theorem exists_items_selectParams (f : FieldPlan) :
    ∃ k ≤ 2, Nesting.items {} (selectParams f) = ⟨1, k⟩ := by
  cases htarget : f.target with
  | scalar kind =>
    refine ⟨1, by decide, ?_⟩
    simp [selectParams, htarget, Target.isObject, Nesting.item, Nesting.char]
  | object n own =>
    refine ⟨2, by decide, ?_⟩
    simp [selectParams, htarget, Target.isObject, Target.subSelection, Nesting.item, Nesting.char]

theorem sound_signature (ht : t.Spelled) (hf : f.Spelled) {last : String}
    (hlast : ∀ n : Nesting, n.item (.code last) = n) :
    Line.Sound fs (selectParams f ++ .code ") -> " :: t.resultType f ++ [.code last]) := by
  obtain ⟨j, hj, hresult⟩ := Marker.exists_rises_list f.result
  obtain ⟨k, hk, hparams⟩ := exists_items_selectParams f
  have hhead : Nesting.items {} (selectParams f ++
      [.code ") -> ", .name t.names.builder, .code "["]) = ⟨1, max k 1⟩ := by
    simp [hparams, Nesting.item, Nesting.char]
  have hclose : ∀ n : Nesting, n.item (.code "]") = ⟨n.depth - 1, n.peak⟩ := fun n => by
    simp [Nesting.item, Nesting.char]
  constructor
  · simp only [TypePlan.resultType, List.cons_append, List.append_assoc, List.all_cons,
      List.all_append, List.all_nil, Item.isValid, ht.names.builder.isValid,
      isValid_selectParams hf, isValid_markers hf.result, Bool.and_self]
  · have hpeak : Line.peak (selectParams f ++ .code ") -> " :: t.resultType f ++ [.code last]) =
        max (max k 1) (1 + j) := by
      have hsplit : selectParams f ++ .code ") -> " :: t.resultType f ++ [.code last] =
          selectParams f ++ [.code ") -> ", .name t.names.builder, .code "["] ++
            (Marker.list f.result ++ [.code "]", .code last]) := by
        simp [TypePlan.resultType]
      rw [hsplit, Line.peak, Nesting.items_append, hhead, Nesting.items_append,
        hresult _ (Nat.le_max_right k 1), Nesting.items_cons, hclose, Nesting.items_cons, hlast]
      rfl
    exact .inl (by omega)

theorem sound_select (ht : t.Spelled) : ∀ l ∈ select t, l.Sound fs := by
  have hdoc : ∀ {s : String}, s.toList.all isClean = true →
      Line.Sound fs [.code "        ", .docstring s] := fun hs =>
    sound_docstring (Docstring.closes_of_isClean hs) (by decide)
  unfold select
  split
  · rename_i f hfields
    have hf := ht.fields f (hfields ▸ List.mem_singleton_self f)
    have hname := Docstring.isClean_of_isWord hf.name.isWord
    simp only [selectOnly, List.forall_mem_cons]
    refine ⟨sound_blank, sound_signature ht hf fun n => by simp [Nesting.item, Nesting.char],
      hdoc ?_, sound_fixed ?_, by simp⟩
    · simp only [String.toList_append, List.all_append, hname]
      split <;> decide
    · split <;> decide
  · simp only [selectAny, List.forall_mem_append, List.forall_mem_flatMap, overload,
      List.forall_mem_cons]
    refine ⟨fun f hf => ⟨sound_blank, sound_fixed (by decide), ?_, by simp⟩, sound_blank,
      sound_fixed (by decide +kernel), hdoc (by decide), sound_fixed (by decide), by simp⟩
    exact sound_signature ht (ht.fields f hf) fun n => by simp [Nesting.item, Nesting.char]

theorem sound_request (ht : t.Spelled) : ∀ l ∈ request t, l.Sound fs := by
  have hline : Line.Sound fs
      (.code "    def request(self, operation_name: _t.Optional[str] = None) -> _rt.Request[" ::
        .name t.names.response :: .code "[" :: t.paramList ++ [.code "]]:"]) := by
    constructor
    · simp only [List.cons_append, List.all_cons, List.all_append, List.all_nil, Item.isValid,
        ht.names.response.isValid, isValid_params ht, Bool.and_self]
    · exact .inl (by simp [Line.peak, Nesting.item, Nesting.char, t.rises_paramList _])
  have hdoc : Line.Sound fs
      [.code "        ", .docstring "Describe a query for the current selection."] :=
    sound_docstring (by decide) (by decide)
  have hreturn : Line.Sound fs [.code "        return _rt.Request(self.selection_set, ",
      .name t.names.response, .code ", operation_name)"] :=
    ⟨by simp [Item.isValid, ht.names.response.isValid],
      .inl (by simp [Line.peak, Nesting.item, Nesting.char])⟩
  unfold request
  split
  · simp only [List.forall_mem_cons]
    exact ⟨sound_blank, hline, hdoc, hreturn, by simp⟩
  · simp

theorem sound_fieldOrder (t : TypePlan) :
    Line.Sound fs (.code "    _gql_field_order = " :: t.fieldOrder) := by
  have hrise : Rises (Source.commas (t.fields.map fun f => [.quoted f.name])) 0 := by
    refine Nesting.rises_commas fun x hx => ?_
    obtain ⟨f, -, rfl⟩ := List.mem_map.1 hx
    exact Nesting.rises_zero fun n => rfl
  have hvalid : (Source.commas (t.fields.map fun f => [.quoted f.name])).all Item.isValid =
      true := by
    refine List.all_eq_true.2 (Source.forall_mem_commas rfl fun x hx i hi => ?_)
    obtain ⟨f, -, rfl⟩ := List.mem_map.1 hx
    rw [List.mem_singleton.1 hi]
    rfl
  constructor
  · simp only [TypePlan.fieldOrder, List.cons_append, List.all_cons, List.all_append, List.all_nil,
      Item.isValid, hvalid, Bool.and_self]
  · left
    simp only [TypePlan.fieldOrder]
    split <;> simp [Line.peak, Nesting.item, Nesting.char, hrise _]

theorem sound_builder (ht : t.Spelled) : ∀ l ∈ builder t, l.Sound fs := by
  have hbuilder := ht.names.builder.isValid
  have hclass : Line.Sound fs (.code "class " :: .name t.names.builder ::
      .code "(_rt.SelectionBuilder[" :: .name t.names.response :: .code "[" :: t.paramList ++
      .code "]], _t.Generic[" :: t.paramList ++ [.code "]):"]) := by
    constructor
    · simp only [List.cons_append, List.append_assoc, List.all_cons, List.all_append, List.all_nil,
        Item.isValid, hbuilder, ht.names.response.isValid, isValid_params ht, Bool.and_self]
    · exact .inl (by simp [Line.peak, Nesting.item, Nesting.char, t.rises_paramList _])
  have hdoc : Line.Sound fs [.code "    ",
      .docstring ("Selection builder for ``" ++ t.name ++ "``.")] :=
    sound_docstring (Docstring.closes_of_isClean
      (Docstring.isClean_around ht.name (by decide) (by decide))) (by decide)
  have hempty : Line.Sound fs (.code "    def empty() -> " :: .name t.names.builder :: .code "[" ::
      Marker.list t.empty ++ [.code "]:"]) := by
    obtain ⟨k, hk, hrise⟩ := Marker.exists_rises_list t.empty
    have hmarkers : (Marker.list t.empty).all Item.isValid = true :=
      isValid_markers (List.forall_mem_map.2 fun _ _ => trivial)
    constructor
    · simp only [List.cons_append, List.all_cons, List.all_append, List.all_nil, Item.isValid,
        hbuilder, hmarkers, Bool.and_self]
    · have hpeak : Line.peak (.code "    def empty() -> " :: .name t.names.builder :: .code "[" ::
          Marker.list t.empty ++ [.code "]:"]) = max 1 (1 + k) := by
        simp [Line.peak, Nesting.item, Nesting.char, hrise _]
      exact .inl (by omega)
  have hreturn : Line.Sound fs [.code "        return ", .name t.names.builder, .code "()"] :=
    ⟨by simp [Item.isValid, hbuilder], .inl (by simp [Line.peak, Nesting.item, Nesting.char])⟩
  simp only [builder, List.forall_mem_append, List.forall_mem_cons]
  exact ⟨⟨⟨sound_blank, sound_blank, hclass, hdoc, sound_blank, sound_literal ht.name (by decide),
    sound_fieldOrder t, sound_blank, sound_fixed (by decide), hempty,
    sound_docstring (by decide) (by decide), hreturn, by simp⟩, sound_select ht⟩, sound_request ht⟩

theorem sound_tokens (ht : t.Spelled) : ∀ l ∈ tokens t, l.Sound fs := by
  have hclass : Line.Sound fs [.code "class ", .name t.names.tokens, .code ":"] :=
    ⟨by simp [Item.isValid, ht.names.tokens.isValid],
      .inl (by simp [Line.peak, Nesting.item, Nesting.char])⟩
  have hdoc : (classDoc ("Field tokens of ``" ++ t.name ++ "``.") t.description).Sound fs :=
    sound_classDoc (Docstring.isClean_around ht.name (by decide) (by decide)) _
  have htoken : ∀ f ∈ t.fields, (tokenLine f).Sound fs := fun f hf =>
    ⟨by simp [tokenLine, Item.isValid, (ht.fields f hf).attr.isValid,
      (ht.fields f hf).tokenClass.isValid],
      .inl (by simp [tokenLine, Line.peak, Nesting.item, Nesting.char])⟩
  simp only [tokens, List.forall_mem_append, List.forall_mem_cons, List.forall_mem_map]
  exact ⟨⟨sound_blank, sound_blank, hclass, hdoc, sound_blank, by simp⟩, htoken⟩

/-! ### Modules -/

/-- Every line of a module is sound. -/
theorem sound_lines {plan : Plan} (h : plan.Spelled) {root : TypePlan} (hroot : root ∈ plan.types)
    (runtime : String) : ∀ l ∈ lines plan root (.clause runtime true),
      l.Sound (plan.types.flatMap TypePlan.fields) := by
  have hmem : ∀ t ∈ plan.types, ∀ f ∈ t.fields, f ∈ plan.types.flatMap TypePlan.fields :=
    fun t ht f hf => List.mem_flatMap.2 ⟨t, ht, hf⟩
  simp only [lines, List.forall_mem_append, List.forall_mem_cons, List.forall_mem_map,
    List.forall_mem_flatMap, and_assoc]
  exact ⟨sound_header (h.types root hroot), sound_blank, by simp, sound_imports runtime,
    sound_blank, sound_exports h.types, sound_blank, by simp,
    fun n hn => sound_typeVar (h.params n hn), fun t ht => sound_boundVar (h.types t ht),
    sound_heading,
    fun t ht f hf => sound_accessor (h.types t ht) ((h.types t ht).fields f hf) (hmem t ht f hf),
    sound_heading, fun t ht => sound_response (h.types t ht) (hmem t ht),
    sound_heading, fun t ht f hf => sound_token (h.types t ht) ((h.types t ht).fields f hf),
    sound_heading, fun t ht => sound_builder (h.types t ht),
    sound_heading, fun t ht => sound_tokens (h.types t ht)⟩

theorem accessorLine_mem_lines {plan : Plan} (root : TypePlan) (runtime : Item)
    (ht : t ∈ plan.types) (hf : f ∈ t.fields) : accessorLine f ∈ lines plan root runtime := by
  have hresponse : accessorLine f ∈ plan.types.flatMap response := by
    refine List.mem_flatMap.2 ⟨t, ht, List.mem_append_right _ ?_⟩
    exact List.mem_map_of_mem hf
  simp only [lines, List.mem_append]
  exact .inl (.inl (.inl (.inl (.inl (.inl (.inr hresponse))))))

end Layout

theorem importClause_default : importClause ({} : Options).runtime =
    .clause "gql_typed.runtime" true := by
  have hvalid : Script.isValid ("import " ++ "gql_typed.runtime" ++ " as _rt\n") = true := by
    decide +kernel
  rw [importClause, hvalid]

/-- Lines that are all sound make a module unless one of them nests brackets too deep. -/
theorem Source.isValid_iff_of_sound {ls : List Line} {fs : List FieldPlan}
    (h : ∀ l ∈ ls, l.Sound fs) (hmem : ∀ f ∈ fs, Layout.accessorLine f ∈ ls) :
    isValid ls = true ↔ ∀ f ∈ fs, (Layout.accessorLine f).peak ≤ Nesting.limit := by
  simp only [isValid, List.all_eq_true, Line.isValid, Bool.and_eq_true, decide_eq_true_eq]
  constructor
  · intro hall f hf
    exact (hall _ (hmem f hf)).2
  · intro hall l hl
    refine ⟨List.all_eq_true.1 (h l hl).valid, ?_⟩
    rcases (h l hl).peak with hthree | ⟨f, hf, hle⟩
    · exact Nat.le_trans hthree (by decide)
    · exact Nat.le_trans hle (hall f hf)

/-- The types of planned fields are the types of fields in the schema. -/
theorem Plan.exists_type_iff {s : Schema} {plan : Plan} (h : Plan.ofSchema s = .ok plan)
    {P : TypeRef → Prop} :
    (∃ o ∈ s.objects, ∃ g ∈ o.fields, P g.type) ↔
      ∃ t ∈ plan.types, ∃ f ∈ t.fields, P f.type := by
  constructor
  · rintro ⟨o, ho, g, hg, hp⟩
    obtain ⟨i, t, -, ht, hof⟩ := (Plan.aligned_of_ofSchema h).exists_of_mem_left ho
    have hpair : Plan.Pairs s plan o t := ⟨ho, List.mem_of_getElem? ht, hof⟩
    obtain ⟨f, hf, j, hfof⟩ := hpair.exists_plan hg
    exact ⟨t, hpair.type, f, hf, hfof.type_eq ▸ hp⟩
  · rintro ⟨t, ht, f, hf, hp⟩
    obtain ⟨o, hpair⟩ := Plan.exists_pairs h ht
    obtain ⟨g, hg, i, hof⟩ := hpair.exists_field hf
    exact ⟨o, hpair.object, g, hg, hof.type_eq ▸ hp⟩

/-- **When generating fails.** Take any schema that a collector has built. It can be planned, and
generating its module fails if and only if some field has a type whose decoder nests brackets too
deep; otherwise the text of the module is the result. The line that names a decoder stands in the
module and nests one bracket more than the decoder. No line has a part that is not what it is meant
to be, and no line nests brackets too deep unless one that names a decoder does. -/
theorem generate_invalid_iff_deep (calls : List Collector.Call) (s : Schema)
    (hs : s ∈ Collector.built {} calls) :
    ∃ plan root, prepare s = .ok (plan, root) ∧
      let lines := Layout.lines plan root (importClause ({} : Options).runtime)
      let deep := ∃ o ∈ s.objects, ∃ g ∈ o.fields, 200 < 1 + g.type.nesting true
      (generate s {} = .error .invalid ↔ deep) ∧
      (¬ deep → generate s {} = .ok (Source.text lines)) ∧
      (∀ t ∈ plan.types, ∀ f ∈ t.fields, Layout.accessorLine f ∈ lines ∧
        (Layout.accessorLine f).peak = 1 + f.type.nesting true) ∧
      ∀ l ∈ lines, l.all Item.isValid = true ∧ (200 < l.peak →
        ∃ t ∈ plan.types, ∃ f ∈ t.fields, 200 < (Layout.accessorLine f).peak) := by
  have hw := Collector.wellFormed_of_mem_built hs
  obtain ⟨plan, hplan⟩ := Plan.exists_ofSchema hw
  obtain ⟨root, query, hprepare, -, hroot⟩ := Plan.exists_root hw hplan
  refine ⟨plan, root, hprepare, ?_⟩
  intro lines deep
  have hsound : ∀ l ∈ lines, l.Sound (plan.types.flatMap TypePlan.fields) := by
    show ∀ l ∈ Layout.lines plan root (importClause ({} : Options).runtime), _
    rw [importClause_default]
    exact Layout.sound_lines (Plan.spelled_of_ofSchema hw hplan) hroot.type _
  have hmem : ∀ t ∈ plan.types, ∀ f ∈ t.fields, Layout.accessorLine f ∈ lines :=
    fun t ht f hf => Layout.accessorLine_mem_lines root _ ht hf
  have hdeep : deep ↔ ∃ t ∈ plan.types, ∃ f ∈ t.fields, 200 < (Layout.accessorLine f).peak := by
    simp only [Layout.peak_accessorLine]
    exact Plan.exists_type_iff hplan (P := fun r => 200 < 1 + r.nesting true)
  have hvalid : Source.isValid lines = true ↔ ¬ deep := by
    rw [Source.isValid_iff_of_sound hsound (List.forall_mem_flatMap.2 hmem),
      List.forall_mem_flatMap, hdeep]
    simp [Nesting.limit]
  have hgenerate : generate s {} =
      if Source.isValid lines then .ok (Source.text lines) else .error .invalid := by
    rw [generate, hprepare]
    rfl
  refine ⟨?_, ?_, fun t ht f hf => ⟨hmem t ht f hf, Layout.peak_accessorLine f⟩, fun l hl => ?_⟩
  · rw [hgenerate]
    by_cases h : deep
    · simp [h, hvalid]
    · simp [h, hvalid.2 h]
  · intro h
    rw [hgenerate, if_pos (hvalid.2 h)]
  · refine ⟨(hsound l hl).valid, fun hlong => ?_⟩
    rcases (hsound l hl).peak with hthree | ⟨f, hf, hle⟩
    · omega
    · obtain ⟨t, ht, hf⟩ := List.mem_flatMap.1 hf
      exact ⟨t, ht, f, hf, Nat.lt_of_lt_of_le hlong hle⟩

/-- Ninety-eight lists inside each other can be generated, ninety-nine cannot. -/
theorem generate_invalid_ninety_nine_lists :
    let calls := fun k : Nat => [.addSource "a" ("type Query \x7b q: " ++
      String.ofList (List.replicate k '[') ++ "Int" ++ String.ofList (List.replicate k ']') ++
      " \x7d"), .build]
    (∃ s ∈ Collector.built {} (calls 98), ∃ source, generate s {} = .ok source) ∧
      ∃ s ∈ Collector.built {} (calls 99), generate s {} = .error .invalid := by
  intro calls
  have hshallow : ((Collector.built {} (calls 98)).any fun s =>
      s.objects.all fun o => o.fields.all fun g => g.type.nesting true < 200) = true := by
    decide +kernel
  have hdeep : ((Collector.built {} (calls 99)).any fun s =>
      s.objects.any fun o => o.fields.any fun g => 200 ≤ g.type.nesting true) = true := by
    decide +kernel
  obtain ⟨s, hs, hshallow⟩ := List.any_eq_true.1 hshallow
  obtain ⟨s', hs', hdeep⟩ := List.any_eq_true.1 hdeep
  simp only [List.all_eq_true, decide_eq_true_eq] at hshallow
  simp only [List.any_eq_true, decide_eq_true_eq] at hdeep
  obtain ⟨plan, root, -, -, hok, -⟩ := generate_invalid_iff_deep (calls 98) s hs
  obtain ⟨plan', root', -, hinvalid, -⟩ := generate_invalid_iff_deep (calls 99) s' hs'
  refine ⟨⟨s, hs, _, hok ?_⟩, s', hs', hinvalid.2 ?_⟩
  · rintro ⟨o, ho, g, hg, hlong⟩
    have := hshallow o ho g hg
    omega
  · obtain ⟨o, ho, g, hg, hlong⟩ := hdeep
    exact ⟨o, ho, g, hg, by omega⟩

end Client

end TypedQuery
