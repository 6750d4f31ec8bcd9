import Mathlib.Data.List.Basic
import TypedQuery.Proofs.Basic
import TypedQuery.Proofs.Table
import TypedQuery.Query.Builder

/-!
# Selecting fields

What a builder holds after a field was selected, said by look-up: the field with its new
sub-selection, and every other field as before.

* `Selection.get?`: the selected field of a name.
* `Builder.get?_insert`, `Builder.sublist_names_insert`, `Builder.insert_eq_cons`: one more field,
  in schema order.
* `Builder.select_eq_ok`: which calls succeed, and what they give.
-/

namespace TypedQuery

namespace Selection

/-- The selected fields by name. -/
def entries (s : Selection) : Table SelectedField := s.toList.map fun f => (f.name, f)

/-- The selected field called `name`. -/
def get? (s : Selection) (name : String) : Option SelectedField := s.entries.get? name

variable {s : Selection} {f : SelectedField} {name : String}

theorem names_entries (s : Selection) : s.entries.names = s.names := by
  simp [entries, Table.names, names, Function.comp_def]

theorem name_of_get? (h : s.get? name = some f) : f.name = name := by
  obtain ⟨g, -, hg⟩ := List.mem_map.1 (Table.mem_of_get? h)
  cases hg
  rfl

theorem mem_of_get? (h : s.get? name = some f) : f ∈ s.toList := by
  obtain ⟨g, hg, he⟩ := List.mem_map.1 (Table.mem_of_get? h)
  cases he
  exact hg

theorem get?_isSome : (s.get? name).isSome ↔ name ∈ s.names := by
  rw [← names_entries]
  exact Table.get?_isSome

theorem mem_fieldNames {type : String} :
    name ∈ SelectionSet.fieldNames ⟨type, s⟩ ↔ name ∈ s.names := by
  rw [SelectionSet.fieldNames, List.mem_eraseDups]
  exact Sorting.mem_sort

theorem isEmpty_eq_false : s.isEmpty = false ↔ s ≠ .nil := by cases s <;> simp [isEmpty]

/-- Looking up a name among the fields that a function gives for an order of names. -/
theorem get?_ofList_filterMap {order : List String} {g : String → Option SelectedField}
    (hg : ∀ n x, g n = some x → x.name = n) :
    (ofList (order.filterMap g)).get? name = if name ∈ order then g name else none := by
  unfold get? entries
  rw [toList_ofList]
  induction order with
  | nil => rfl
  | cons n order ih =>
    rw [List.filterMap_cons]
    cases hn : g n with
    | none =>
      simp only [ih, List.mem_cons]
      by_cases he : name = n
      · subst he
        rw [hn]
        simp
      · simp [he]
    | some x =>
      have hx := hg n x hn
      simp only [List.map_cons, Table.get?, hx, ih, List.mem_cons]
      by_cases he : n = name
      · subst he
        simp [hn]
      · simp [he, Ne.symm he]

/-- The names of the fields that a function gives for an order of names. -/
theorem sublist_names_ofList_filterMap {order : List String} {g : String → Option SelectedField}
    (hg : ∀ n x, g n = some x → x.name = n) :
    (ofList (order.filterMap g)).names.Sublist order := by
  unfold names
  rw [toList_ofList]
  induction order with
  | nil => exact .slnil
  | cons n order ih =>
    rw [List.filterMap_cons]
    cases hn : g n with
    | none => exact ih.cons n
    | some x =>
      rw [List.map_cons, hg n x hn]
      exact ih.cons_cons n

theorem get?_cons (f : SelectedField) (s : Selection) (name : String) :
    (cons f s).get? name = if f.name = name then some f else s.get? name := by
  rw [get?, entries, toList_cons, List.map_cons, Table.get?]
  rfl

theorem names_cons (f : SelectedField) (s : Selection) : (cons f s).names = f.name :: s.names := by
  rw [names, toList_cons, List.map_cons]
  rfl

/-- Looking up the names of an order in turn gives back a selection that is in this order. -/
theorem ofList_filterMap_get? {order : List String} (ho : order.Nodup) {s : Selection}
    (h : s.names.Sublist order) : ofList (order.filterMap s.get?) = s := by
  suffices hlist : ∀ fs : List SelectedField, (fs.map SelectedField.name).Sublist order →
      order.filterMap (ofList fs).get? = fs by
    have hs := hlist s.toList h
    rw [ofList_toList] at hs
    rw [hs, ofList_toList]
  clear h
  induction order with
  | nil =>
    intro fs h
    rw [List.map_eq_nil_iff.1 (List.sublist_nil.1 h)]
    rfl
  | cons n order ih =>
    intro fs h
    obtain ⟨hn, hrest⟩ := List.nodup_cons.1 ho
    generalize hnames : fs.map SelectedField.name = names at h
    cases h with
    | cons _ h =>
      subst hnames
      have hnone : (ofList fs).get? n = none := by
        rw [← Option.not_isSome_iff_eq_none, get?_isSome, names, toList_ofList]
        exact fun hm => hn (h.subset hm)
      rw [List.filterMap_cons_none hnone]
      exact ih hrest fs h
    | cons_cons _ h =>
      obtain ⟨f, fs, rfl, rfl, rfl⟩ := List.map_eq_cons_iff.1 hnames
      have hsame : order.filterMap (ofList (f :: fs)).get? = order.filterMap (ofList fs).get? := by
        refine List.filterMap_congr fun m hm => ?_
        rw [ofList, get?_cons, if_neg]
        rintro rfl
        exact hn hm
      rw [List.filterMap_cons_some (by rw [ofList, get?_cons, if_pos rfl]), hsame, ih hrest fs h]

end Selection

namespace Builder

/-! ## One more field -/

variable {order : List String} {sel : Selection} {f : SelectedField} {name : String}

theorem byName_toList (hn : sel.names.Nodup) : byName sel.toList = sel.entries := by
  have hof : byName sel.toList = Table.ofList sel.entries := by
    simp [byName, Table.ofList, Table.putAll, Selection.entries, List.foldl_map]
  rw [hof]
  refine Table.ofList_of_nodup ?_
  rw [← Selection.names_entries] at hn
  exact hn

/-- What `insert` finds under a name. -/
theorem known_get? (hn : sel.names.Nodup) :
    ((byName sel.toList).put f.name f).get? name =
      if f.name = name then some f else sel.get? name := by
  rw [Table.get?_put, byName_toList hn]
  rfl

theorem name_of_known (hn : sel.names.Nodup) {n : String} {x : SelectedField}
    (h : ((byName sel.toList).put f.name f).get? n = some x) : x.name = n := by
  rw [known_get? hn] at h
  split at h
  · cases h
    assumption
  · exact Selection.name_of_get? h

/-- After `insert` a name of the order stands for the new field, or for what it stood for before. -/
theorem get?_insert (hn : sel.names.Nodup) (hm : name ∈ order) :
    (insert order sel f).get? name = if f.name = name then some f else sel.get? name := by
  rw [insert, Selection.get?_ofList_filterMap (fun n x => name_of_known hn), if_pos hm,
    known_get? hn]

theorem sublist_names_insert (hn : sel.names.Nodup) :
    (insert order sel f).names.Sublist order :=
  Selection.sublist_names_ofList_filterMap fun _ _ => name_of_known hn

theorem mem_insert (hn : sel.names.Nodup) {x : SelectedField}
    (h : x ∈ (insert order sel f).toList) : x = f ∨ x ∈ sel.toList := by
  rw [insert, Selection.toList_ofList] at h
  obtain ⟨n, -, hx⟩ := List.mem_filterMap.1 h
  rw [known_get? hn] at hx
  split at hx
  · cases hx
    exact .inl rfl
  · exact .inr (Selection.mem_of_get? hx)

/-- A field that comes before all selected ones is put in front of them. -/
theorem insert_eq_cons (ho : order.Nodup) (h : (f.name :: sel.names).Sublist order) :
    insert order sel f = .cons f sel := by
  have hn : sel.names.Nodup := (List.nodup_cons.1 (h.nodup ho)).2
  have hget : ((byName sel.toList).put f.name f).get? = (Selection.cons f sel).get? := by
    funext name
    rw [known_get? hn, Selection.get?_cons]
  rw [← Selection.names_cons] at h
  rw [insert, hget, Selection.ofList_filterMap_get? ho h]

/-! ## Calls -/

/-- What a call of `select` passes on as the sub-selection: nothing for a scalar field, and for an
object field the selection of a builder on its type that is not empty. -/
inductive Passes (t : FieldToken) : Option SelectArgument → Option SelectionSet → Prop where
  | scalar (arg : Option SelectArgument) (h : t.target = none) (harg : arg.getD .none = .none) :
    Passes t arg none
  | object (b : Builder) (h : t.target = some b.cls.type) (hne : b.fields ≠ .nil) :
    Passes t (some (.builder b)) (some b.selectionSet)

theorem extendToken_eq_ok {b b' : Builder} {t : FieldToken} {arg : SelectArgument}
    (h : b.extendToken t arg = .ok b') : ∃ sub, Passes t (some arg) sub ∧
      b' = { b with fields := insert b.cls.order b.fields ⟨t.field, sub⟩ } := by
  unfold extendToken at h
  split at h
  · rename_i target htarget
    split at h
    · cases h
    · rename_i s hs
      cases h
      cases arg with
      | builder q =>
        simp only [subSelection] at hs
        split at hs
        · cases hs
        · rename_i htype
          split at hs
          · cases hs
          · rename_i hempty
            cases hs
            have htype : q.cls.type = target := Decidable.not_not.1 htype
            rw [← htype] at htarget
            refine ⟨_, .object q htarget ?_, rfl⟩
            exact Selection.isEmpty_eq_false.1 (Bool.eq_false_iff.2 hempty)
      | _ => cases hs
  · rename_i htarget
    split at h
    · cases h
      exact ⟨none, .scalar _ htarget rfl, rfl⟩
    · cases h

theorem extend_eq_ok {b b' : Builder} {token arg : SelectArgument}
    (h : b.extend token arg = .ok b') : ∃ t sub, token = .token t ∧ t.type = b.cls.type ∧
      Passes t (some arg) sub ∧
        b' = { b with fields := insert b.cls.order b.fields ⟨t.field, sub⟩ } := by
  cases token with
  | token t =>
    simp only [extend] at h
    split at h
    · rename_i htype
      obtain ⟨sub, hsub, hb⟩ := extendToken_eq_ok h
      exact ⟨t, sub, rfl, htype, hsub, hb⟩
    · cases h
  | _ => cases h

/-- An argument that is not given counts as none. -/
theorem Passes.of_none {t : FieldToken} {sub : Option SelectionSet}
    (h : Passes t (some .none) sub) : Passes t none sub := by
  cases h with
  | scalar _ htarget _ => exact .scalar none htarget rfl

/-- A call of `select` that succeeds is given a token of the builder's own type. The field takes its
place in the order of the type. -/
theorem select_eq_ok {b b' : Builder} {token : SelectArgument} {arg : Option SelectArgument}
    (h : b.select token arg = .ok b') : ∃ t sub, token = .token t ∧ t.type = b.cls.type ∧
      Passes t arg sub ∧ b' = { b with fields := insert b.cls.order b.fields ⟨t.field, sub⟩ } := by
  cases harity : b.cls.arity <;> cases arg <;> simp only [select, harity] at h
  case tokenOnly.some => cases h
  case withSelection.none => cases h
  case either.some arg => exact extend_eq_ok h
  case withSelection.some arg => exact extend_eq_ok h
  all_goals
    obtain ⟨t, sub, ht, htype, hsub, hb⟩ := extend_eq_ok h
    exact ⟨t, sub, ht, htype, hsub.of_none, hb⟩

end Builder

end TypedQuery
