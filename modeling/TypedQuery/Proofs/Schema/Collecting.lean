import TypedQuery.Proofs.Basic
import TypedQuery.Proofs.Schema.Grammar

/-!
# What a collector accepts

A collector takes definitions one after the other. `Collector.addAll_eq_none_iff` says exactly when
it takes all of them and what it holds then, and `Collector.build_eq_ok_iff` when what it holds
makes a schema. Neither looks at texts.
-/

namespace TypedQuery

namespace Collector

/-- The names of the collected types, in order. -/
def typeNames (c : Collector) : List String := c.types.map ObjectType.name

theorem find?_isSome {c : Collector} {n : String} : (c.find? n).isSome ↔ n ∈ c.typeNames := by
  simp [find?, typeNames]

theorem find?_eq_none {c : Collector} {n : String} : c.find? n = none ↔ n ∉ c.typeNames := by
  rw [← find?_isSome]
  cases c.find? n <;> simp

/-! ## Adding definitions -/

/-- The object types that definitions declare, in order. -/
def newTypes (ds : List Definition) : List ObjectType := ds.filterMap Definition.object?

/-- The query roots that definitions declare, in order. -/
def newRoots (ds : List Definition) : List RootDecl := ds.filterMap Definition.root?

section

variable {t : ObjectType} {r : RootDecl} {ds : List Definition}

@[simp] theorem newTypes_nil : newTypes [] = [] := rfl

@[simp] theorem newTypes_object : newTypes (.object t :: ds) = t :: newTypes ds := rfl

@[simp] theorem newTypes_root : newTypes (.root r :: ds) = newTypes ds := rfl

@[simp] theorem newRoots_nil : newRoots [] = [] := rfl

@[simp] theorem newRoots_object : newRoots (.object t :: ds) = newRoots ds := rfl

@[simp] theorem newRoots_root : newRoots (.root r :: ds) = r :: newRoots ds := rfl

end

/-- What a collector holds after it has taken definitions. -/
def extend (c : Collector) (ds : List Definition) : Collector :=
  { c with types := c.types ++ newTypes ds, root := c.root.or (newRoots ds).head? }

/-- Definitions fit what is collected: their types have free names, and there is at most one root
altogether. -/
structure Fits (c : Collector) (ds : List Definition) : Prop where
  not_scalar : ∀ t ∈ newTypes ds, Scalar.ofName? t.name = none
  nodup : ((newTypes ds).map ObjectType.name).Nodup
  free : ∀ t ∈ newTypes ds, t.name ∉ c.typeNames
  roots_length_le : (c.root.toList ++ newRoots ds).length ≤ 1

theorem addType_eq_ok {c c' : Collector} {t : ObjectType} :
    c.addType t = .ok c' ↔ Scalar.ofName? t.name = none ∧ t.name ∉ c.typeNames ∧
      { c with types := c.types ++ [t] } = c' := by
  unfold addType
  split
  · rename_i h
    simp [Option.isSome_iff_ne_none.1 h]
  · rename_i h
    split
    · rename_i first hf
      have : t.name ∈ c.typeNames := find?_isSome.1 (by rw [hf]; rfl)
      simp [this]
    · rename_i hf
      simp only [Option.not_isSome_iff_eq_none] at h
      simp [h, find?_eq_none.1 hf]

theorem addRoot_eq_ok {c c' : Collector} {r : RootDecl} :
    c.addRoot r = .ok c' ↔ c.root = none ∧ { c with root := some r } = c' := by
  unfold addRoot
  split
  · rename_i h; simp [h]
  · rename_i h; simp [h]

theorem fits_nil (c : Collector) : c.Fits [] :=
  ⟨by simp, by simp, by simp, by cases c.root <;> simp⟩

theorem fits_object {c : Collector} {t : ObjectType} {ds : List Definition} :
    c.Fits (.object t :: ds) ↔ Scalar.ofName? t.name = none ∧ t.name ∉ c.typeNames ∧
      Fits { c with types := c.types ++ [t] } ds := by
  constructor
  · rintro ⟨hs, hn, hf, hr⟩
    rw [newTypes_object] at hs hn hf
    rw [List.map_cons, List.nodup_cons] at hn
    refine ⟨hs t (by simp), hf t (by simp), fun u hu => hs u (by simp [hu]), hn.2, ?_, hr⟩
    intro u hu
    have hne : u.name ≠ t.name := fun he => hn.1 (List.mem_map.2 ⟨u, hu, he⟩)
    have hold : u.name ∉ c.types.map ObjectType.name := hf u (by simp [hu])
    simp [typeNames, hne] at hold ⊢
    exact hold
  · rintro ⟨hs, hf, hrest⟩
    obtain ⟨hs', hn, hf', hr⟩ := hrest
    refine ⟨?_, ?_, ?_, hr⟩
    · exact List.forall_mem_cons.2 ⟨hs, hs'⟩
    · rw [newTypes_object, List.map_cons, List.nodup_cons]
      refine ⟨fun hm => ?_, hn⟩
      obtain ⟨u, hu, he⟩ := List.mem_map.1 hm
      exact hf' u hu (by simp [typeNames, he])
    · refine List.forall_mem_cons.2 ⟨hf, fun u hu hm => hf' u hu ?_⟩
      rw [typeNames, List.map_append]
      exact List.mem_append_left _ hm

theorem fits_root {c : Collector} {r : RootDecl} {ds : List Definition} :
    c.Fits (.root r :: ds) ↔ c.root = none ∧ Fits { c with root := some r } ds := by
  constructor
  · rintro ⟨hs, hn, hf, hr⟩
    rcases hc : c.root with _ | q
    · rw [hc] at hr
      exact ⟨rfl, hs, hn, hf, by simpa using hr⟩
    · simp [hc] at hr
  · rintro ⟨hc, hs, hn, hf, hr⟩
    exact ⟨hs, hn, hf, by rw [hc]; simpa using hr⟩

/-- A collector takes all of the definitions exactly if they fit. -/
theorem addAll_eq_none_iff {c c' : Collector} {ds : List Definition} :
    c.addAll ds = (c', none) ↔ c.Fits ds ∧ c.extend ds = c' := by
  induction ds generalizing c with
  | nil => simp [addAll, extend, fits_nil]
  | cons d ds ih =>
    cases d with
    | object t =>
      have hext : c.extend (.object t :: ds) = extend { c with types := c.types ++ [t] } ds := by
        simp [extend]
      rw [fits_object, hext, addAll]
      cases ha : c.add (.object t) with
      | error e =>
        have hno : ¬ (Scalar.ofName? t.name = none ∧ t.name ∉ c.typeNames) := by
          intro h
          have hok := addType_eq_ok.2 ⟨h.1, h.2, rfl⟩
          rw [show c.addType t = .error e from ha] at hok
          cases hok
        simp only [Prod.mk.injEq, reduceCtorEq, and_false, false_iff]
        exact fun h => hno ⟨h.1.1, h.1.2.1⟩
      | ok c₁ =>
        obtain ⟨hs, hf, rfl⟩ := addType_eq_ok.1 ha
        simp only [ih, hs, hf, not_false_eq_true, true_and]
    | root r =>
      rw [fits_root, addAll]
      cases hc : c.root with
      | some q => simp [add, addRoot, hc]
      | none =>
        have hext : c.extend (.root r :: ds) = extend { c with root := some r } ds := by
          simp [extend, hc]
        simp only [add, addRoot, hc, ih, hext, true_and]

/-- A definition that is refused declares something again. -/
theorem kind_of_add {c : Collector} {d : Definition} {e : SchemaError} (h : c.add d = .error e) :
    e.kind = .duplicate := by
  cases d with
  | object t =>
    simp only [add, addType] at h
    split at h
    · cases h
      rfl
    · split at h <;> cases h
      rfl
  | root r =>
    simp only [add, addRoot] at h
    split at h <;> cases h
    rfl

/-- If definitions are not all taken, one is refused after those before it. -/
theorem exists_refused {c c' : Collector} {ds : List Definition} {e : SchemaError}
    (h : c.addAll ds = (c', some e)) : ∃ front d rest, ds = front ++ d :: rest ∧
      c.addAll front = (c', none) ∧ c'.add d = .error e := by
  induction ds generalizing c with
  | nil => cases h
  | cons d ds ih =>
    rw [addAll] at h
    cases hd : c.add d with
    | error e' =>
      rw [hd] at h
      cases h
      exact ⟨[], d, ds, rfl, rfl, hd⟩
    | ok c₁ =>
      rw [hd] at h
      obtain ⟨front, x, rest, rfl, hfront, hx⟩ := ih h
      exact ⟨d :: front, x, rest, rfl, by rw [addAll, hd]; exact hfront, hx⟩

/-! ## Building -/

/-- The references of object types: the names inside the wrappers of all fields. -/
def references (ts : List ObjectType) : List String :=
  ts.flatMap fun t => t.fields.map fun f => f.type.target

/-- The query root: the declared one, else the type `Query`, else the first type. -/
def queryType (c : Collector) : String :=
  match c.root with
  | some r => r.typeName
  | none => if "Query" ∈ c.typeNames then "Query" else c.typeNames.headD ""

theorem unresolved?_eq_none {c : Collector} {t : ObjectType} :
    c.unresolved? t = none ↔
      ∀ f ∈ t.fields, (Scalar.ofName? f.type.target).isSome ∨ f.type.target ∈ c.typeNames := by
  simp only [unresolved?, List.findSome?_eq_none_iff]
  refine forall₂_congr fun f _ => ?_
  rw [← find?_isSome, TypeRef.scalar?]
  cases Scalar.ofName? f.type.target <;> cases c.find? f.type.target <;> simp

theorem rootName_eq_ok {c : Collector} {first : ObjectType} {rest : List ObjectType} {n : String}
    (h : c.types = first :: rest) :
    c.rootName first = .ok n ↔ (∀ r, c.root = some r → r.typeName ∈ c.typeNames) ∧
      c.queryType = n := by
  unfold rootName queryType
  split
  · rename_i r hr
    by_cases hm : r.typeName ∈ c.typeNames
    · simp [find?_isSome, hm, hr]
    · simp [find?_isSome, hm, hr]
  · rename_i hr
    have hhead : c.typeNames.headD "" = first.name := by rw [typeNames, h]; rfl
    simp only [hr, find?_isSome, defaultRoot, hhead, reduceCtorEq, false_implies, implies_true,
      true_and, Except.ok.injEq]

/-- A schema is built exactly if there is a type and every name refers to something. -/
theorem build_eq_ok_iff {c : Collector} {s : Schema} :
    c.build = .ok s ↔ c.types ≠ [] ∧
      (∀ n ∈ references c.types, (Scalar.ofName? n).isSome ∨ n ∈ c.typeNames) ∧
      (∀ r, c.root = some r → r.typeName ∈ c.typeNames) ∧
      ⟨c.types.map fun t => (t.name, t), c.queryType⟩ = s := by
  have href : (∀ n ∈ references c.types, (Scalar.ofName? n).isSome ∨ n ∈ c.typeNames) ↔
      c.types.findSome? c.unresolved? = none := by
    simp only [List.findSome?_eq_none_iff, unresolved?_eq_none, references, List.mem_flatMap,
      List.mem_map]
    constructor
    · intro h t ht f hf
      exact h _ ⟨t, ht, f, hf, rfl⟩
    · rintro h _ ⟨t, ht, f, hf, rfl⟩
      exact h t ht f hf
  rw [href]
  unfold build
  split
  · rename_i h; simp [h]
  · rename_i first rest h
    cases hu : c.types.findSome? c.unresolved? with
    | some e => simp
    | none =>
      simp only [bind_eq_ok, rootName_eq_ok h, pure_eq_ok, h, ne_eq, reduceCtorEq,
        not_false_eq_true, true_and]
      constructor
      · rintro ⟨_, ⟨hr, rfl⟩, rfl⟩
        exact ⟨hr, rfl⟩
      · rintro ⟨hr, rfl⟩
        exact ⟨_, ⟨hr, rfl⟩, rfl⟩

end Collector

end TypedQuery
