/-!
# Outcomes of steps, and lists side by side

A step that can fail is an `Except`, and a sequence of steps ends well if each of them does
(`bind_eq_ok`, `mapM_eq_ok`, `foldlM_induction`). What a pass over a list makes of it stands beside
the list, entry by entry (`Aligned`). Lists that are joined come apart where the kind of their
entries changes (`append_inj_of_all`).
-/

namespace TypedQuery

section

variable {ε α β : Type}

theorem bind_eq_ok {x : Except ε α} {f : α → Except ε β} {b : β} :
    (x >>= f) = .ok b ↔ ∃ a, x = .ok a ∧ f a = .ok b := by
  cases x <;> simp [bind, Except.bind]

theorem pure_eq_ok {a b : α} : (pure a : Except ε α) = .ok b ↔ a = b := by
  simp [pure, Except.pure]

theorem map_eq_ok {x : Except ε α} {f : α → β} {b : β} :
    x.map f = .ok b ↔ ∃ a, x = .ok a ∧ f a = b := by
  cases x <;> simp [Except.map]

theorem map_eq_error {x : Except ε α} {f : α → β} {e : ε} : x.map f = .error e ↔ x = .error e := by
  cases x <;> simp [Except.map]

theorem mapError_eq_ok {ε' : Type} {x : Except ε α} {f : ε → ε'} {a : α} :
    x.mapError f = .ok a ↔ x = .ok a := by
  cases x with
  | error e => exact ⟨nofun, nofun⟩
  | ok b => exact ⟨fun h => Except.ok.inj h ▸ rfl, fun h => Except.ok.inj h ▸ rfl⟩

/-- What every step of a fold keeps, a fold that ends well keeps. -/
theorem foldlM_induction {P : β → Prop} {f : β → α → Except ε β} {as : List α}
    (hstep : ∀ b, ∀ a ∈ as, ∀ b', f b a = .ok b' → P b → P b') {b b' : β}
    (h : as.foldlM f b = .ok b') (hb : P b) : P b' := by
  induction as generalizing b with
  | nil =>
    rw [List.foldlM_nil, pure_eq_ok] at h
    exact h ▸ hb
  | cons a as ih =>
    rw [List.foldlM_cons, bind_eq_ok] at h
    obtain ⟨c, hc, hrest⟩ := h
    exact ih (fun b a ha => hstep b a (List.mem_cons_of_mem _ ha)) hrest
      (hstep b a (List.mem_cons_self ..) c hc hb)

theorem toOption_eq_some {x : Except ε α} {a : α} : x.toOption = some a ↔ x = .ok a := by
  cases x <;> simp [Except.toOption]

end

/-! ## Lists side by side -/

variable {α β γ : Type}

/-- Lists of the same length whose entries at the same places are related. -/
structure Aligned (R : Nat → α → β → Prop) (as : List α) (bs : List β) : Prop where
  length_eq : bs.length = as.length
  rel : ∀ i a b, as[i]? = some a → bs[i]? = some b → R i a b

namespace Aligned

variable {R : Nat → α → β → Prop} {as : List α} {bs : List β}

theorem nil : Aligned R [] [] := ⟨rfl, by simp⟩

theorem cons {a : α} {b : β} (h : R 0 a b) (ht : Aligned (fun i => R (i + 1)) as bs) :
    Aligned R (a :: as) (b :: bs) := by
  refine ⟨by simp [ht.length_eq], fun i x y hx hy => ?_⟩
  cases i with
  | zero =>
    cases hx
    cases hy
    exact h
  | succ i => exact ht.rel i x y hx hy

theorem mono {Q : Nat → α → β → Prop} (h : Aligned R as bs) (hq : ∀ i a b, R i a b → Q i a b) :
    Aligned Q as bs :=
  ⟨h.length_eq, fun i a b ha hb => hq i a b (h.rel i a b ha hb)⟩

theorem map {R : α → β → Prop} {f : α → β} (h : ∀ a ∈ as, R a (f a)) :
    Aligned (fun _ => R) as (as.map f) := by
  refine ⟨by simp, fun i a b ha hb => ?_⟩
  rw [List.getElem?_map, ha] at hb
  cases hb
  exact h a (List.mem_of_getElem? ha)

theorem exists_right (h : Aligned R as bs) {i : Nat} {a : α} (ha : as[i]? = some a) :
    ∃ b, bs[i]? = some b ∧ R i a b := by
  have hi : i < bs.length := by
    rw [h.length_eq]
    exact (List.getElem?_eq_some_iff.1 ha).1
  exact ⟨bs[i], List.getElem?_eq_getElem hi, h.rel i a _ ha (List.getElem?_eq_getElem hi)⟩

theorem exists_left (h : Aligned R as bs) {i : Nat} {b : β} (hb : bs[i]? = some b) :
    ∃ a, as[i]? = some a ∧ R i a b := by
  have hi : i < as.length := by
    rw [← h.length_eq]
    exact (List.getElem?_eq_some_iff.1 hb).1
  exact ⟨as[i], List.getElem?_eq_getElem hi, h.rel i _ b (List.getElem?_eq_getElem hi) hb⟩

theorem exists_of_mem_right (h : Aligned R as bs) {b : β} (hb : b ∈ bs) :
    ∃ i a, as[i]? = some a ∧ bs[i]? = some b ∧ R i a b := by
  obtain ⟨i, hi⟩ := List.mem_iff_getElem?.1 hb
  obtain ⟨a, ha, hr⟩ := h.exists_left hi
  exact ⟨i, a, ha, hi, hr⟩

theorem exists_of_mem_left (h : Aligned R as bs) {a : α} (ha : a ∈ as) :
    ∃ i b, as[i]? = some a ∧ bs[i]? = some b ∧ R i a b := by
  obtain ⟨i, hi⟩ := List.mem_iff_getElem?.1 ha
  obtain ⟨b, hb, hr⟩ := h.exists_right hi
  exact ⟨i, b, hi, hb, hr⟩

/-- What related entries have in common, the lists have in common. -/
theorem map_eq_map (h : Aligned R as bs) {f : α → γ} {g : β → γ}
    (hr : ∀ i a b, R i a b → g b = f a) : bs.map g = as.map f := by
  apply List.ext_getElem?
  intro i
  rw [List.getElem?_map, List.getElem?_map]
  cases ha : as[i]? with
  | none =>
    have hb : bs[i]? = none := by
      rw [List.getElem?_eq_none_iff, h.length_eq]
      exact List.getElem?_eq_none_iff.1 ha
    rw [hb]
    rfl
  | some a =>
    obtain ⟨b, hb, hab⟩ := h.exists_right ha
    rw [hb]
    exact congrArg some (hr i a b hab)

end Aligned

/-- Entries of one kind in front of something else: the first entry of another kind ends them. -/
theorem append_inj_of_all {p : α → Bool} {xs ys rest rest' : List α} (hx : ∀ a ∈ xs, p a = true)
    (hy : ∀ a ∈ ys, p a = true) (hrest : ∀ a ∈ rest.head?, p a = false)
    (hrest' : ∀ a ∈ rest'.head?, p a = false) (h : xs ++ rest = ys ++ rest') :
    xs = ys ∧ rest = rest' := by
  induction xs generalizing ys with
  | nil =>
    cases ys with
    | nil => exact ⟨rfl, h⟩
    | cons y ys =>
      have hbad := hrest y (by rw [show rest = _ from h]; rfl)
      rw [hy y (List.mem_cons_self ..)] at hbad
      cases hbad
  | cons x xs ih =>
    cases ys with
    | nil =>
      have hbad := hrest' x (by rw [← show _ = rest' from h]; rfl)
      rw [hx x (List.mem_cons_self ..)] at hbad
      cases hbad
    | cons y ys =>
      obtain ⟨rfl, htail⟩ := List.cons.inj h
      obtain ⟨rfl, hrests⟩ := ih (List.forall_mem_cons.1 hx).2 (List.forall_mem_cons.1 hy).2 htail
      exact ⟨rfl, hrests⟩

/-- A pass over a list ends well exactly if it does at every entry. -/
theorem mapM_eq_ok {ε : Type} {f : α → Except ε β} {as : List α} {bs : List β} :
    as.mapM f = .ok bs ↔ Aligned (fun _ a b => f a = .ok b) as bs := by
  induction as generalizing bs with
  | nil =>
    rw [List.mapM_nil, pure_eq_ok]
    constructor
    · rintro rfl
      exact .nil
    · intro h
      exact (List.length_eq_zero_iff.1 h.length_eq).symm
  | cons a as ih =>
    rw [List.mapM_cons]
    simp only [bind_eq_ok, pure_eq_ok, ih]
    constructor
    · rintro ⟨b, hb, bs, hbs, rfl⟩
      exact .cons hb hbs
    · intro h
      cases bs with
      | nil => cases h.length_eq
      | cons b bs =>
        refine ⟨b, h.rel 0 a b rfl rfl, bs, ⟨?_, ?_⟩, rfl⟩
        · exact Nat.succ_inj.1 h.length_eq
        · intro i x y hx hy
          exact h.rel (i + 1) x y hx hy

theorem mapM_eq_some {f : α → Option β} {as : List α} {bs : List β}
    (h : Aligned (fun _ a b => f a = some b) as bs) : as.mapM f = some bs := by
  induction as generalizing bs with
  | nil =>
    rw [List.length_eq_zero_iff.1 h.length_eq]
    rfl
  | cons a as ih =>
    cases bs with
    | nil => cases h.length_eq
    | cons b bs =>
      have hb : f a = some b := h.rel 0 a b rfl rfl
      have hbs : as.mapM f = some bs :=
        ih ⟨Nat.succ_inj.1 h.length_eq, fun i x y hx hy => h.rel (i + 1) x y hx hy⟩
      rw [List.mapM_cons, hb, hbs]
      rfl

end TypedQuery
