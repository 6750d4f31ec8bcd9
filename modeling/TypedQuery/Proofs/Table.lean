import TypedQuery.Table

/-!
# Tables without repeated names

Where no name comes twice, a table is the list of its entries: a look-up finds exactly what the list
holds, and putting the entries one after the other builds the list itself.
-/

namespace TypedQuery.Table

variable {α : Type} {t : Table α} {name : String} {value : α}

theorem mem_of_get? (h : t.get? name = some value) : (name, value) ∈ t := by
  induction t with
  | nil => cases h
  | cons e rest ih =>
    obtain ⟨k, v⟩ := e
    rw [get?] at h
    split at h
    · rename_i hk
      cases h
      rw [hk]
      exact List.mem_cons_self ..
    · exact List.mem_cons_of_mem _ (ih h)

theorem mem_names (h : (name, value) ∈ t) : name ∈ t.names := List.mem_map.2 ⟨_, h, rfl⟩

theorem get?_eq_some (hn : t.names.Nodup) (h : (name, value) ∈ t) : t.get? name = some value := by
  induction t with
  | nil => cases h
  | cons e rest ih =>
    obtain ⟨k, v⟩ := e
    obtain ⟨hk, hrest⟩ := List.nodup_cons.1 hn
    rcases List.mem_cons.1 h with h | h
    · cases h
      exact if_pos rfl
    · have hne : k ≠ name := fun he => hk (he ▸ mem_names h)
      exact (if_neg hne).trans (ih hrest h)

theorem get?_isSome : (t.get? name).isSome ↔ name ∈ t.names := by
  induction t with
  | nil => simp [get?, names]
  | cons e rest ih =>
    obtain ⟨k, v⟩ := e
    rw [get?]
    by_cases hk : k = name
    · simp [hk, names]
    · rw [if_neg hk, ih]
      simp [names, Ne.symm hk]

theorem get?_eq_none : t.get? name = none ↔ name ∉ t.names := by
  rw [← get?_isSome]
  cases t.get? name <;> simp

theorem exists_get? (h : name ∈ t.names) : ∃ v, t.get? name = some v :=
  Option.isSome_iff_exists.1 (get?_isSome.2 h)

theorem get?_map {β : Type} (f : α → β) (t : Table α) (name : String) :
    Table.get? (t.map fun e => (e.1, f e.2)) name = (t.get? name).map f := by
  induction t with
  | nil => rfl
  | cons e rest ih =>
    obtain ⟨k, v⟩ := e
    rw [List.map_cons, get?, get?, ih]
    split <;> rfl

/-- Looking up every name in turn gives the values. -/
theorem map_get?_names (hn : t.names.Nodup) : t.names.map t.get? = t.values.map some := by
  unfold names values
  rw [List.map_map, List.map_map]
  exact List.map_congr_left fun e he => get?_eq_some hn he

theorem put_of_not_mem (h : name ∉ t.names) : t.put name value = t ++ [(name, value)] := by
  induction t with
  | nil => rfl
  | cons e rest ih =>
    obtain ⟨k, v⟩ := e
    obtain ⟨hne, hrest⟩ := not_or.1 fun hm => h (List.mem_cons.2 hm)
    rw [put, if_neg (Ne.symm hne), ih hrest]
    rfl

theorem mem_put {e : String × α} (h : e ∈ t.put name value) : e ∈ t ∨ e = (name, value) := by
  induction t with
  | nil => exact .inr (List.mem_singleton.1 h)
  | cons d rest ih =>
    obtain ⟨k, v⟩ := d
    rw [put] at h
    split at h
    · rename_i hk
      rcases List.mem_cons.1 h with rfl | h
      · exact .inr (by rw [hk])
      · exact .inl (List.mem_cons_of_mem _ h)
    · rcases List.mem_cons.1 h with rfl | h
      · exact .inl (List.mem_cons_self ..)
      · rcases ih h with h | h
        · exact .inl (List.mem_cons_of_mem _ h)
        · exact .inr h

/-- A table holds only entries that were put. -/
theorem mem_putAll {entries : List (String × α)} {e : String × α} (h : e ∈ t.putAll entries) :
    e ∈ t ∨ e ∈ entries := by
  induction entries generalizing t with
  | nil => exact .inl h
  | cons d rest ih =>
    rcases ih (show e ∈ (t.put d.1 d.2).putAll rest from h) with h | h
    · rcases mem_put h with h | rfl
      · exact .inl h
      · exact .inr (List.mem_cons_self ..)
    · exact .inr (List.mem_cons_of_mem _ h)

theorem mem_ofList {entries : List (String × α)} {e : String × α} (h : e ∈ ofList entries) :
    e ∈ entries := by
  rcases mem_putAll h with h | h
  · cases h
  · exact h

theorem putAll_of_nodup {entries : List (String × α)}
    (h : (t.names ++ entries.map Prod.fst).Nodup) : t.putAll entries = t ++ entries := by
  induction entries generalizing t with
  | nil => exact (List.append_nil t).symm
  | cons e rest ih =>
    have hnew : e.1 ∉ t.names := fun hm =>
      (List.nodup_append.1 h).2.2 _ hm _ (List.mem_cons_self ..) rfl
    have hput : t.put e.1 e.2 = t ++ [e] := put_of_not_mem hnew
    show (t.put e.1 e.2).putAll rest = _
    rw [hput, ih, List.append_assoc]
    · rfl
    · simpa [names] using h

/-- Entries with different names build the table that lists them. -/
theorem ofList_of_nodup {entries : List (String × α)} (h : (entries.map Prod.fst).Nodup) :
    ofList entries = entries := putAll_of_nodup h

end TypedQuery.Table
