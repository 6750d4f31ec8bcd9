import TypedQuery.Client.Plan
import TypedQuery.Proofs.Table

/-!
# Chosen names

Every name of the generated module is the wanted name with underscores behind it. No two names are
the same, and none is a keyword.

* `Names.Pads`: a name that differs from the wanted one by underscores at its end.
* `Names.Apart`, `Names.apart_chooseAll`: what choosing names one after the other keeps.
* `Plan.chooseNames_fits`: the names of the types of a schema.
-/

namespace TypedQuery.Client

namespace Names

/-! ## One name after the other -/

/-- `name` is `wanted` with underscores behind it. -/
def Pads (wanted name : String) : Prop :=
  ∃ k, name = wanted ++ String.ofList (List.replicate k '_')

theorem pads_refl (name : String) : Pads name name := ⟨0, by simp⟩

theorem Pads.toList {wanted name : String} (h : Pads wanted name) :
    ∃ k, name.toList = wanted.toList ++ List.replicate k '_' := by
  obtain ⟨k, rfl⟩ := h
  exact ⟨k, by simp⟩

theorem Pads.trans {wanted name name' : String} (h : Pads wanted name) (h' : Pads name name') :
    Pads wanted name' := by
  obtain ⟨k, rfl⟩ := h
  obtain ⟨m, rfl⟩ := h'
  refine ⟨k + m, ?_⟩
  rw [String.append_assoc, ← String.ofList_append, List.replicate_append_replicate]

/-- Names that end in a letter: underscores behind one never give another. -/
theorem Pads.eq_of_last {wanted name : String} (h : Pads wanted name)
    (hlast : name.toList.getLast? ≠ some '_') : name = wanted := by
  obtain ⟨k, rfl⟩ := h
  cases k with
  | zero => simp
  | succ k =>
    refine absurd ?_ hlast
    simp [List.replicate_succ']

theorem fresh_not_mem (blocked : List String) (wanted : String) :
    fresh blocked wanted ∉ blocked := by
  fun_induction fresh blocked wanted with
  | case1 _ _ ih => exact ih
  | case2 _ h => exact h

theorem pads_fresh (blocked : List String) (wanted : String) :
    Pads wanted (fresh blocked wanted) := by
  fun_induction fresh blocked wanted with
  | case1 wanted _ ih =>
    obtain ⟨k, hk⟩ := ih
    refine ⟨k + 1, ?_⟩
    rw [hk, String.append_assoc, List.replicate_succ]
    congr 1
    apply String.toList_inj.1
    simp
  | case2 wanted _ => exact pads_refl wanted

variable {taken wanted : List String}

theorem choose_not_mem (taken : List String) (wanted : String) : choose taken wanted ∉ taken :=
  fun h => fresh_not_mem (taken ++ keywords) wanted (List.mem_append_left _ h)

theorem choose_not_keyword (taken : List String) (wanted : String) :
    choose taken wanted ∉ keywords :=
  fun h => fresh_not_mem (taken ++ keywords) wanted (List.mem_append_right _ h)

/-- Names that stand apart from each other and from the keywords. -/
structure Apart (names : List String) : Prop where
  nodup : names.Nodup
  not_keyword : ∀ n ∈ names, n ∉ keywords

theorem apart_nil : Apart [] := ⟨List.nodup_nil, by simp⟩

theorem Apart.perm {names names' : List String} (h : Apart names) (hp : names.Perm names') :
    Apart names' :=
  ⟨hp.nodup_iff.1 h.nodup, fun n hn => h.not_keyword n (hp.mem_iff.2 hn)⟩

theorem apart_choose (h : Apart taken) (wanted : String) :
    Apart (choose taken wanted :: taken) := by
  refine ⟨List.nodup_cons.2 ⟨choose_not_mem taken wanted, h.nodup⟩, ?_⟩
  exact List.forall_mem_cons.2 ⟨choose_not_keyword taken wanted, h.not_keyword⟩

theorem pads_choose (taken : List String) (wanted : String) : Pads wanted (choose taken wanted) :=
  pads_fresh _ _

theorem length_chooseAll : (chooseAll taken wanted).1.length = wanted.length := by
  induction wanted generalizing taken with
  | nil => rfl
  | cons w ws ih => simp [chooseAll, ih]

/-- The names that are taken afterwards: the chosen ones, and those that were taken before. -/
theorem taken_chooseAll :
    (chooseAll taken wanted).2 = (chooseAll taken wanted).1.reverse ++ taken := by
  induction wanted generalizing taken with
  | nil => rfl
  | cons w ws ih => simp [chooseAll, ih]

theorem apart_chooseAll (h : Apart taken) : Apart (chooseAll taken wanted).2 := by
  induction wanted generalizing taken with
  | nil => exact h
  | cons w ws ih => exact ih (apart_choose h w)

theorem pads_chooseAll {i : Nat} {w n : String} (hw : wanted[i]? = some w)
    (hn : (chooseAll taken wanted).1[i]? = some n) : Pads w n := by
  induction wanted generalizing taken i with
  | nil => cases hw
  | cons w' ws ih =>
    cases i with
    | zero =>
      cases hw
      cases hn
      exact pads_choose taken w
    | succ i => exact ih hw hn

end Names

/-! ## The names of types -/

/-- The names of the parts of a type, each led by the name of the type. -/
structure TypeNames.Of (type : String) (names : TypeNames) : Prop where
  tokens : Names.Pads type names.tokens
  response : Names.Pads (type ++ "Response") names.response
  builder : Names.Pads (type ++ "Selection") names.builder
  bound : Names.Pads ("_" ++ type ++ "R") names.bound

namespace Plan

/-- What the chosen names have to do with the types that they are for. -/
structure NamePlan.Fits (types : List ObjectType) (names : NamePlan) : Prop where
  keys : names.types.names = types.map ObjectType.name
  taken : names.taken = names.params.reverse ++ ((names.types.values.map TypeNames.bound).reverse ++
    ((names.types.values.map TypeNames.builder).reverse ++
    ((names.types.values.map TypeNames.response).reverse ++
    ((names.types.values.map TypeNames.tokens).reverse ++ reserved))))
  taken_apart : Names.Apart names.taken
  params : ∀ (i : Nat) n, names.params[i]? = some n → Names.Pads ("_F" ++ toString i) n
  length_le : ∀ t ∈ types, t.fields.length ≤ names.params.length
  of : ∀ n r, (n, r) ∈ names.types → r.Of n

theorem le_foldl_max {ns : List Nat} {n m : Nat} (h : n ∈ ns ∨ n ≤ m) : n ≤ ns.foldl max m := by
  induction ns generalizing m with
  | nil =>
    rcases h with h | h
    · cases h
    · exact h
  | cons k ns ih =>
    refine ih ?_
    rcases h with h | h
    · rcases List.mem_cons.1 h with rfl | h
      · exact .inr (Nat.le_max_right _ _)
      · exact .inl h
    · exact .inr (Nat.le_trans h (Nat.le_max_left _ _))

theorem map_zip_snd {α β γ : Type} {as : List α} {bs : List β} (h : bs.length ≤ as.length)
    (f : β → γ) : (as.zip bs).map (fun x => f x.2) = bs.map f := by
  calc (as.zip bs).map (fun x => f x.2) = ((as.zip bs).map Prod.snd).map f := by
        rw [List.map_map]; rfl
    _ = bs.map f := by rw [List.map_snd_zip h]

/-- Rows of names, from their columns. -/
theorem map_rows {ns rs bs vs : List String} (hr : rs.length = ns.length)
    (hb : bs.length = ns.length) (hv : vs.length = ns.length) :
    let rows := (ns.zip (rs.zip (bs.zip vs))).map fun (n, r, b, v) => TypeNames.mk n r b v
    rows.map TypeNames.tokens = ns ∧ rows.map TypeNames.response = rs ∧
      rows.map TypeNames.builder = bs ∧ rows.map TypeNames.bound = vs := by
  have hbv : (bs.zip vs).length = ns.length := by rw [List.length_zip]; omega
  have hrbv : (rs.zip (bs.zip vs)).length = ns.length := by rw [List.length_zip]; omega
  simp only [List.map_map]
  refine ⟨?_, ?_, ?_, ?_⟩
  · exact List.map_fst_zip (by omega)
  · exact (map_zip_snd (by omega) Prod.fst).trans (List.map_fst_zip (by omega))
  · refine (map_zip_snd (by omega) fun x : String × String × String => x.2.1).trans ?_
    exact (map_zip_snd (by omega) Prod.fst).trans (List.map_fst_zip (by omega))
  · refine (map_zip_snd (by omega) fun x : String × String × String => x.2.2).trans ?_
    exact (map_zip_snd (by omega) Prod.snd).trans (List.map_snd_zip (by omega))

theorem reserved_apart : Names.Apart reserved := ⟨by decide, by decide⟩

/-- The names that are chosen for types fit them, if no two types have the same name. -/
theorem chooseNames_fits {types : List ObjectType} (h : (types.map ObjectType.name).Nodup) :
    (chooseNames types).Fits types := by
  let names := types.map ObjectType.name
  let most := (types.map fun t => t.fields.length).foldl max 0
  let spaces := Names.chooseAll reserved names
  let responses := Names.chooseAll spaces.2 (names.map (· ++ "Response"))
  let builders := Names.chooseAll responses.2 (names.map (· ++ "Selection"))
  let bounds := Names.chooseAll builders.2 (names.map fun n => "_" ++ n ++ "R")
  let params := Names.chooseAll bounds.2 ((List.range most).map fun i => "_F" ++ toString i)
  let rows := (spaces.1.zip (responses.1.zip (builders.1.zip bounds.1))).map
    fun (n, r, b, v) => TypeNames.mk n r b v
  have hspaces : spaces.1.length = names.length := Names.length_chooseAll
  have hresponses : responses.1.length = names.length := by
    rw [Names.length_chooseAll, List.length_map]
  have hbuilders : builders.1.length = names.length := by
    rw [Names.length_chooseAll, List.length_map]
  have hbounds : bounds.1.length = names.length := by
    rw [Names.length_chooseAll, List.length_map]
  obtain ⟨htokens, hresponse, hbuilder, hbound⟩ := map_rows (hresponses.trans hspaces.symm)
    (hbuilders.trans hspaces.symm) (hbounds.trans hspaces.symm)
  have hlen : rows.length = names.length := by
    rw [← hspaces, ← List.length_map TypeNames.tokens, htokens]
  have hkeys : (names.zip rows).map Prod.fst = names := List.map_fst_zip (by omega)
  have htable : (chooseNames types).types = names.zip rows :=
    Table.ofList_of_nodup (by rw [hkeys]; exact h)
  have hvalues : (chooseNames types).types.values = rows := by
    rw [htable]
    exact List.map_snd_zip (by omega)
  have hparams : params.1.length = most := by
    rw [Names.length_chooseAll, List.length_map, List.length_range]
  refine ⟨?_, ?_, ?_, ?_, ?_, ?_⟩
  · rw [htable]
    exact hkeys
  · rw [hvalues, htokens, hresponse, hbuilder, hbound]
    have hp : params.2 = params.1.reverse ++ bounds.2 := Names.taken_chooseAll
    have hv : bounds.2 = bounds.1.reverse ++ builders.2 := Names.taken_chooseAll
    have hb : builders.2 = builders.1.reverse ++ responses.2 := Names.taken_chooseAll
    have hr : responses.2 = responses.1.reverse ++ spaces.2 := Names.taken_chooseAll
    have hn : spaces.2 = spaces.1.reverse ++ reserved := Names.taken_chooseAll
    rw [← hn, ← hr, ← hb, ← hv]
    exact hp
  · exact Names.apart_chooseAll (Names.apart_chooseAll (Names.apart_chooseAll
      (Names.apart_chooseAll (Names.apart_chooseAll reserved_apart))))
  · intro i n hn
    have hi : i < most := hparams ▸ (List.getElem?_eq_some_iff.1 hn).1
    have hwant : ((List.range most).map fun i => "_F" ++ toString i)[i]? =
        some ("_F" ++ toString i) := by
      rw [List.getElem?_map, List.getElem?_range hi]
      rfl
    exact Names.pads_chooseAll hwant hn
  · intro t ht
    rw [show (chooseNames types).params.length = most from hparams]
    exact le_foldl_max (.inl (List.mem_map.2 ⟨t, ht, rfl⟩))
  · intro n r hr
    rw [htable] at hr
    obtain ⟨i, hi⟩ := List.mem_iff_getElem?.1 hr
    obtain ⟨hn, hrow⟩ := List.getElem?_zip_eq_some.1 hi
    -- The row of a type holds what was chosen for it in each round.
    have hcol : ∀ f : TypeNames → String, (rows.map f)[i]? = some (f r) := fun f => by
      rw [List.getElem?_map, hrow]; rfl
    have hwant : ∀ f : String → String, (names.map f)[i]? = some (f n) := fun f => by
      rw [List.getElem?_map, hn]; rfl
    refine ⟨?_, ?_, ?_, ?_⟩
    · exact Names.pads_chooseAll hn (htokens ▸ hcol TypeNames.tokens)
    · exact Names.pads_chooseAll (hwant (· ++ "Response")) (hresponse ▸ hcol TypeNames.response)
    · exact Names.pads_chooseAll (hwant (· ++ "Selection")) (hbuilder ▸ hcol TypeNames.builder)
    · exact Names.pads_chooseAll (hwant fun n => "_" ++ n ++ "R") (hbound ▸ hcol TypeNames.bound)

theorem pads_wantedAttribute (name : String) : Names.Pads name (wantedAttribute name) := by
  unfold wantedAttribute
  split
  · exact ⟨1, rfl⟩
  · exact Names.pads_refl name

end Plan

end TypedQuery.Client
