import TypedQuery.Proofs.Client.Coherent
import TypedQuery.Proofs.Client.Docstring

/-!
# How the names of a plan are spelled

Names in a schema are made of ASCII letters, digits and underscores. All names that a plan makes of
them are made of the same characters, so each of them can be declared and can stand in a literal.

* `IsWord`: a text of such characters.
* `Declarable`: a name that the module can declare.
* `Plan.Spelled`: how the names of a plan are spelled.
* `Plan.spelled_of_ofSchema`: the plan of a well-formed schema has all of it.
-/

namespace TypedQuery

open Lexeme (isNameStart isNameChar)

/-! ## Words -/

theorem isIdentStart_of_isNameStart {c : Char} (h : isNameStart c = true) :
    Text.isIdentStart c = true := by
  have hascii : ∀ c : Char, c.toNat < 128 → isNameStart c = true → Text.isIdentStart c = true :=
    forall_ascii (by decide)
  exact hascii c (toNat_lt_of_isNameChar (by rw [isNameChar, h]; rfl)) h

theorem isIdentChar_of_isNameChar {c : Char} (h : isNameChar c = true) :
    Text.isIdentChar c = true := by
  have hascii : ∀ c : Char, c.toNat < 128 → isNameChar c = true → Text.isIdentChar c = true :=
    forall_ascii (by decide)
  exact hascii c (toNat_lt_of_isNameChar h) h

theorem isNameChar_toUpper {c : Char} (h : isNameChar c = true) :
    isNameChar c.toUpper = true := by
  have hascii : ∀ c : Char, c.toNat < 128 → isNameChar c = true → isNameChar c.toUpper = true :=
    forall_ascii (by decide)
  exact hascii c (toNat_lt_of_isNameChar h) h

/-- All characters of a text may go on a name. -/
def IsWord (s : String) : Prop := s.toList.all isNameChar = true

instance (s : String) : Decidable (IsWord s) :=
  inferInstanceAs (Decidable (s.toList.all isNameChar = true))

theorem isWord_iff {s : String} : IsWord s ↔ ∀ c ∈ s.toList, isNameChar c = true :=
  List.all_eq_true

theorem isWord_toString (n : Nat) : IsWord (toString n) := by
  refine isWord_iff.2 fun c hc => ?_
  have hdigits : (toString n).toList = Nat.toDigits 10 n := by
    rw [Nat.toString_eq_repr, Nat.repr, String.toList_ofList]
  rw [hdigits] at hc
  have hdigit := Nat.isDigit_of_mem_toDigits (b := 10) (by decide) (by decide) hc
  rw [isNameChar, Bool.or_eq_true]
  exact .inr hdigit

namespace IsName

variable {n m : String}

theorem isWord (h : IsName n) : IsWord n := by
  obtain ⟨c, cs, hn, hc, hcs⟩ := h
  rw [isWord_iff, hn]
  exact List.forall_mem_cons.2 ⟨by rw [isNameChar, hc]; rfl, hcs⟩

theorem append (h : IsName n) (hm : IsWord m) : IsName (n ++ m) := by
  obtain ⟨c, cs, hn, hc, hcs⟩ := h
  refine ⟨c, cs ++ m.toList, by rw [String.toList_append, hn]; rfl, hc, ?_⟩
  exact List.forall_mem_append.2 ⟨hcs, isWord_iff.1 hm⟩

theorem isIdentifier (h : IsName n) : Text.isIdentifier n = true := by
  obtain ⟨c, cs, hn, hc, hcs⟩ := h
  rw [Text.isIdentifier, hn]
  refine Bool.and_eq_true_iff.2 ⟨isIdentStart_of_isNameStart hc, List.all_eq_true.2 ?_⟩
  exact fun d hd => isIdentChar_of_isNameChar (hcs d hd)

end IsName

theorem isName_iff {n : String} :
    IsName n ↔ n.toList.head?.any isNameStart = true ∧ IsWord n := by
  refine ⟨fun h => ⟨?_, h.isWord⟩, fun ⟨hstart, hword⟩ => ?_⟩
  · obtain ⟨c, cs, hn, hc, -⟩ := h
    rw [hn]
    exact hc
  · rw [isWord_iff] at hword
    cases hn : n.toList with
    | nil =>
      rw [hn] at hstart
      cases hstart
    | cons c cs =>
      rw [hn] at hstart hword
      exact ⟨c, cs, hn, hstart, (List.forall_mem_cons.1 hword).2⟩

instance (n : String) : Decidable (IsName n) := decidable_of_iff _ isName_iff.symm

theorem Scalar.isName_name (k : Scalar) : IsName k.name := by cases k <;> decide

namespace Client

/-- A word can stand between double quotes as it is. -/
theorem Item.isPlain_of_isWord {s : String} (h : IsWord s) : isPlain s = true := by
  have hascii : ∀ c : Char, c.toNat < 128 → isNameChar c = true →
      (c != '"' && c != '\\' && c != '\n' && c != '\r' && c.toNat != 0) = true :=
    forall_ascii (by decide)
  refine List.all_eq_true.2 fun c hc => ?_
  have hchar := isWord_iff.1 h c hc
  exact hascii c (toNat_lt_of_isNameChar hchar) hchar

/-- A word can stand between triple quotes as it is. -/
theorem Docstring.isClean_of_isWord {s : String} (h : IsWord s) :
    s.toList.all isClean = true := by
  refine List.all_eq_true.2 fun c hc => ?_
  have hplain := List.all_eq_true.1 (Item.isPlain_of_isWord h) c hc
  simp only [Bool.and_eq_true] at hplain
  rw [isClean, hplain.1.1.1.1, hplain.1.1.1.2, hplain.2]
  rfl

/-! ## Names that are made of names -/

theorem Names.Pads.isName {wanted name : String} (h : Pads wanted name) (hw : IsName wanted) :
    IsName name := by
  obtain ⟨k, rfl⟩ := h
  refine hw.append (isWord_iff.2 fun c hc => ?_)
  rw [String.toList_ofList] at hc
  rw [List.eq_of_mem_replicate hc]
  decide

theorem isWord_pascalCase {name : String} (h : IsWord name) : IsWord (pascalCase name) := by
  simp only [pascalCase]
  split
  · decide
  · refine isWord_iff.2 fun c hc => ?_
    rw [String.toList_ofList, List.mem_flatMap] at hc
    obtain ⟨part, hpart, hc⟩ := hc
    have hold : ∀ d ∈ part, isNameChar d = true := fun d hd =>
      isWord_iff.1 h d (mem_of_mem_splitWhere hpart hd)
    cases part with
    | nil => cases hc
    | cons d ds =>
      have hd : isNameChar d = true := hold d (List.mem_cons_self ..)
      rcases List.mem_append.1 hc with hc | hc
      · rw [Text.capital, if_pos (toNat_lt_of_isNameChar hd), List.mem_singleton] at hc
        rw [hc]
        exact isNameChar_toUpper hd
      · exact hold c (List.mem_cons_of_mem _ hc)

theorem isName_underscore_append {s : String} (h : IsWord s) : IsName ("_" ++ s) :=
  IsName.append (by decide) h

/-! ## Spelling of plans -/

/-- A name that the module can declare. -/
structure Declarable (n : String) : Prop where
  isName : IsName n
  not_keyword : n ∉ keywords

theorem Declarable.isValid {n : String} (h : Declarable n) : Item.isName n = true := by
  simp [Item.isName, h.isName.isIdentifier, h.not_keyword]

/-- The names that the module declares for a type can be declared. -/
structure TypeNames.Spelled (names : TypeNames) : Prop where
  tokens : Declarable names.tokens
  response : Declarable names.response
  builder : Declarable names.builder
  bound : Declarable names.bound

/-- The names of a target are spelled well. -/
structure Target.Spelled (t : Target) : Prop where
  name : IsName t.name
  names : ∀ n own, t = .object n own → own.Spelled

/-- The names in a marker can be declared. -/
def Marker.Spelled : Marker → Prop
  | .any | .unselected | .selected => True
  | .nested bound => Declarable bound
  | .param name => Declarable name

/-- The names in the plan of a field are spelled well. -/
structure FieldPlan.Spelled (f : FieldPlan) : Prop where
  name : IsName f.name
  attr : Declarable f.attr
  tokenClass : Declarable f.tokenClass
  accessorClass : Declarable f.accessorClass
  target : f.target.Spelled
  type : IsName f.type.target
  owner : ∀ m ∈ f.owner, m.Spelled
  result : ∀ m ∈ f.result, m.Spelled

/-- The names in the plan of a type are spelled well. -/
structure TypePlan.Spelled (t : TypePlan) : Prop where
  name : IsName t.name
  names : t.names.Spelled
  params : ∀ n ∈ t.params, Declarable n
  fields : ∀ f ∈ t.fields, f.Spelled

/-- The names in a plan are spelled well. -/
structure Plan.Spelled (plan : Plan) : Prop where
  params : ∀ n ∈ plan.params, Declarable n
  types : ∀ t ∈ plan.types, t.Spelled

theorem Target.Spelled.marker {t : Target} (h : t.Spelled) : t.marker.Spelled := by
  cases t with
  | scalar k => trivial
  | object n own => exact (h.names n own rfl).bound

namespace Plan

variable {s : Schema} {plan : Plan}

/-- What a well-formed schema refers to has a name. -/
theorem isName_target (hw : s.WellFormed) {o : ObjectType} (ho : o ∈ s.objects) {g : Field}
    (hg : g ∈ o.fields) : IsName g.type.target := by
  rcases hw.resolved o ho g hg with hscalar | hmem
  · obtain ⟨k, hk⟩ := Option.isSome_iff_exists.1 hscalar
    rw [← Scalar.name_of_ofName? hk]
    exact k.isName_name
  · rw [← map_name_objects hw.keyed] at hmem
    obtain ⟨u, hu, hname⟩ := List.mem_map.1 hmem
    rw [← hname]
    exact (hw.types_wellFormed u hu).isName

theorem declarable_of_mem_params (hw : s.WellFormed) (h : ofSchema s = .ok plan) {n : String}
    (hn : n ∈ plan.params) : Declarable n := by
  have hdeclared : n ∈ plan.declared := by
    simp only [declared, List.mem_append]
    exact .inr (.inr (.inr (.inr (.inl hn))))
  refine ⟨?_, (apart_declared hw.keyed h).not_keyword n (List.mem_append_left _ hdeclared)⟩
  rw [(ofSchema_eq_ok h).1] at hn
  obtain ⟨i, hi⟩ := List.mem_iff_getElem?.1 hn
  refine ((chooseNames_fits_of_keyed hw.keyed).params i n hi).isName ?_
  exact IsName.append (by decide) (isWord_toString i)

namespace Pairs

variable {o : ObjectType} {p : TypePlan} {f : FieldPlan}

theorem spelled_names (hw : s.WellFormed) (h : ofSchema s = .ok plan) (hp : Pairs s plan o p) :
    p.names.Spelled := by
  have hname : IsName o.name := (hw.types_wellFormed o hp.object).isName
  have hof := (chooseNames_fits_of_keyed hw.keyed).of _ _ (Table.mem_of_get? hp.of.names_eq)
  have hkeyword : ∀ n ∈ [p.names.tokens, p.names.response, p.names.builder, p.names.bound],
      n ∉ keywords := by
    intro n hn
    refine (apart_declared hw.keyed h).not_keyword n (List.mem_append_left _ ?_)
    simp only [List.mem_cons, List.not_mem_nil, or_false] at hn
    simp only [declared, List.mem_append, List.mem_map]
    rcases hn with rfl | rfl | rfl | rfl
    · exact .inl ⟨p, hp.type, rfl⟩
    · exact .inr (.inl ⟨p, hp.type, rfl⟩)
    · exact .inr (.inr (.inl ⟨p, hp.type, rfl⟩))
    · exact .inr (.inr (.inr (.inl ⟨p, hp.type, rfl⟩)))
  simp only [List.forall_mem_cons] at hkeyword
  obtain ⟨htokens, hresponse, hbuilder, hbound, -⟩ := hkeyword
  refine ⟨⟨hof.tokens.isName hname, htokens⟩,
    ⟨hof.response.isName (hname.append (by decide)), hresponse⟩,
    ⟨hof.builder.isName (hname.append (by decide)), hbuilder⟩, ⟨hof.bound.isName ?_, hbound⟩⟩
  exact (isName_underscore_append hname.isWord).append (by decide)

theorem spelled_target (hw : s.WellFormed) (h : ofSchema s = .ok plan) (hp : Pairs s plan o p)
    (hf : f ∈ p.fields) : f.target.Spelled := by
  obtain ⟨g, hg, i, hof⟩ := hp.exists_field hf
  have htype := isName_target hw hp.object hg
  rcases (coherent_of_ofSchema hw h).target_cases hp.type hf hof with
    ⟨k, -, htarget⟩ | ⟨-, u, hu, hname, htarget⟩
  · rw [htarget]
    exact ⟨k.isName_name, nofun⟩
  · obtain ⟨o', hu⟩ := exists_pairs h hu
    rw [htarget]
    refine ⟨hname ▸ htype, ?_⟩
    rintro n own ⟨⟩
    exact hu.spelled_names hw h

theorem spelled_field (hw : s.WellFormed) (h : ofSchema s = .ok plan) (hp : Pairs s plan o p)
    (hf : f ∈ p.fields) : f.Spelled := by
  obtain ⟨g, hg, i, hof⟩ := hp.exists_field hf
  have ho := hw.types_wellFormed o hp.object
  have hname : IsName g.name := ho.fields_isName g hg
  have hstem : IsName ("_" ++ o.name ++ pascalCase g.name) :=
    (isName_underscore_append ho.isName.isWord).append (isWord_pascalCase hname.isWord)
  have htarget := hp.spelled_target hw h hf
  have hclass : ∀ n ∈ [f.tokenClass, f.accessorClass], n ∉ keywords := by
    intro n hn
    refine (apart_declared hw.keyed h).not_keyword n (List.mem_append_left _ ?_)
    simp only [declared, List.mem_append, List.mem_flatMap, classNames]
    exact .inr (.inr (.inr (.inr (.inr ⟨p, hp.type, f, hf, hn⟩))))
  refine ⟨hof.name ▸ hname, ⟨hof.attr.isName ((pads_wantedAttribute g.name).isName hname),
    hp.of.attrs.not_keyword _ (List.mem_map_of_mem hf)⟩,
    ⟨hof.tokenClass.isName (hstem.append (by decide)), hclass _ (by simp)⟩,
    ⟨hof.accessorClass.isName (hstem.append (by decide)), hclass _ (by simp)⟩, htarget,
    hof.type_eq ▸ isName_target hw hp.object hg, ?_, ?_⟩
  · intro m hm
    rw [hof.owner] at hm
    rcases List.mem_or_eq_of_mem_set hm with hm | rfl
    · obtain ⟨-, -, rfl⟩ := List.mem_map.1 hm
      trivial
    · exact htarget.marker
  · intro m hm
    rw [hof.result] at hm
    rcases List.mem_or_eq_of_mem_set hm with hm | rfl
    · obtain ⟨n, hn, rfl⟩ := List.mem_map.1 hm
      rw [hp.of.params, ← (ofSchema_eq_ok h).1] at hn
      exact declarable_of_mem_params hw h (List.mem_of_mem_take hn)
    · exact htarget.marker

end Pairs

/-- All names in the plan of a well-formed schema are spelled well. -/
theorem spelled_of_ofSchema (hw : s.WellFormed) (h : ofSchema s = .ok plan) : plan.Spelled := by
  refine ⟨fun n hn => declarable_of_mem_params hw h hn, fun p hp => ?_⟩
  obtain ⟨o, hp⟩ := exists_pairs h hp
  refine ⟨hp.of.name ▸ (hw.types_wellFormed o hp.object).isName, hp.spelled_names hw h, ?_,
    fun f hf => hp.spelled_field hw h hf⟩
  intro n hn
  rw [hp.of.params, ← (ofSchema_eq_ok h).1] at hn
  exact declarable_of_mem_params hw h (List.mem_of_mem_take hn)

end Plan

end Client

end TypedQuery
