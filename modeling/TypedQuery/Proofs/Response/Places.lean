import TypedQuery.Proofs.Client.Spelling
import TypedQuery.Proofs.Response.Decoding

/-!
# Places in an answer

A place is written as `data` with a step behind it for each member and each item on the way. The
text says it all: it can be read as steps in one way only, and these can be followed in the answer.

* `Json.follow`: the value that steps lead to.
* `Path.Shows`, `Path.Shows.unique`: the steps that a text shows.
* `Json.At`: what stands at the place that a text shows.
* `Decoder.place_of_decode`: where the responses that come out of a decoder stand.
-/

namespace TypedQuery

open Lexeme (isNameChar)

/-! ## Following steps -/

/-- The value that a step leads to. -/
def Path.Step.follow : Path.Step → Json → Option Json
  | .member name, .object members => Table.get? members name
  | .item i, .list items => items[i]?
  | _, _ => none

/-- The value that steps lead to, one after the other. -/
def Json.follow (v : Json) (steps : List Path.Step) : Option Json :=
  steps.foldlM (fun v step => step.follow v) v

namespace Json

@[simp] theorem follow_nil (v : Json) : v.follow [] = some v := rfl

@[simp] theorem follow_cons (v : Json) (step : Path.Step) (steps : List Path.Step) :
    v.follow (step :: steps) = (step.follow v).bind (·.follow steps) := rfl

theorem follow_append (v : Json) (steps steps' : List Path.Step) :
    v.follow (steps ++ steps') = (v.follow steps).bind (·.follow steps') := by
  simp only [follow, List.foldlM_append]
  rfl

theorem follow_items_append {before after : List Json} {v : Json} (steps : List Path.Step) :
    (Json.list (before ++ v :: after)).follow (.item before.length :: steps) = v.follow steps := by
  simp [Path.Step.follow]

end Json

/-! ## Places in words -/

namespace Path

/-- A member is called by a name of the schema language. -/
def Step.Named : Step → Prop
  | .member name => IsName name
  | .item _ => True

/-- The text shows these steps, from `data` on. -/
structure Shows (text : String) (steps : List Step) : Prop where
  text_eq : text = "data" ++ String.join (steps.map Step.render)
  named : ∀ step ∈ steps, step.Named

/-- The characters of steps. -/
def chars (steps : List Step) : List Char := steps.flatMap fun step => step.render.toList

theorem chars_member (name : String) (steps : List Step) :
    chars (.member name :: steps) = '.' :: (name.toList ++ chars steps) := by
  simp [chars, Step.render]

theorem chars_item (i : Nat) (steps : List Step) :
    chars (.item i :: steps) = '[' :: ((toString i).toList ++ ']' :: chars steps) := by
  simp [chars, Step.render]

theorem chars_ne_nil (step : Step) (steps : List Step) : chars (step :: steps) ≠ [] := by
  cases step with
  | member name => simp [chars_member]
  | item i => simp [chars_item]

/-- A step starts with a character that no name has. -/
theorem head?_chars (steps : List Step) : ∀ c ∈ (chars steps).head?, isNameChar c = false := by
  intro c hc
  cases steps with
  | nil => cases hc
  | cons step steps =>
    cases step with
    | member name =>
      rw [chars_member] at hc
      cases hc
      decide
    | item i =>
      rw [chars_item] at hc
      cases hc
      decide

theorem toList_toString_inj {i j : Nat} (h : (toString i).toList = (toString j).toList) :
    i = j := by
  rw [Nat.toString_eq_repr, Nat.toString_eq_repr, Nat.toList_repr, Nat.toList_repr] at h
  rw [← Nat.ofDigitChars_toDigits (b := 10) (n := i) (by decide) (by decide), h,
    Nat.ofDigitChars_toDigits (by decide) (by decide)]

theorem chars_inj {steps steps' : List Step} (hs : ∀ step ∈ steps, step.Named)
    (hs' : ∀ step ∈ steps', step.Named) (h : chars steps = chars steps') : steps = steps' := by
  induction steps generalizing steps' with
  | nil =>
    cases steps' with
    | nil => rfl
    | cons step steps' => exact absurd h.symm (chars_ne_nil step steps')
  | cons step steps ih =>
    cases steps' with
    | nil => exact absurd h (chars_ne_nil step steps)
    | cons step' steps' =>
      rw [List.forall_mem_cons] at hs hs'
      cases step with
      | member name =>
        cases step' with
        | member name' =>
          rw [chars_member, chars_member] at h
          obtain ⟨hname, hrest⟩ := append_inj_of_all (isWord_iff.1 (IsName.isWord hs.1))
            (isWord_iff.1 (IsName.isWord hs'.1)) (head?_chars steps) (head?_chars steps')
            (List.cons.inj h).2
          rw [String.toList_inj.1 hname, ih hs.2 hs'.2 hrest]
        | item i =>
          rw [chars_member, chars_item] at h
          cases (List.cons.inj h).1
      | item i =>
        cases step' with
        | member name =>
          rw [chars_member, chars_item] at h
          cases (List.cons.inj h).1
        | item j =>
          rw [chars_item, chars_item] at h
          have hclose : ∀ rest, ∀ c ∈ (']' :: rest).head?, isNameChar c = false := by
            rintro rest c ⟨⟩
            decide
          obtain ⟨hindex, hrest⟩ := append_inj_of_all (isWord_iff.1 (isWord_toString i))
            (isWord_iff.1 (isWord_toString j)) (hclose _) (hclose _) (List.cons.inj h).2
          rw [toList_toString_inj hindex, ih hs.2 hs'.2 (List.cons.inj hrest).2]

/-- A text shows no more than one list of steps. -/
theorem Shows.unique {text : String} {steps steps' : List Step} (h : Shows text steps)
    (h' : Shows text steps') : steps = steps' := by
  have htext : String.join (steps.map Step.render) = String.join (steps'.map Step.render) := by
    have heq := congrArg String.toList (h.text_eq.symm.trans h'.text_eq)
    rw [String.toList_append, String.toList_append, List.append_cancel_left_eq] at heq
    exact String.toList_inj.1 heq
  refine chars_inj h.named h'.named ?_
  have hchars := congrArg String.toList htext
  rwa [String.toList_join, String.toList_join, List.flatMap_map, List.flatMap_map] at hchars

/-- The place of an item of an item, below `p`. -/
def into (p : Path) (indices : List Nat) : Path :=
  { p with steps := p.steps ++ indices.map .item }

theorem into_push (p : Path) (i : Nat) (indices : List Nat) :
    (p.push (.item i)).into indices = p.into (i :: indices) := by
  simp [into, push]

theorem into_nil (p : Path) : p.into [] = p := by simp [into]

end Path

namespace Decoder

variable {scope : WrapperScope} {path : Path} {v : Json}

/-- What is read from an item is read at the place of the item. -/
theorem exists_of_mem_decodeItems {read : Path → Json → Except DecodeError Value} {index : Nat}
    {vs : List Json} {ws : List Value} (h : decodeItems read path index vs = .ok ws) {w : Value}
    (hw : w ∈ ws) :
    ∃ i v, vs[i]? = some v ∧ read (path.push (.item (index + i))) v = .ok w := by
  induction vs generalizing index ws with
  | nil =>
    cases h
    cases hw
  | cons v vs ih =>
    simp only [decodeItems, bind_eq_ok, pure_eq_ok] at h
    obtain ⟨first, hfirst, rest, hrest, rfl⟩ := h
    rcases List.mem_cons.1 hw with rfl | hw
    · exact ⟨0, v, rfl, hfirst⟩
    · obtain ⟨i, v', hv', hread⟩ := ih hrest hw
      refine ⟨i + 1, v', hv', ?_⟩
      rwa [Nat.add_assoc, Nat.add_comm 1 i] at hread

theorem decode_object_eq_ok {wrapper : String} {w : Value}
    (h : (object wrapper).decode scope path v = .ok w) : scope.Makes wrapper ∧
      ∃ members, v = .object members ∧ w = .response ⟨wrapper, members, path⟩ := by
  cases v with
  | object members =>
    simp only [decode] at h
    split at h
    · cases h
    · rename_i hfound
      split at h
      · rename_i hknown
        obtain ⟨r, hr, rfl⟩ := map_eq_ok.1 h
        unfold Response.make at hr
        split at hr
        · cases hr
        · rename_i hfaultless
          cases hr
          exact ⟨⟨hfound, List.contains_iff_mem.1 hknown, hfaultless⟩, members, rfl, rfl⟩
      · cases h
  | _ => cases h

/-- A response that comes out of a decoder stands where the object that it wraps stood. -/
theorem place_of_decode {d : Decoder} {w : Value} {r : Response}
    (h : d.decode scope path v = .ok w) (hr : w.Holds r) :
    ∃ indices, r.path = path.into indices ∧
      v.follow (indices.map .item) = some (.object r.data) := by
  induction d generalizing path v w with
  | primitive k =>
    simp only [decode] at h
    split at h
    · rename_i x hx
      cases h
      exact absurd hr (Primitive.not_holds_of_decode? hx r)
    · cases h
  | nullable d ih =>
    cases v with
    | null =>
      cases h
      cases hr
    | _ => exact ih h hr
  | list d ih =>
    cases v with
    | list items =>
      simp only [decode, map_eq_ok] at h
      obtain ⟨ws, hws, rfl⟩ := h
      obtain ⟨w, hw, hr⟩ := Value.holds_list.1 hr
      obtain ⟨i, v, hv, hread⟩ := exists_of_mem_decodeItems hws hw
      obtain ⟨indices, hpath, hfollow⟩ := ih hread hr
      refine ⟨i :: indices, ?_, ?_⟩
      · rw [hpath, Nat.zero_add, Path.into_push]
      · simpa [Path.Step.follow, hv] using hfollow
    | _ => cases h
  | object wrapper =>
    obtain ⟨-, members, rfl, rfl⟩ := decode_object_eq_ok h
    cases hr
    exact ⟨[], path.into_nil.symm, rfl⟩
  | hidden _ => cases h
  | blank => cases h

end Decoder

end TypedQuery
