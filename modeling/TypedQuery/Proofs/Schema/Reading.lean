import TypedQuery.Proofs.Basic
import TypedQuery.Proofs.Schema.Grammar

/-!
# Readers and the grammar

Every reader of a source succeeds exactly on a stream that begins with a sentence of its production,
and gives what the derivation stands for. Readers look one token ahead, so each statement also says
what must not follow: a reference without `!` is not followed by one, a field is not followed by
`@` or `=`.

* `Stream.Reads ls s r`: the stream `s` begins with the lexemes `ls`, `r` follows, and no fault
  comes to light on the way.
* `Document.typeRef_eq_ok`, `Document.fieldDef_eq_ok`, `Document.objectType_eq_ok`: the readers.
* `Document.definitions_complete`, `Document.definitions_of_reads`: a whole source, and back.
-/

namespace TypedQuery

namespace Stream

/-- Whether no further token can be read although the text goes on. -/
def isFault : Stream → Bool
  | .fault _ _ => true
  | _ => false

/-- `s` begins with the lexemes `ls`, `r` is what follows, and no fault stands in between. -/
def Reads : List Lexeme → Stream → Stream → Prop
  | [], s, r => s = r
  | l :: ls, s, r => ∃ p m, s = .next ⟨l, p⟩ m ∧ m.isFault = false ∧ Reads ls m r

variable {s m r : Stream} {l : Lexeme} {ls xs ys : List Lexeme}

theorem reads_append : Reads (xs ++ ys) s r ↔ ∃ m, Reads xs s m ∧ Reads ys m r := by
  induction xs generalizing s with
  | nil => simp [Reads]
  | cons x xs ih =>
    simp only [List.cons_append, Reads, ih]
    constructor
    · rintro ⟨p, t, rfl, ht, m, hx, hy⟩
      exact ⟨m, ⟨p, t, rfl, ht, hx⟩, hy⟩
    · rintro ⟨m, ⟨p, t, rfl, ht, hx⟩, hy⟩
      exact ⟨p, t, rfl, ht, m, hx, hy⟩

theorem Reads.append (hx : Reads xs s m) (hy : Reads ys m r) : Reads (xs ++ ys) s r :=
  reads_append.2 ⟨m, hx, hy⟩

theorem Reads.drop (h : Reads ls s r) : s.drop ls.length = r := by
  induction ls generalizing s with
  | nil => exact h
  | cons l ls ih =>
    obtain ⟨p, m, rfl, -, hm⟩ := h
    exact ih hm

/-- The lexemes that come first decide the next one. -/
theorem Reads.head? (h : Reads ls s r) : s.head? = (ls ++ r.head?.toList).head? := by
  cases ls with
  | nil =>
    subst h
    cases s.head? <;> rfl
  | cons l ls =>
    obtain ⟨p, m, rfl, -, -⟩ := h
    rfl

theorem Reads.lexemes (h : Reads ls s r) : s.lexemes = ls ++ r.lexemes := by
  induction ls generalizing s with
  | nil => rw [show s = r from h]; rfl
  | cons l ls ih =>
    obtain ⟨p, m, rfl, -, hm⟩ := h
    rw [List.cons_append, ← ih hm]
    rfl

theorem Reads.isComplete (h : Reads ls s r) : s.isComplete = r.isComplete := by
  induction ls generalizing s with
  | nil => rw [show s = r from h]
  | cons l ls ih =>
    obtain ⟨p, m, rfl, -, hm⟩ := h
    exact (ih hm : m.isComplete = r.isComplete)

/-- A stream without a fault reads as the sequence of its lexemes, up to its end. -/
theorem reads_stop (h : s.isComplete = true) : ∃ p, Reads s.lexemes s (.stop p) := by
  induction s with
  | stop p => exact ⟨p, rfl⟩
  | fault why p => cases h
  | next t rest ih =>
    obtain ⟨p, hp⟩ := ih h
    refine ⟨p, t.position, rest, rfl, ?_, hp⟩
    cases rest with
    | fault why q => cases h
    | stop q => rfl
    | next u more => rfl

end Stream

/-! ## Single tokens -/

namespace Document

open TypedQuery.Stream TypedQuery.Grammar

variable {source : String} {s r : Stream}

theorem take_eq_ok {u : Unit} : Stream.take source s = .ok u ↔ s.isFault = false := by
  cases s <;> simp [Stream.take, isFault]

theorem punct_eq_ok {p : Punct} : punct source p s = .ok r ↔ Reads [.punct p] s r := by
  unfold punct
  split
  · rename_i q at_ rest
    by_cases hq : p = q
    · subst hq
      simp only [if_pos, bind_eq_ok, take_eq_ok, pure_eq_ok, Reads, exists_const]
      constructor
      · rintro ⟨h, rfl⟩
        exact ⟨at_, rest, rfl, h, rfl⟩
      · rintro ⟨q, m, h, hm, rfl⟩
        cases h
        exact ⟨hm, rfl⟩
    · simp [hq, Reads, Ne.symm hq]
  · rename_i h
    simp only [failAt, reduceCtorEq, Reads, false_iff]
    rintro ⟨q, m, rfl, -⟩
    exact h _ _ _ rfl

theorem anyName_eq_ok {what n : String} {p : Position} :
    anyName source what s = .ok ((n, p), r) ↔ s = .next ⟨.name n, p⟩ r ∧ r.isFault = false := by
  unfold anyName
  split
  · simp only [bind_eq_ok, take_eq_ok, pure_eq_ok, exists_const, Prod.mk.injEq, Stream.next.injEq,
      Token.mk.injEq, Lexeme.name.injEq]
    constructor
    · rintro ⟨h, ⟨rfl, rfl⟩, rfl⟩
      exact ⟨⟨⟨rfl, rfl⟩, rfl⟩, h⟩
    · rintro ⟨⟨⟨rfl, rfl⟩, rfl⟩, h⟩
      exact ⟨h, ⟨rfl, rfl⟩, rfl⟩
  · rename_i h
    simp only [failAt, reduceCtorEq, false_iff]
    rintro ⟨rfl, -⟩
    exact h _ _ _ rfl

theorem name_eq_ok {what n : String} {p : Position} :
    name source what s = .ok ((n, p), r) ↔
      s = .next ⟨.name n, p⟩ r ∧ r.isFault = false ∧ ¬ IsReserved n := by
  unfold name
  simp only [bind_eq_ok, Prod.exists, anyName_eq_ok]
  constructor
  · rintro ⟨m, q, t, ⟨rfl, ht⟩, h⟩
    split at h
    · cases h
    · rename_i hm
      simp only [pure_eq_ok, Prod.mk.injEq] at h
      obtain ⟨⟨rfl, rfl⟩, rfl⟩ := h
      exact ⟨rfl, ht, hm⟩
  · rintro ⟨rfl, hr, hn⟩
    exact ⟨n, p, r, ⟨rfl, hr⟩, if_neg hn⟩

theorem description_eq_ok {d : Option String} :
    description source s = .ok (d, r) ↔ ∃ x : Option Description,
      Reads (Description.lexemes x) s r ∧ x.map Description.value = d ∧
        (x = none → startsText s.head? = false) := by
  unfold description
  split
  · rename_i v p rest
    simp only [bind_eq_ok, take_eq_ok, pure_eq_ok, exists_const, Prod.mk.injEq]
    constructor
    · rintro ⟨h, rfl, rfl⟩
      exact ⟨some (.string v), ⟨p, rest, rfl, h, rfl⟩, rfl, by simp⟩
    · rintro ⟨_ | x, h, rfl, hx⟩
      · cases hx rfl
      · cases x <;> obtain ⟨q, m, hm, hf, rfl⟩ := h <;> cases hm
        exact ⟨hf, rfl, rfl⟩
  · rename_i v p rest
    simp only [bind_eq_ok, take_eq_ok, pure_eq_ok, exists_const, Prod.mk.injEq]
    constructor
    · rintro ⟨h, rfl, rfl⟩
      exact ⟨some (.block v), ⟨p, rest, rfl, h, rfl⟩, rfl, by simp⟩
    · rintro ⟨_ | x, h, rfl, hx⟩
      · cases hx rfl
      · cases x <;> obtain ⟨q, m, hm, hf, rfl⟩ := h <;> cases hm
        exact ⟨hf, rfl, rfl⟩
  · rename_i hs hb
    simp only [pure_eq_ok, Prod.mk.injEq]
    constructor
    · rintro ⟨rfl, rfl⟩
      refine ⟨none, rfl, rfl, fun _ => ?_⟩
      rcases s with _ | _ | ⟨⟨l, p⟩, rest⟩
      · rfl
      · rfl
      · cases l with
        | string v => exact absurd rfl (hs _ _ _)
        | block v => exact absurd rfl (hb _ _ _)
        | _ => rfl
    · rintro ⟨_ | x, h, rfl, -⟩
      · exact ⟨rfl, h⟩
      · cases x <;> obtain ⟨q, m, rfl, -⟩ := h
        · exact absurd rfl (hs _ _ _)
        · exact absurd rfl (hb _ _ _)

theorem bang_eq_ok {t u : TypeRef} :
    bang source t s = .ok (u, r) ↔ ∃ b : Bool, Reads (Reference.bangs b) s r ∧
      u = (if b then .nonNull t else t) ∧ (b = false → s.head? ≠ some (.punct .bang)) := by
  unfold bang
  split
  · rename_i p rest
    simp only [bind_eq_ok, take_eq_ok, pure_eq_ok, exists_const, Prod.mk.injEq]
    constructor
    · rintro ⟨h, rfl, rfl⟩
      exact ⟨true, ⟨p, rest, rfl, h, rfl⟩, rfl, by simp⟩
    · rintro ⟨_ | _, h, rfl, hb⟩
      · exact absurd rfl (hb rfl)
      · obtain ⟨q, m, hm, hf, rfl⟩ := h
        cases hm
        exact ⟨hf, rfl, rfl⟩
  · rename_i hs
    simp only [pure_eq_ok, Prod.mk.injEq]
    constructor
    · rintro ⟨rfl, rfl⟩
      refine ⟨false, rfl, rfl, fun _ h => ?_⟩
      rcases s with _ | _ | ⟨⟨l, p⟩, rest⟩
      · cases h
      · cases h
      · cases h
        exact hs _ _ rfl
    · rintro ⟨_ | _, h, rfl, -⟩
      · exact ⟨rfl, h⟩
      · obtain ⟨q, m, rfl, -⟩ := h
        exact absurd rfl (hs _ _)

/-! ## References and fields -/

/-- What the end of a reference reads: the `!` that it has, or no `!` at all. -/
theorem bang_eq_ok_of_reads {t : TypeRef} {b : Bool} {m : Stream}
    (h : Reads (Reference.bangs b) m r) (hr : b = false → r.head? ≠ some (.punct .bang)) :
    bang source t m = .ok (if b then .nonNull t else t, r) := by
  refine bang_eq_ok.2 ⟨b, h, rfl, fun hb => ?_⟩
  subst hb
  rw [show m = r from h]
  exact hr rfl

theorem typeRef_eq_ok {t : TypeRef} :
    typeRef source s = .ok (t, r) ↔ ∃ x : Reference, Reads x.lexemes s r ∧ x.ref = t ∧
      ¬ IsReserved x.target ∧ (x.bang = false → r.head? ≠ some (.punct .bang)) := by
  constructor
  · intro h
    fun_induction typeRef source s generalizing t r with
    | case1 p rest ih =>
      simp only [bind_eq_ok, Prod.exists] at h
      obtain ⟨_, hrest, inner, m, hin, m', hclose, hbang⟩ := h
      obtain ⟨x, hx, rfl, hn, -⟩ := ih hin
      obtain ⟨b, hb, rfl, hf⟩ := bang_eq_ok.1 hbang
      refine ⟨.list x b, ⟨p, rest, rfl, take_eq_ok.1 hrest, ?_⟩, rfl, hn, fun h0 => ?_⟩
      · exact hx.append ((punct_eq_ok.1 hclose).append hb)
      · cases (show b = false from h0)
        rw [← show m' = r from hb]
        exact hf rfl
    | case2 s hs =>
      simp only [bind_eq_ok, Prod.exists, name_eq_ok] at h
      obtain ⟨n, p, m, ⟨rfl, hm, hn⟩, hbang⟩ := h
      obtain ⟨b, hb, rfl, hf⟩ := bang_eq_ok.1 hbang
      refine ⟨.name n b, ⟨p, m, rfl, hm, hb⟩, rfl, hn, fun h0 => ?_⟩
      cases (show b = false from h0)
      rw [← show m = r from hb]
      exact hf rfl
  · rintro ⟨x, hx, rfl, hn, hr⟩
    induction x generalizing s r with
    | name n b =>
      obtain ⟨p, m, rfl, hm, hb⟩ := hx
      simp only [typeRef, bind_eq_ok, Prod.exists, name_eq_ok]
      exact ⟨n, p, m, ⟨rfl, hm, hn⟩, bang_eq_ok_of_reads hb hr⟩
    | list x b ih =>
      obtain ⟨p, m, rfl, hm, hx⟩ := hx
      obtain ⟨m', hx, hb⟩ := reads_append.1 hx
      obtain ⟨q, m'', rfl, hm'', hb⟩ := hb
      simp only [typeRef, bind_eq_ok, Prod.exists]
      exact ⟨(), take_eq_ok.2 hm, x.ref, _, ih hx hn (by simp [Stream.head?]), m'',
        punct_eq_ok.2 ⟨q, m'', rfl, hm'', rfl⟩, bang_eq_ok_of_reads hb hr⟩

/-- A field may not be followed by a token that could belong to it. -/
def EndsField (f : FieldDef) (next : Option Lexeme) : Prop :=
  next ≠ some (.punct .at) ∧ next ≠ some (.punct .equals) ∧
    (f.type.bang = false → next ≠ some (.punct .bang))

theorem fieldDef_eq_ok {f : Field} :
    fieldDef source s = .ok (f, r) ↔ ∃ x : FieldDef, Reads x.lexemes s r ∧ x.field source s = f ∧
      x.Permitted ∧ EndsField x r.head? := by
  unfold fieldDef
  simp only [bind_eq_ok, Prod.exists, description_eq_ok, name_eq_ok]
  constructor
  · rintro ⟨_, m, ⟨d, hd, rfl, -⟩, n, p, m₁, ⟨rfl, hm₁, hn⟩, h⟩
    split at h
    · cases h
    · simp only [bind_eq_ok, Prod.exists, punct_eq_ok, typeRef_eq_ok] at h
      obtain ⟨m₂, ⟨q, _, rfl, hm₂, rfl⟩, _, m₃, ⟨t, ht, rfl, hres, hbang⟩, h⟩ := h
      split at h
      · cases h
      · split at h
        · cases h
        · rename_i hat heq
          simp only [pure_eq_ok, Prod.mk.injEq] at h
          obtain ⟨rfl, rfl⟩ := h
          refine ⟨⟨d, n, t⟩, hd.append ⟨p, _, rfl, hm₁, q, _, rfl, hm₂, ht⟩, ?_, ⟨hn, hres⟩,
            hat, heq, hbang⟩
          simp only [FieldDef.field, hd.drop, Stream.position]
  · rintro ⟨⟨d, n, t⟩, hx, rfl, ⟨hn, hres⟩, hat, heq, hbang⟩
    obtain ⟨m, hd, p, m₁, rfl, hm₁, q, m₂, rfl, hm₂, ht⟩ := reads_append.1 hx
    refine ⟨_, _, ⟨d, hd, rfl, ?_⟩, n, p, _, ⟨rfl, hm₁, hn⟩, ?_⟩
    · rintro rfl
      rw [hd.head?]
      rfl
    · rw [if_neg (by simp [Stream.head?])]
      simp only [bind_eq_ok, Prod.exists, punct_eq_ok, typeRef_eq_ok]
      refine ⟨m₂, ⟨q, m₂, rfl, hm₂, rfl⟩, _, r, ⟨t, ht, rfl, hres, hbang⟩, ?_⟩
      rw [if_neg hat, if_neg heq]
      simp only [FieldDef.field, hd.drop, Stream.position]
      rfl

/-! ## Types and the root -/

/-- What follows a field up to the closing brace does not continue the field. -/
theorem endsField_of_reads {x : FieldDef} {xs : List FieldDef}
    (h : Reads (xs.flatMap FieldDef.lexemes ++ [.punct .braceR]) s r) : EndsField x s.head? := by
  rw [h.head?, List.append_assoc, List.singleton_append]
  exact ⟨FieldDef.head?_rest xs _ .at (by decide), FieldDef.head?_rest xs _ .equals (by decide),
    fun _ => FieldDef.head?_rest xs _ .bang (by decide)⟩

/-- The names of the fields `xs` are new: none comes twice, none is among `seen`. -/
def FreshFields (seen : List Field) (xs : List FieldDef) : Prop :=
  (xs.map FieldDef.name).Nodup ∧ ∀ x ∈ xs, ∀ g ∈ seen, g.name ≠ x.name

theorem freshFields_cons (source : String) (s : Stream) {seen : List Field} {x : FieldDef}
    {xs : List FieldDef} :
    FreshFields seen (x :: xs) ↔
      seen.any (fun g => g.name == (x.field source s).name) = false ∧
        FreshFields (x.field source s :: seen) xs := by
  simp only [FreshFields, List.map_cons, List.nodup_cons, List.mem_map, not_exists, not_and,
    List.forall_mem_cons, List.any_eq_false, beq_iff_eq, FieldDef.field]
  constructor
  · rintro ⟨⟨hx, hn⟩, hs, hr⟩
    exact ⟨hs, hn, fun y hy => ⟨fun he => hx y hy he.symm, hr y hy⟩⟩
  · rintro ⟨hs, hn, hr⟩
    exact ⟨⟨fun y hy he => (hr y hy).1 he.symm, hn⟩, hs, fun y hy => (hr y hy).2⟩

theorem fields_ok {type : String} {seen fs : List Field}
    (h : fields source type seen s = .ok (fs, r)) : ∃ (x : FieldDef) (xs : List FieldDef),
      Reads ((x :: xs).flatMap FieldDef.lexemes ++ [.punct .braceR]) s r ∧
        seen.reverse ++ fieldsAt source (x :: xs) s = fs ∧ (∀ y ∈ x :: xs, y.Permitted) ∧
        FreshFields seen (x :: xs) := by
  fun_induction fields source type seen s with
  | case1 => cases h
  | case2 => cases h
  | case3 seen s f m hf hseen hbrace =>
    obtain ⟨x, hx, rfl, hp, -⟩ := fieldDef_eq_ok.1 hf
    rcases m with _ | _ | ⟨⟨l, p⟩, rest⟩
    · cases hbrace
    · cases hbrace
    · cases hbrace
      simp only [Stream.tail, bind_eq_ok, take_eq_ok, pure_eq_ok, exists_const, Prod.mk.injEq] at h
      obtain ⟨hr, rfl, rfl⟩ := h
      refine ⟨x, [], ?_, by simp [fieldsAt], by simpa using hp,
        (freshFields_cons source s).2 ⟨?_, ?_⟩⟩
      · simp only [List.flatMap_cons, List.flatMap_nil, List.append_nil]
        exact hx.append ⟨p, rest, rfl, hr, rfl⟩
      · simpa using hseen
      · exact ⟨List.nodup_nil, by simp⟩
  | case4 => cases h
  | case5 seen s f m hf hseen hbrace hstop ih =>
    obtain ⟨x, hx, rfl, hp, -⟩ := fieldDef_eq_ok.1 hf
    obtain ⟨y, ys, hy, rfl, hps, hfresh⟩ := ih h
    refine ⟨x, y :: ys, ?_, ?_, ?_, (freshFields_cons source s).2 ⟨by simpa using hseen, hfresh⟩⟩
    · rw [List.flatMap_cons, List.append_assoc]
      exact hx.append hy
    · conv => lhs; rw [fieldsAt, hx.drop]
      simp
    · exact List.forall_mem_cons.2 ⟨hp, hps⟩

theorem fields_of_reads {type : String} {seen : List Field} {x : FieldDef} {xs : List FieldDef}
    (h : Reads ((x :: xs).flatMap FieldDef.lexemes ++ [.punct .braceR]) s r)
    (hp : ∀ y ∈ x :: xs, y.Permitted) (hn : FreshFields seen (x :: xs)) :
    fields source type seen s = .ok (seen.reverse ++ fieldsAt source (x :: xs) s, r) := by
  induction xs generalizing x seen s with
  | nil =>
    rw [List.flatMap_cons, List.append_assoc] at h
    obtain ⟨m, hx, hm⟩ := reads_append.1 h
    have hf : fieldDef source s = .ok (x.field source s, m) :=
      fieldDef_eq_ok.2 ⟨x, hx, rfl, hp x (by simp), endsField_of_reads hm⟩
    obtain ⟨p, rest, rfl, hr, rfl⟩ := hm
    unfold fields
    split
    · rename_i he; rw [hf] at he; cases he
    · rename_i he
      rw [hf] at he
      cases he
      rw [if_neg (by simpa using ((freshFields_cons source s).1 hn).1)]
      simp only [Stream.head?, Stream.tail, if_true, bind_eq_ok, take_eq_ok, pure_eq_ok,
        exists_const]
      exact ⟨hr, by simp [fieldsAt]⟩
  | cons y ys ih =>
    rw [List.flatMap_cons, List.append_assoc] at h
    obtain ⟨m, hx, hm⟩ := reads_append.1 h
    have hf : fieldDef source s = .ok (x.field source s, m) :=
      fieldDef_eq_ok.2 ⟨x, hx, rfl, hp x (by simp), endsField_of_reads hm⟩
    have hrest := ih hm (fun z hz => hp z (List.mem_cons_of_mem _ hz))
      ((freshFields_cons source s).1 hn).2
    -- Another field follows, so neither the closing brace nor the end of the text.
    have hhead : startsText m.head? = true ∨ ∃ n, m.head? = some (.name n) := by
      rw [hm.head?, List.flatMap_cons, List.append_assoc, List.append_assoc]
      exact y.head?_lexemes _
    unfold fields
    split
    · rename_i he; rw [hf] at he; cases he
    · rename_i he
      rw [hf] at he
      cases he
      rw [if_neg (by simpa using ((freshFields_cons source s).1 hn).1), if_neg, if_neg, hrest]
      · conv => rhs; rw [fieldsAt, hx.drop]
        simp
      · rcases m with _ | _ | _
        · rcases hhead with h | ⟨n, h⟩ <;> cases h
        · simp [isStop]
        · simp [isStop]
      · intro hb
        rw [hb] at hhead
        rcases hhead with h | ⟨n, h⟩ <;> cases h

theorem objectType_eq_ok {text : Option String} {start : Position} {o : ObjectType} :
    objectType source text start s = .ok (o, r) ↔
      ∃ (n : String) (x : FieldDef) (xs : List FieldDef),
      Reads (.name n :: .punct .braceL ::
          ((x :: xs).flatMap FieldDef.lexemes ++ [.punct .braceR])) s r ∧
        ⟨n, fieldsAt source (x :: xs) (s.drop 2), text, some (locate source start)⟩ = o ∧
        ¬ IsReserved n ∧ (∀ y ∈ x :: xs, y.Permitted) ∧ ((x :: xs).map FieldDef.name).Nodup := by
  unfold objectType
  simp only [bind_eq_ok, Prod.exists, name_eq_ok]
  constructor
  · rintro ⟨n, p, m, ⟨rfl, hm, hn⟩, h⟩
    split at h
    · cases h
    · split at h
      · cases h
      · simp only [bind_eq_ok, Prod.exists, punct_eq_ok, pure_eq_ok, Prod.mk.injEq] at h
        obtain ⟨m₁, ⟨q, _, rfl, hm₁, rfl⟩, fs, _, hfs, rfl, rfl⟩ := h
        obtain ⟨x, xs, hx, rfl, hp, hd⟩ := fields_ok hfs
        exact ⟨n, x, xs, ⟨p, _, rfl, hm, q, _, rfl, hm₁, hx⟩, rfl, hn, hp, hd.1⟩
  · rintro ⟨n, x, xs, ⟨p, m, rfl, hm, q, m₁, rfl, hm₁, hx⟩, rfl, hn, hp, hd⟩
    refine ⟨n, p, _, ⟨rfl, hm, hn⟩, ?_⟩
    rw [if_neg (by simp [Stream.head?]), if_neg (by simp [Stream.head?])]
    simp only [bind_eq_ok, Prod.exists, punct_eq_ok, pure_eq_ok]
    exact ⟨m₁, ⟨q, m₁, rfl, hm₁, rfl⟩, _, r, fields_of_reads hx hp ⟨hd, by simp⟩, rfl⟩

theorem operation_eq_ok {n : String} {p : Position} :
    operation source false s = .ok ((n, p), r) ↔
      ∃ m, Reads [.name "query", .punct .colon] s m ∧ m = .next ⟨.name n, p⟩ r ∧
        r.isFault = false ∧ ¬ IsReserved n := by
  unfold operation
  simp only [bind_eq_ok, Prod.exists, anyName_eq_ok]
  constructor
  · rintro ⟨op, q, m, ⟨rfl, hm⟩, h⟩
    split at h
    · cases h
    · rename_i hop
      obtain rfl := Decidable.not_not.1 hop
      simp only [Bool.false_eq_true, if_false, bind_eq_ok, punct_eq_ok, name_eq_ok] at h
      obtain ⟨m₁, hc, rfl, hr, hn⟩ := h
      exact ⟨_, ⟨q, m, rfl, hm, hc⟩, rfl, hr, hn⟩
  · rintro ⟨_, ⟨q, m, rfl, hm, hc⟩, rfl, hr, hn⟩
    refine ⟨"query", q, m, ⟨rfl, hm⟩, ?_⟩
    simp only [ne_eq, not_true_eq_false, Bool.false_eq_true, if_false, bind_eq_ok, punct_eq_ok,
      name_eq_ok]
    exact ⟨_, hc, rfl, hr, hn⟩

theorem rootBlock_eq_ok {start : Position} {d : RootDecl} :
    rootBlock source start s = .ok (d, r) ↔ ∃ root : String,
      Reads [.punct .braceL, .name "query", .punct .colon, .name root, .punct .braceR] s r ∧
        ⟨root, locate source (s.drop 3).position, locate source start⟩ = d ∧ ¬ IsReserved root := by
  unfold rootBlock
  simp only [bind_eq_ok, Prod.exists, punct_eq_ok, operation_eq_ok]
  constructor
  · rintro ⟨m, ⟨q, _, rfl, hm, rfl⟩, n, p, m₂, ⟨m₁, ho, rfl, hm₂, hn⟩, h⟩
    split at h
    · rename_i hb
      rcases m₂ with _ | _ | ⟨⟨l, p'⟩, rest⟩
      · cases hb
      · cases hb
      · cases hb
        simp only [Stream.tail, bind_eq_ok, take_eq_ok, pure_eq_ok, exists_const,
          Prod.mk.injEq] at h
        obtain ⟨hr, rfl, rfl⟩ := h
        obtain ⟨a, t, rfl, ht, b, t', rfl, ht', rfl⟩ := ho
        exact ⟨n, ⟨q, _, rfl, hm, a, _, rfl, ht, b, _, rfl, ht', p, _, rfl, rfl, p', _, rfl, hr,
          rfl⟩, rfl, hn⟩
    · -- A second operation is refused whatever follows it.
      simp only [bind_eq_ok, failAt, reduceCtorEq, and_false, exists_false] at h
  · rintro ⟨n, ⟨q, m, rfl, hm, a, t, rfl, ht, b, t', rfl, ht', p, m₂, rfl, hm₂, p', _, rfl, hr,
      rfl⟩, rfl, hn⟩
    refine ⟨_, ⟨q, _, rfl, hm, rfl⟩, n, p, _, ⟨_, ⟨a, _, rfl, ht, b, _, rfl, ht', rfl⟩, rfl, hm₂,
      hn⟩, ?_⟩
    simp only [Stream.head?, Stream.tail, if_true, bind_eq_ok, take_eq_ok, pure_eq_ok, exists_const]
    exact ⟨hr, rfl⟩

/-! ## Definitions -/

/-- No field of the definition has the name of another one. -/
def DistinctFields : Def → Prop
  | .type t => (t.fields.map FieldDef.name).Nodup
  | .schema _ => True

theorem definition_ok {d : Definition} (h : definition source s = .ok (d, r)) :
    ∃ x : Def, Reads x.lexemes s r ∧ x.definition source s = d ∧ x.Permitted ∧
      DistinctFields x := by
  unfold definition at h
  simp only [bind_eq_ok, Prod.exists, description_eq_ok] at h
  obtain ⟨_, m, ⟨text, hd, rfl, -⟩, h⟩ := h
  split at h
  · rename_i keyword p rest
    split at h
    · rename_i hk
      subst hk
      simp only [bind_eq_ok, Prod.exists, take_eq_ok, exists_const, objectType_eq_ok, pure_eq_ok,
        Prod.mk.injEq] at h
      obtain ⟨hrest, _, _, ⟨n, x, xs, hx, rfl, hn, hp, hdis⟩, rfl, rfl⟩ := h
      refine ⟨.type ⟨text, n, x, xs⟩, hd.append ⟨p, rest, rfl, hrest, hx⟩, ?_, ⟨hn, hp⟩, hdis⟩
      simp only [Def.definition, TypeDef.object, TypeDef.fields, hd.drop]
      rfl
    · split at h
      · rename_i hk
        subst hk
        split at h
        · cases h
        · rename_i htext
          simp only [bind_eq_ok, Prod.exists, take_eq_ok, exists_const, rootBlock_eq_ok,
            pure_eq_ok, Prod.mk.injEq] at h
          obtain ⟨hrest, _, _, ⟨root, hx, rfl, hn⟩, rfl, rfl⟩ := h
          -- No description: the block begins where the definition does.
          have hnone : text = none := by simpa using htext
          subst hnone
          rw [show s = _ from hd]
          exact ⟨.schema root, ⟨p, rest, rfl, hrest, hx⟩, rfl, hn, trivial⟩
      · split at h <;> cases h
  · cases h

theorem definition_of_reads (source : String) {x : Def} (h : Reads x.lexemes s r) (hp : x.Permitted)
    (hd : DistinctFields x) : definition source s = .ok (x.definition source s, r) := by
  unfold definition
  simp only [bind_eq_ok, Prod.exists, description_eq_ok]
  cases x with
  | type t =>
    obtain ⟨text, n, f, fs⟩ := t
    obtain ⟨m, ht, p, rest, rfl, hrest, hx⟩ := reads_append.1 h
    refine ⟨_, _, ⟨text, ht, rfl, ?_⟩, ?_⟩
    · rintro rfl
      rw [ht.head?]
      rfl
    · simp only [if_true, bind_eq_ok, Prod.exists, take_eq_ok, exists_const, objectType_eq_ok,
        pure_eq_ok]
      refine ⟨hrest, _, _, ⟨n, f, fs, hx, rfl, hp.1, hp.2, hd⟩, ?_⟩
      simp only [Def.definition, TypeDef.object, TypeDef.fields, ht.drop]
      rfl
  | schema root =>
    obtain ⟨p, rest, rfl, hrest, hx⟩ := h
    refine ⟨none, _, ⟨none, rfl, rfl, fun _ => rfl⟩, ?_⟩
    simp only [String.reduceEq, if_false, if_true, Option.isSome_none, Bool.false_eq_true,
      bind_eq_ok, Prod.exists, take_eq_ok, exists_const, rootBlock_eq_ok, pure_eq_ok]
    exact ⟨hrest, _, _, ⟨root, hx, rfl, hp⟩, rfl⟩

theorem definitions_complete {ds : List Definition} {p : Position}
    (h : definitions source s = (ds, .complete p)) : ∃ d : Grammar.Document,
      Reads d.lexemes s (.stop p) ∧ d.definitions source s = ds ∧
        ∀ x ∈ d, x.Permitted ∧ DistinctFields x := by
  fun_induction definitions source s generalizing ds with
  | case1 q =>
    cases h
    exact ⟨[], rfl, rfl, by simp⟩
  | case2 s _ e he => cases h
  | case3 s d rest ds' ending hrest _ hd ih =>
    cases h
    obtain ⟨x, hx, rfl, hp⟩ := definition_ok hd
    obtain ⟨e, he, rfl, hes⟩ := ih hrest
    refine ⟨x :: e, hx.append he, ?_, List.forall_mem_cons.2 ⟨hp, hes⟩⟩
    rw [Grammar.Document.definitions, hx.drop]

theorem definitions_of_reads {d : Grammar.Document} {p : Position}
    (h : Reads d.lexemes s (.stop p)) (hd : ∀ x ∈ d, x.Permitted ∧ DistinctFields x) :
    definitions source s = (d.definitions source s, .complete p) := by
  induction d generalizing s with
  | nil =>
    rw [show s = _ from h]
    simp [definitions, Grammar.Document.definitions]
  | cons x d ih =>
    obtain ⟨m, hx, hm⟩ := reads_append.1 h
    obtain ⟨⟨hp, hdis⟩, hrest⟩ := List.forall_mem_cons.1 hd
    have hdef := definition_of_reads source hx hp hdis
    unfold definitions
    split
    · -- A definition has tokens, so the stream is not at its end.
      have := hx.lexemes
      simp [Stream.lexemes, Stream.tokens, Def.lexemes_ne_nil] at this
    · split
      · rename_i he; rw [hdef] at he; cases he
      · rename_i he
        rw [hdef] at he
        cases he
        rw [ih hm hrest, Grammar.Document.definitions, hx.drop]

end Document

end TypedQuery
