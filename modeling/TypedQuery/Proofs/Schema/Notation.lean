import TypedQuery.Proofs.Client.Spelling
import TypedQuery.Proofs.Query.Rendering

/-!
# The notation of type references

A reference is written as it is read: its notation, followed by a text that does not belong to it,
is read as the reference and nothing more. In the other direction, the tokens that a reference was
read from are those of its notation.

* `TypeRef.Writable`: the references that have a notation.
* `TypeRef.EndsBefore`: what may stand behind a reference.
* `Grammar.Reference.reads_render`: the tokens of a notation.
* `Document.typeRef_render_iff`: a notation is read as its reference.
* `Document.reads_of_typeRef`: the tokens of a reference are those of its notation.
* `TypeRef.Writable.render_inj`: no two references have one notation.
-/

namespace TypedQuery

open Lexeme (isNameChar isLineEnd)

/-! ## Positions on one line -/

namespace Position

@[simp] theorem right_right (p : Position) (m n : Nat) : (p.right m).right n = p.right (m + n) := by
  simp [right, Nat.add_assoc]

theorem after_cons {c : Char} (h : isLineEnd c = false) (p : Position) (cs : List Char) :
    p.after (c :: cs) = (p.right 1).after cs := by
  simp only [isLineEnd, Bool.or_eq_false_iff, beq_eq_false_iff_ne] at h
  rw [after]
  · rintro rest rfl -
    exact h.2 rfl
  · exact h.2
  · exact h.1

/-- Characters that end no line lead to the right. -/
theorem after_of_not_isLineEnd {cs : List Char} (h : ∀ c ∈ cs, isLineEnd c = false)
    (p : Position) : p.after cs = p.right cs.length := by
  induction cs generalizing p with
  | nil => rfl
  | cons c cs ih =>
    rw [after_cons (h c (List.mem_cons_self ..)), ih fun d hd => h d (List.mem_cons_of_mem _ hd),
      right_right, List.length_cons, Nat.add_comm]

end Position

/-! ## Single tokens -/

theorem Lexeme.isLineEnd_of_isNameChar {c : Char} (h : isNameChar c = true) :
    isLineEnd c = false := by
  have hascii : ∀ d : Char, d.toNat < 128 → isNameChar d = true → isLineEnd d = false :=
    forall_ascii (by decide)
  exact hascii c (toNat_lt_of_isNameChar h) h

theorem Position.after_name {n : String} (hn : IsName n) (p : Position) :
    p.after n.toList = p.right n.length := by
  have hline : ∀ c ∈ n.toList, isLineEnd c = false := fun c hc =>
    Lexeme.isLineEnd_of_isNameChar (isWord_iff.1 hn.isWord c hc)
  rw [after_of_not_isLineEnd hline, String.length_toList]

namespace Stream

variable {p : Position} {cs : List Char}

theorem scan_blank : scan p (' ' :: cs) = scan (p.right 1) cs := by
  rw [scan]
  rfl

/-- A name that is read as it is does not go on. -/
theorem head_of_scan_name {n : String} (hn : IsName n)
    (h : (scan p (n.toList ++ cs)).head? = some (.name n)) :
    ∀ c ∈ cs.head?, isNameChar c = false := by
  rw [scan_name hn] at h
  have hsame := congrArg String.toList (Lexeme.name.inj (Option.some.inj h))
  rw [String.toList_ofList] at hsame
  have hnone : cs.takeWhile isNameChar = [] := List.append_right_eq_self.1 hsame
  cases cs with
  | nil => simp
  | cons d cs =>
    rintro c ⟨⟩
    by_contra hd
    rw [List.takeWhile_cons, if_pos (eq_true_of_ne_false hd)] at hnone
    cases hnone

theorem scan_punct {c : Char} {q : Punct} (h : Punct.ofChar? c = some q) :
    scan p (c :: cs) = .next ⟨.punct q, p⟩ (scan (p.right 1) cs) := by
  unfold Punct.ofChar? at h
  split at h <;> cases h <;> rw [scan] <;> rfl

theorem Reads.isFault_right {ls : List Lexeme} {s r : Stream} (h : Reads ls s r) (hls : ls ≠ []) :
    r.isFault = false := by
  induction ls generalizing s with
  | nil => exact absurd rfl hls
  | cons l ls ih =>
    obtain ⟨q, m, rfl, hm, hr⟩ := h
    cases ls with
    | nil =>
      rw [← show m = r from hr]
      exact hm
    | cons l' ls => exact ih hr (List.cons_ne_nil _ _)

theorem Reads.isFault_left {ls : List Lexeme} {s r : Stream} (h : Reads ls s r) (hls : ls ≠ []) :
    s.isFault = false := by
  cases ls with
  | nil => exact absurd rfl hls
  | cons l ls =>
    obtain ⟨q, m, rfl, -, -⟩ := h
    rfl

theorem lexemes_drop_subset (s : Stream) (n : Nat) : (s.drop n).lexemes ⊆ s.lexemes := by
  induction n generalizing s with
  | zero => exact fun l hl => hl
  | succ n ih =>
    intro l hl
    have hmem := ih s.tail hl
    cases s with
    | next t rest => exact List.mem_cons_of_mem _ hmem
    | _ => exact hmem

end Stream

/-! ## References -/

namespace TypeRef

/-- A reference that the schema language has a notation for: no `!` stands directly behind another
one, and the name inside is a name that is not reserved. -/
structure Writable (r : TypeRef) : Prop where
  proper : r.Proper
  isName : IsName r.target
  not_reserved : ¬ Grammar.IsReserved r.target

/-- A text, at a position, in front of which a reference may end: its first character does not
continue the name of a reference that is only a name, its first token is not a `!` that the
reference could take, and a token or the end of the text can be read there. -/
structure EndsBefore (r : TypeRef) (p : Position) (cs : List Char) : Prop where
  char : ∀ n, r = .named n → ∀ c ∈ cs.head?, isNameChar c = false
  bang : r.isNonNull = false → (Stream.scan p cs).head? ≠ some (.punct .bang)
  not_fault : (Stream.scan p cs).isFault = false

end TypeRef

namespace Grammar.Reference

open TypedQuery.Stream

/-- The characters of a `!`, if there is one. -/
def bangChars (bang : Bool) : List Char := if bang then ['!'] else []

theorem isNonNull_ref (x : Reference) : x.ref.isNonNull = x.bang := by
  cases x with
  | name n b => cases b <;> rfl
  | list x b => cases b <;> rfl

theorem eq_name_of_ref (x : Reference) {n : String} (h : x.ref = .named n) : x = .name n false := by
  cases x with
  | name m b =>
    cases b with
    | false =>
      cases h
      rfl
    | true => cases h
  | list x b => cases b <;> cases h

/-- Every reference without a repeated `!` has a derivation. -/
theorem exists_ref {r : TypeRef} (h : r.Proper) : ∃ x : Reference, x.ref = r := by
  induction r with
  | named n => exact ⟨.name n false, rfl⟩
  | list r ih =>
    obtain ⟨x, rfl⟩ := ih h
    exact ⟨.list x false, rfl⟩
  | nonNull r ih =>
    obtain ⟨x, rfl⟩ := ih h.2
    have hbang : x.bang = false := x.isNonNull_ref ▸ h.1
    cases x with
    | name n b =>
      cases (show b = false from hbang)
      exact ⟨.name n true, rfl⟩
    | list x b =>
      cases (show b = false from hbang)
      exact ⟨.list x true, rfl⟩

theorem toList_render_name (n : String) (b : Bool) :
    (name n b).ref.render.toList = n.toList ++ bangChars b := by
  cases b <;> simp [ref, TypeRef.render, bangChars]

theorem toList_render_list (x : Reference) (b : Bool) :
    (list x b).ref.render.toList = '[' :: (x.ref.render.toList ++ ']' :: bangChars b) := by
  cases b <;> simp [ref, TypeRef.render, bangChars]

theorem name_target_mem (x : Reference) : .name x.target ∈ x.lexemes := by
  induction x with
  | name n b => exact List.mem_cons_self ..
  | list x b ih => exact List.mem_cons_of_mem _ (List.mem_append_left _ ih)

theorem lexemes_ne_nil (x : Reference) : x.lexemes ≠ [] :=
  List.ne_nil_of_mem x.name_target_mem

theorem reads_bangs (b : Bool) {p : Position} {cs : List Char}
    (hcs : (scan (p.right (bangChars b).length) cs).isFault = false) :
    Reads (bangs b) (scan p (bangChars b ++ cs)) (scan (p.right (bangChars b).length) cs) ∧
      (scan p (bangChars b ++ cs)).isFault = false := by
  cases b with
  | false => exact ⟨rfl, hcs⟩
  | true =>
    have hscan : scan p (bangChars true ++ cs) = .next ⟨.punct .bang, p⟩ (scan (p.right 1) cs) :=
      scan_punct rfl
    rw [hscan]
    exact ⟨⟨p, _, rfl, hcs, rfl⟩, rfl⟩

/-- The notation of a reference is read as the tokens of its derivation, and the text behind it is
left. -/
theorem reads_render (x : Reference) (hn : IsName x.target) {p : Position} {cs : List Char}
    (hchar : ∀ n, x.ref = .named n → ∀ c ∈ cs.head?, isNameChar c = false)
    (hcs : (scan (p.right x.ref.render.toList.length) cs).isFault = false) :
    Reads x.lexemes (scan p (x.ref.render.toList ++ cs))
      (scan (p.right x.ref.render.toList.length) cs) := by
  induction x generalizing p cs with
  | name n b =>
    have hname : IsName n := hn
    rw [toList_render_name, List.length_append, ← Position.right_right] at hcs ⊢
    have hend : ∀ c ∈ (bangChars b ++ cs).head?, isNameChar c = false := by
      cases b with
      | false => exact hchar n rfl
      | true =>
        rintro c ⟨⟩
        decide
    obtain ⟨hbangs, hfault⟩ := reads_bangs b hcs
    refine ⟨p, scan (p.right n.toList.length) (bangChars b ++ cs), ?_, hfault, hbangs⟩
    rw [List.append_assoc, scan_whole_name hname p hend, Position.after_name hname,
      String.length_toList]
  | list x b ih =>
    have hlen : p.right (list x b).ref.render.toList.length =
        (((p.right 1).right x.ref.render.toList.length).right 1).right (bangChars b).length := by
      simp only [toList_render_list, List.length_cons, List.length_append, Position.right_right]
      congr 1
      omega
    rw [hlen] at hcs ⊢
    rw [toList_render_list, List.cons_append, List.append_assoc, List.cons_append]
    obtain ⟨hbangs, hfault⟩ := reads_bangs b hcs
    -- The bracket behind the inner reference is a token of its own and no character of a name.
    have hclose : scan ((p.right 1).right x.ref.render.toList.length) (']' :: (bangChars b ++ cs)) =
        .next ⟨.punct .bracketR, (p.right 1).right x.ref.render.toList.length⟩
          (scan (((p.right 1).right x.ref.render.toList.length).right 1) (bangChars b ++ cs)) :=
      scan_punct rfl
    have hbracket : ∀ n, x.ref = .named n → ∀ c ∈ (']' :: (bangChars b ++ cs)).head?,
        isNameChar c = false := by
      rintro n - c ⟨⟩
      decide
    have hinner := ih hn hbracket (by rw [hclose]; rfl)
    refine ⟨p, _, scan_punct rfl, ?_, hinner.append ?_⟩
    · exact hinner.isFault_left x.lexemes_ne_nil
    · rw [hclose]
      exact ⟨_, _, rfl, hfault, hbangs⟩

end Grammar.Reference

namespace Document

open TypedQuery.Stream TypedQuery.Grammar

variable {source : String} {r : TypeRef} {p : Position} {cs : List Char}

/-- A notation is read as its reference, and as nothing more, exactly if the reference can be
written and may end there. -/
theorem typeRef_render_iff :
    typeRef source (scan p (r.render.toList ++ cs)) =
        .ok (r, scan (p.right r.render.toList.length) cs) ↔
      r.Writable ∧ r.EndsBefore (p.right r.render.toList.length) cs := by
  rw [typeRef_eq_ok]
  constructor
  · rintro ⟨x, hx, rfl, hreserved, hbang⟩
    have hmem : .name x.ref.target ∈ (scan p (x.ref.render.toList ++ cs)).lexemes := by
      rw [hx.lexemes, Reference.target_ref]
      exact List.mem_append_left _ x.name_target_mem
    have hname : IsName x.ref.target := isName_of_mem_scan hmem
    refine ⟨⟨x.proper_ref, hname, x.target_ref ▸ hreserved⟩, fun n hn => ?_,
      fun hnull => hbang (x.isNonNull_ref ▸ hnull), hx.isFault_right x.lexemes_ne_nil⟩
    -- A further character of a name would have been read as part of it.
    obtain rfl := x.eq_name_of_ref hn
    obtain ⟨q, m, hscan, -⟩ := hx
    have hhead : (scan p (n.toList ++ cs)).head? = some (.name n) := congrArg Stream.head? hscan
    exact head_of_scan_name hname hhead
  · rintro ⟨hr, hend⟩
    obtain ⟨x, rfl⟩ := Reference.exists_ref hr.proper
    have hname : IsName x.target := x.target_ref ▸ hr.isName
    exact ⟨x, x.reads_render hname hend.char hend.not_fault, rfl, x.target_ref ▸ hr.not_reserved,
      fun hbang => hend.bang (x.isNonNull_ref.trans hbang)⟩

/-- The tokens that a reference is read from are those of its notation. -/
theorem reads_of_typeRef {s rest : Stream} (hs : ∀ n, .name n ∈ s.lexemes → IsName n)
    (h : typeRef source s = .ok (r, rest)) :
    r.Writable ∧ (Stream.ofText r.render).isComplete = true ∧
      Reads (Stream.ofText r.render).lexemes s rest := by
  obtain ⟨x, hx, rfl, hreserved, -⟩ := typeRef_eq_ok.1 h
  have hname : IsName x.target := by
    refine hs _ ?_
    rw [hx.lexemes]
    exact List.mem_append_left _ x.name_target_mem
  have hend : ∀ q, scan q [] = .stop q := fun q => by rw [scan]
  have hread : Reads x.lexemes (scan .start (x.ref.render.toList ++ []))
      (scan (Position.start.right x.ref.render.toList.length) []) :=
    x.reads_render hname (by simp) (by rw [hend]; rfl)
  rw [List.append_nil, hend] at hread
  refine ⟨⟨x.proper_ref, x.target_ref ▸ hname, x.target_ref ▸ hreserved⟩, hread.isComplete, ?_⟩
  have hlexemes : (Stream.ofText x.ref.render).lexemes = x.lexemes ++ [] := hread.lexemes
  rw [hlexemes, List.append_nil]
  exact hx

end Document

namespace TypeRef.Writable

variable {r r' : TypeRef}

/-- Two references, each in front of something at which it may end, are told apart by the text. -/
theorem append_inj (hr : r.Writable) (hr' : r'.Writable) {cs cs' : List Char}
    (hend : ∀ p, r.EndsBefore p cs) (hend' : ∀ p, r'.EndsBefore p cs')
    (h : r.render.toList ++ cs = r'.render.toList ++ cs') : r = r' := by
  have hread : Document.typeRef "" (Stream.scan .start (r.render.toList ++ cs)) = .ok (r, _) :=
    Document.typeRef_render_iff.2 ⟨hr, hend _⟩
  have hread' : Document.typeRef "" (Stream.scan .start (r'.render.toList ++ cs')) = .ok (r', _) :=
    Document.typeRef_render_iff.2 ⟨hr', hend' _⟩
  rw [h, hread'] at hread
  exact (Prod.mk.inj (Except.ok.inj hread)).1.symm

theorem endsBefore_nil (r : TypeRef) (p : Position) : r.EndsBefore p [] := by
  have hend : Stream.scan p [] = .stop p := by rw [Stream.scan]
  exact ⟨by simp, fun _ => by simp [hend, Stream.head?], by rw [hend]; rfl⟩

/-- No two references have one notation. -/
theorem render_inj (hr : r.Writable) (hr' : r'.Writable) (h : r.render = r'.render) : r = r' :=
  hr.append_inj hr' (endsBefore_nil r) (endsBefore_nil r') (by rw [h])

end TypeRef.Writable

end TypedQuery
