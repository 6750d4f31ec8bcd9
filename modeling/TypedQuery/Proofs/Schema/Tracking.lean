import TypedQuery.Proofs.Schema.Joining
import TypedQuery.Proofs.Schema.Notation

/-!
# Where the lexer is

The lexer counts lines and columns while it reads. Whatever it skips and reads, the position it
names for a place of the text is the one that the characters before the place lead to.

* `Position.after_append`: positions behind two texts.
* `Stream.Places`: the position that the lexer names for a place.
* `Stream.exists_places`: tokens, faults and the end of a text stand at such positions.
* `Stream.Places.exists_before`: the characters before the place decide its position.
-/

namespace TypedQuery

open Lexeme (isLineEnd isDigit isNameChar)

/-! ## Positions behind texts -/

namespace Position

variable {p : Position}

theorem after_return {cs : List Char} (h : cs.head? ≠ some '\n') (p : Position) :
    p.after ('\r' :: cs) = p.newLine.after cs := by
  rw [after]
  rintro rest rfl
  exact h rfl

/-- A text may be cut everywhere but inside of a line end. -/
theorem after_append {as bs : List Char} (h : as.getLast? = some '\r' → bs.head? ≠ some '\n')
    (p : Position) : p.after (as ++ bs) = (p.after as).after bs := by
  fun_induction after p as with
  | case1 p => rfl
  | case2 p as ih =>
    rw [List.cons_append, List.cons_append, after]
    exact ih fun hlast => h (by simp [List.getLast?_cons, hlast])
  | case3 p as hfeed ih =>
    have hhead : (as ++ bs).head? ≠ some '\n' := by
      cases as with
      | nil => exact h rfl
      | cons a as =>
        rintro ⟨⟩
        exact hfeed as rfl
    rw [List.cons_append, after_return hhead]
    exact ih fun hlast => h (by simp [List.getLast?_cons, hlast])
  | case4 p as ih =>
    rw [List.cons_append, after]
    exact ih fun hlast => h (by simp [List.getLast?_cons, hlast])
  | case5 p c as hreturn hboth hfeed ih =>
    have hc : isLineEnd c = false := by simp_all [isLineEnd]
    rw [List.cons_append, after_cons hc]
    exact ih fun hlast => h (by simp [List.getLast?_cons, hlast])

end Position

/-! ## The last characters of lexemes -/

namespace Lexeme

theorem isLineEnd_of_isDigit {c : Char} (h : isDigit c = true) : isLineEnd c = false :=
  isLineEnd_of_isNameChar (Bool.or_eq_true_iff.2 (.inr h))

theorem readDigits_inline {offset n : Nat} {cs : List Char} (h : readDigits offset cs = .ok n) :
    ∀ d ∈ cs.take n, isLineEnd d = false := by
  unfold readDigits at h
  split at h
  · split at h
    · cases h
      intro d hd
      rw [← List.prefix_iff_eq_take.1 (List.takeWhile_prefix isDigit)] at hd
      exact isLineEnd_of_isDigit (List.all_eq_true.1 (List.all_takeWhile ..) d hd)
    · cases h
  · cases h

theorem readWhole_inline {offset n : Nat} {cs : List Char} (h : readWhole offset cs = .ok n) :
    ∀ d ∈ cs.take n, isLineEnd d = false := by
  unfold readWhole at h
  split at h
  · split at h
    · cases h
    · cases h
      simp [isLineEnd]
  · cases h
    simp [isLineEnd]
  · exact readDigits_inline h

theorem readFraction_inline {offset n : Nat} {cs : List Char}
    (h : readFraction offset cs = .ok n) : ∀ d ∈ cs.take n, isLineEnd d = false := by
  unfold readFraction at h
  split at h
  · obtain ⟨k, hk, hn⟩ := bind_eq_ok.1 h
    cases hn
    rw [List.take_succ_cons]
    exact List.forall_mem_cons.2 ⟨rfl, readDigits_inline hk⟩
  · cases h
    simp

theorem readExponent_inline {offset n : Nat} {cs : List Char}
    (h : readExponent offset cs = .ok n) : ∀ d ∈ cs.take n, isLineEnd d = false := by
  unfold readExponent at h
  split at h
  · split at h
    · rename_i c rest hc
      have hc : isLineEnd c = false := by
        simp only [Bool.or_eq_true, beq_iff_eq] at hc
        obtain rfl | rfl := hc <;> rfl
      split at h
      · split at h
        · rename_i s digits hs
          have hs : isLineEnd s = false := by
            simp only [Bool.or_eq_true, beq_iff_eq] at hs
            obtain rfl | rfl := hs <;> rfl
          obtain ⟨k, hk, hn⟩ := bind_eq_ok.1 h
          cases hn
          rw [List.take_succ_cons, List.take_succ_cons]
          exact List.forall_mem_cons.2 ⟨hc, List.forall_mem_cons.2 ⟨hs, readDigits_inline hk⟩⟩
        · obtain ⟨k, hk, hn⟩ := bind_eq_ok.1 h
          cases hn
          rw [List.take_succ_cons]
          exact List.forall_mem_cons.2 ⟨hc, readDigits_inline hk⟩
      · cases h
    · cases h
      simp
  · cases h
    simp

/-- A number stands on one line. -/
theorem readNumber_inline {r : Reading} {cs : List Char} (h : readNumber cs = .ok r) :
    ∃ n, r.more = n - 1 ∧ ∀ d ∈ cs.take n, isLineEnd d = false := by
  unfold readNumber at h
  obtain ⟨whole, hwhole, h⟩ := bind_eq_ok.1 h
  obtain ⟨fraction, hfraction, h⟩ := bind_eq_ok.1 h
  obtain ⟨exponent, hexponent, h⟩ := bind_eq_ok.1 h
  generalize hsign : (if cs.head? = some '-' then 1 else 0) = sign at *
  refine ⟨sign + whole + fraction + exponent, ?_, ?_⟩
  · cases hrest : cs.drop (sign + whole + fraction + exponent) with
    | nil =>
      simp only [hrest] at h
      cases h
      rfl
    | cons c rest =>
      simp only [hrest] at h
      split at h
      · cases h
      · cases h
        rfl
  · have hminus : ∀ d ∈ cs.take sign, isLineEnd d = false := by
      split at hsign
      · rename_i hhead
        obtain ⟨rest, rfl⟩ := List.head?_eq_some_iff.1 hhead
        cases hsign
        simp [isLineEnd]
      · cases hsign
        simp
    intro d hd
    rw [List.take_add, List.take_add, List.take_add] at hd
    simp only [List.mem_append] at hd
    obtain ((hd | hd) | hd) | hd := hd
    · exact hminus d hd
    · exact readWhole_inline hwhole d hd
    · exact readFraction_inline hfraction d hd
    · exact readExponent_inline hexponent d hd

/-- The character at a place of the token, seen from `offset` and from further on. -/
theorem getElem?_of_drop {cs : List Char} {offset place : Nat} {d : Char} (k : Nat)
    (h : offset + k ≤ place ∧ (cs.drop k)[place - (offset + k)]? = some d) :
    offset ≤ place ∧ cs[place - offset]? = some d := by
  obtain ⟨hle, hget⟩ := h
  rw [List.getElem?_drop, show k + (place - (offset + k)) = place - offset by omega] at hget
  exact ⟨by omega, hget⟩

/-- A string ends with a quote. -/
theorem readString_last {offset : Nat} {value cs : List Char} {r : Reading}
    (h : readString offset value cs = .ok r) :
    offset ≤ r.more ∧ cs[r.more - offset]? = some '"' := by
  fun_induction readString offset value cs with
  | case1 => cases h
  | case2 offset value c rest hquote =>
    cases h
    simpa using hquote
  | case3 => cases h
  | case4 => cases h
  | case5 offset value c rest hquote hend hescape ch n hread ih =>
    exact getElem?_of_drop 1 (getElem?_of_drop n (ih h))
  | case6 offset value c rest hquote hend hescape ih => exact getElem?_of_drop 1 (ih h)

/-- A block string ends with a quote. -/
theorem readBlock_last {offset : Nat} {lines : List (List Char)} {line cs : List Char}
    {r : Reading} (h : readBlock offset lines line cs = .ok r) :
    offset ≤ r.more ∧ cs[r.more - offset]? = some '"' := by
  fun_induction readBlock offset lines line cs with
  | case1 =>
    cases h
    simp
  | case2 offset lines line rest ih => exact getElem?_of_drop 4 (ih h)
  | case3 offset lines line rest ih => exact getElem?_of_drop 2 (ih h)
  | case7 => cases h
  | _ =>
    rename_i ih
    exact getElem?_of_drop 1 (ih h)

theorem mem_take_of_getElem? {cs : List Char} {place n : Nat} {d : Char} (hplace : place < n)
    (h : cs[place]? = some d) : d ∈ cs.take n :=
  List.mem_of_getElem? ((List.getElem?_take_of_lt hplace).trans h)

/-- No lexeme ends with the end of a line. -/
theorem read_last {c d : Char} {cs : List Char} {r : Reading} (h : read c cs = .ok r)
    (hd : (c :: cs)[r.more]? = some d) : isLineEnd d = false := by
  have hquoted (hlast : 0 ≤ r.more ∧ (c :: cs)[r.more - 0]? = some '"') :
      isLineEnd d = false := by
    cases hd.symm.trans hlast.2
    rfl
  -- One case for each kind of lexeme, in the order in which they are tried.
  unfold read at h
  split at h
  · rename_i q hq
    cases h
    cases hd
    unfold Punct.ofChar? at hq
    split at hq <;> cases hq <;> rfl
  split at h
  · split at h
    · exact hquoted (getElem?_of_drop 3 (readBlock_last h))
    · exact hquoted (getElem?_of_drop 1 (readString_last h))
  split at h
  · rename_i hc
    obtain ⟨n, hmore, hinline⟩ := readNumber_inline h
    cases n with
    | zero =>
      -- No number is empty, but its first character is enough here.
      rw [hmore] at hd
      cases hd
      rcases Bool.or_eq_true_iff.1 hc with hc | hc
      · exact isLineEnd_of_isDigit hc
      · rw [beq_iff_eq.1 hc]
        rfl
    | succ n => exact hinline d (mem_take_of_getElem? (by omega) hd)
  split at h
  · rename_i hc
    cases h
    have hmem := mem_take_of_getElem? (Nat.lt_succ_self _) hd
    rw [List.take_succ_cons, ← List.prefix_iff_eq_take.1 (List.takeWhile_prefix isNameChar)] at hmem
    rcases List.mem_cons.1 hmem with rfl | hmem
    · exact isLineEnd_of_isNameChar (Bool.or_eq_true_iff.2 (.inl hc))
    · exact isLineEnd_of_isNameChar (List.all_eq_true.1 (List.all_takeWhile ..) d hmem)
  split at h
  · unfold readDots at h
    split at h
    · cases h
      cases hd
      rfl
    · cases h
    · split at h <;> cases h
    · cases h
  split at h <;> cases h

end Lexeme

/-! ## Positions of the lexer -/

namespace Stream

/-- The lexer, which is at `p` in front of a text, names `q` as the position of a rest of it. It
does so for every token and for what stands between tokens, and for the place of a fault. -/
inductive Places : Position → List Char → Position → List Char → Prop
  | here (p : Position) (cs : List Char) : Places p cs p cs
  | fault {p : Position} {c : Char} {cs : List Char} {f : Lexeme.Fault}
    (h : Lexeme.read c cs = .error f) :
    Places p (c :: cs) (p.after ((c :: cs).take f.offset)) ((c :: cs).drop f.offset)
  | blank {p q : Position} {c : Char} {cs rest : List Char} (hc : isBlank c = true)
    (h : Places (p.right 1) cs q rest) : Places p (c :: cs) q rest
  | feed {p q : Position} {cs rest : List Char} (h : Places p.newLine cs q rest) :
    Places p ('\n' :: cs) q rest
  | carriage {p q : Position} {cs rest : List Char} (h : Places p.newLine (dropFeed cs) q rest) :
    Places p ('\r' :: cs) q rest
  | comment {p q : Position} {cs rest : List Char}
    (h : Places (p.right ((cs.takeWhile fun d => !isLineEnd d).length + 1))
      (cs.drop (cs.takeWhile fun d => !isLineEnd d).length) q rest) : Places p ('#' :: cs) q rest
  | token {p q : Position} {c : Char} {cs rest : List Char} {r : Lexeme.Reading}
    (hr : Lexeme.read c cs = .ok r)
    (h : Places (p.after (c :: cs.take r.more)) (cs.drop r.more) q rest) : Places p (c :: cs) q rest

/-- The positions of the tokens of a stream, and of what ends it. -/
def positions : Stream → List Position
  | .stop p | .fault _ p => [p]
  | .next t rest => t.position :: rest.positions

/-- The positions in a stream are those that the lexer names. -/
theorem exists_places {p q : Position} {cs : List Char} (h : q ∈ (scan p cs).positions) :
    ∃ rest, Places p cs q rest := by
  fun_induction scan p cs with
  | case1 p =>
    cases List.mem_singleton.1 h
    exact ⟨[], .here ..⟩
  | case2 p c cs hblank ih =>
    obtain ⟨rest, hrest⟩ := ih h
    exact ⟨rest, .blank hblank hrest⟩
  | case3 p c cs hblank hnew ih =>
    obtain ⟨rest, hrest⟩ := ih h
    cases beq_iff_eq.1 hnew
    exact ⟨rest, .feed hrest⟩
  | case4 p c cs hblank hnew hreturn ih =>
    obtain ⟨rest, hrest⟩ := ih h
    cases beq_iff_eq.1 hreturn
    exact ⟨rest, .carriage hrest⟩
  | case5 p c cs hblank hnew hreturn hcomment comment ih =>
    obtain ⟨rest, hrest⟩ := ih h
    cases beq_iff_eq.1 hcomment
    exact ⟨rest, .comment hrest⟩
  | case6 p c cs hblank hnew hreturn hcomment f hf =>
    cases List.mem_singleton.1 h
    exact ⟨_, .fault hf⟩
  | case7 p c cs hblank hnew hreturn hcomment r hr ih =>
    rcases List.mem_cons.1 h with rfl | h
    · exact ⟨c :: cs, .here ..⟩
    · obtain ⟨rest, hrest⟩ := ih h
      exact ⟨rest, .token hr hrest⟩

/-- The lexer goes on behind `step`, which it does not leave inside of a line end. -/
theorem exists_before_step {p q : Position} {cs rest : List Char} (step : List Char)
    (hstep : step.getLast? = some '\r' → cs.head? ≠ some '\n')
    (h : ∃ before, cs = before ++ rest ∧ q = (p.after step).after before) :
    ∃ before, step ++ cs = before ++ rest ∧ q = p.after before := by
  obtain ⟨before, rfl, rfl⟩ := h
  refine ⟨step ++ before, (List.append_assoc ..).symm, (Position.after_append ?_ p).symm⟩
  intro hlast hhead
  refine hstep hlast ?_
  rw [List.head?_append, hhead]
  rfl

/-- The lexer goes on behind characters of one line. -/
theorem exists_before_inline {p q : Position} {cs rest : List Char} {step : List Char}
    (hstep : ∀ c ∈ step, isLineEnd c = false)
    (h : ∃ before, cs = before ++ rest ∧ q = (p.right step.length).after before) :
    ∃ before, step ++ cs = before ++ rest ∧ q = p.after before := by
  refine exists_before_step step ?_ ?_
  · intro hlast
    cases hstep '\r' (List.mem_of_getLast? hlast)
  · rw [Position.after_of_not_isLineEnd hstep]
    exact h

/-- The characters before a place decide its position. -/
theorem Places.exists_before {p q : Position} {cs rest : List Char} (h : Places p cs q rest) :
    ∃ before, cs = before ++ rest ∧ q = p.after before := by
  induction h with
  | here p cs => exact ⟨[], rfl, rfl⟩
  | fault h => exact ⟨_, (List.take_append_drop ..).symm, rfl⟩
  | @blank p q c cs rest hc h ih =>
    have hline : ∀ d ∈ [c], isLineEnd d = false := by
      intro d hd
      rw [List.mem_singleton.1 hd]
      simp only [isBlank, Bool.or_eq_true, beq_iff_eq] at hc
      obtain ((rfl | rfl) | rfl) | rfl := hc <;> rfl
    exact exists_before_inline hline ih
  | @feed p q cs rest h ih => exact exists_before_step ['\n'] (by simp) ih
  | @carriage p q cs rest h ih =>
    unfold dropFeed at ih
    split at ih
    · exact exists_before_step ['\r', '\n'] (by simp) ih
    · rename_i hfeed
      refine exists_before_step ['\r'] (fun _ hhead => ?_) ih
      obtain ⟨tail, rfl⟩ := List.head?_eq_some_iff.1 hhead
      exact hfeed tail rfl
  | @comment p q cs rest h ih =>
    have hline : ∀ d ∈ '#' :: cs.takeWhile (fun d => !isLineEnd d), isLineEnd d = false := by
      refine List.forall_mem_cons.2 ⟨rfl, fun d hd => ?_⟩
      simpa using List.all_eq_true.1 (List.all_takeWhile ..) d hd
    have hcs := List.prefix_iff_eq_append.1 (List.takeWhile_prefix (l := cs) fun d => !isLineEnd d)
    have hbefore := exists_before_inline hline ih
    rwa [List.cons_append, hcs] at hbefore
  | @token p q c cs rest r hr h ih =>
    have hbefore := exists_before_step (c :: cs.take r.more) (fun hlast => ?_) ih
    · rwa [List.cons_append, List.take_append_drop] at hbefore
    · have hlength : r.more < (c :: cs).length := Nat.lt_succ_of_le (Lexeme.read_line hr []).2
      have hget := List.getElem?_eq_getElem hlength
      rw [← List.take_succ_cons, List.getLast?_take, if_neg (Nat.succ_ne_zero _),
        Nat.add_sub_cancel, hget, Option.some_or, Option.some.injEq] at hlast
      cases Lexeme.read_last hr (hget.trans (congrArg some hlast))

end Stream

end TypedQuery
