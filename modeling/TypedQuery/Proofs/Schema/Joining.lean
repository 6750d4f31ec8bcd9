import TypedQuery.Proofs.Basic
import TypedQuery.Proofs.Schema.WellFormed

/-!
# Texts one below the other

A line feed ends every token but a block string, and a block string ends only at its quotes. So a
text that is read without a fault is read in the same way when another text follows on a new line,
and the other text is read as if it stood alone.

* `Lexeme.read_line`: a lexeme stays the same when a line follows.
* `Stream.scan_line`, `Stream.lexemes_join`: the same for all tokens of a text.
-/

namespace TypedQuery

namespace Lexeme

variable {cs : List Char}

/-! ## Runs of characters -/

theorem takeWhile_line {p : Char → Bool} (hp : p '\n' = false) (cs ds : List Char) :
    (cs ++ '\n' :: ds).takeWhile p = cs.takeWhile p := by
  induction cs with
  | nil => simp [hp]
  | cons c cs ih => simp only [List.cons_append, List.takeWhile_cons, ih]

/-! ## Numbers -/

theorem readDigits_line {offset n : Nat} (h : readDigits offset cs = .ok n) (ds : List Char) :
    readDigits offset (cs ++ '\n' :: ds) = .ok n ∧ n ≤ cs.length := by
  cases cs with
  | nil => cases h
  | cons c rest =>
    by_cases hc : isDigit c = true
    · simp only [readDigits, hc, if_true, Except.ok.injEq] at h
      simp only [List.cons_append, readDigits, hc, if_true, ← h]
      rw [← List.cons_append, takeWhile_line (by decide)]
      exact ⟨rfl, (List.takeWhile_sublist isDigit).length_le⟩
    · simp [readDigits, hc] at h

theorem readWhole_line {offset n : Nat} (h : readWhole offset cs = .ok n) (ds : List Char) :
    readWhole offset (cs ++ '\n' :: ds) = .ok n ∧ n ≤ cs.length := by
  unfold readWhole at h
  split at h
  · rename_i c rest
    split at h
    · cases h
    · rename_i hc
      cases h
      simp [readWhole, hc]
  · cases h
    simp [readWhole, isDigit]
  · rename_i hzero hlone
    obtain ⟨hdigits, hle⟩ := readDigits_line h ds
    refine ⟨?_, hle⟩
    rw [← hdigits]
    cases cs with
    | nil => cases h
    | cons c rest =>
      have hc : c ≠ '0' := by
        rintro rfl
        cases rest with
        | nil => exact hlone rfl
        | cons d rest => exact hzero d rest rfl
      simp [readWhole, hc]

theorem readFraction_line {offset n : Nat} (h : readFraction offset cs = .ok n) (ds : List Char) :
    readFraction offset (cs ++ '\n' :: ds) = .ok n ∧ n ≤ cs.length := by
  unfold readFraction at h
  split at h
  · rename_i rest
    obtain ⟨k, hk, hn⟩ := bind_eq_ok.1 h
    cases hn
    obtain ⟨hdigits, hle⟩ := readDigits_line hk ds
    exact ⟨by simp [readFraction, hdigits, bind, Except.bind, pure, Except.pure], by simp; omega⟩
  · rename_i hdot
    cases h
    refine ⟨?_, Nat.zero_le _⟩
    cases cs with
    | nil => rfl
    | cons c rest =>
      have hc : c ≠ '.' := by
        rintro rfl
        exact hdot rest rfl
      simp [readFraction, hc, pure, Except.pure]

theorem readExponent_line {offset n : Nat} (h : readExponent offset cs = .ok n) (ds : List Char) :
    readExponent offset (cs ++ '\n' :: ds) = .ok n ∧ n ≤ cs.length := by
  cases cs with
  | nil =>
    cases h
    exact ⟨rfl, Nat.le_refl _⟩
  | cons c rest =>
    by_cases hc : (c == 'e' || c == 'E') = true
    · cases rest with
      | nil => simp [readExponent, hc, readDigits, bind, Except.bind] at h
      | cons s digits =>
        simp only [readExponent, hc, if_true] at h
        simp only [List.cons_append, readExponent, hc, if_true]
        split at h <;> rename_i hs
        · obtain ⟨k, hk, hn⟩ := bind_eq_ok.1 h
          obtain ⟨hdigits, hle⟩ := readDigits_line hk ds
          cases hn
          rw [if_pos hs, hdigits]
          exact ⟨rfl, by simpa using hle⟩
        · obtain ⟨k, hk, hn⟩ := bind_eq_ok.1 h
          obtain ⟨hdigits, hle⟩ := readDigits_line hk ds
          cases hn
          rw [List.cons_append] at hdigits
          rw [if_neg hs, hdigits]
          exact ⟨rfl, by simpa using hle⟩
    · simp only [readExponent, hc] at h
      cases h
      simp [readExponent, hc, pure, Except.pure]

/-- What may follow a number may also be a line feed. -/
theorem readNumber_line {r : Reading} (hne : cs ≠ []) (h : readNumber cs = .ok r)
    (ds : List Char) : readNumber (cs ++ '\n' :: ds) = .ok r ∧ r.more < cs.length := by
  have hpos : 0 < cs.length := List.length_pos_iff.2 hne
  have hhead : (cs ++ '\n' :: ds).head? = cs.head? := by
    rw [List.head?_append, Option.or_of_isSome (by simpa using hne)]
  have hdrop : ∀ n, n ≤ cs.length →
      (cs ++ '\n' :: ds).drop n = cs.drop n ++ '\n' :: ds := fun n hn =>
    List.drop_append_of_le_length hn
  unfold readNumber at h ⊢
  rw [hhead]
  obtain ⟨whole, hwhole, h⟩ := bind_eq_ok.1 h
  obtain ⟨fraction, hfraction, h⟩ := bind_eq_ok.1 h
  obtain ⟨exponent, hexponent, h⟩ := bind_eq_ok.1 h
  generalize hsign : (if cs.head? = some '-' then 1 else 0) = sign at *
  have hle₀ : sign ≤ cs.length := by split at hsign <;> omega
  obtain ⟨hwhole', hle₁⟩ := readWhole_line hwhole ds
  obtain ⟨hfraction', hle₂⟩ := readFraction_line hfraction ds
  obtain ⟨hexponent', hle₃⟩ := readExponent_line hexponent ds
  rw [List.length_drop] at hle₁ hle₂ hle₃
  have hle : sign + whole + fraction + exponent ≤ cs.length := by omega
  rw [← hdrop _ (by omega)] at hwhole' hfraction' hexponent'
  have hmore : ∀ l : Lexeme, r = ⟨l, sign + whole + fraction + exponent - 1⟩ →
      r.more < cs.length := by
    rintro l rfl
    show sign + whole + fraction + exponent - 1 < cs.length
    omega
  -- The number is followed by the same character as before, or by the line feed.
  cases hrest : cs.drop (sign + whole + fraction + exponent) with
  | nil =>
    simp only [hrest, Except.ok.injEq] at h
    refine ⟨bind_eq_ok.2 ⟨whole, hwhole', bind_eq_ok.2 ⟨fraction, hfraction',
      bind_eq_ok.2 ⟨exponent, hexponent', ?_⟩⟩⟩, hmore _ h.symm⟩
    simp only [hdrop _ hle, hrest, List.take_append_of_le_length hle, List.nil_append]
    exact congrArg Except.ok h
  | cons c rest =>
    simp only [hrest] at h
    split at h
    · cases h
    · rename_i hc
      rw [Except.ok.injEq] at h
      refine ⟨bind_eq_ok.2 ⟨whole, hwhole', bind_eq_ok.2 ⟨fraction, hfraction',
        bind_eq_ok.2 ⟨exponent, hexponent', ?_⟩⟩⟩, hmore _ h.symm⟩
      simp only [hdrop _ hle, hrest, List.take_append_of_le_length hle, List.cons_append, hc]
      exact congrArg Except.ok h

/-! ## Strings -/

theorem hexUnit?_append {n : Nat} (h : hexUnit? cs = some n) (ds : List Char) :
    hexUnit? (cs ++ ds) = some n ∧ 4 ≤ cs.length := by
  unfold hexUnit? at h
  split at h
  · exact ⟨h, by simp⟩
  · cases h

theorem readFixedEscape_append {c : Char} {n : Nat} (h : readFixedEscape cs = some (c, n))
    (ds : List Char) : readFixedEscape (cs ++ ds) = some (c, n) ∧ n ≤ cs.length + 2 := by
  unfold readFixedEscape at h ⊢
  obtain ⟨unit, hunit, h⟩ := Option.bind_eq_some_iff.1 h
  obtain ⟨hunit', hle⟩ := hexUnit?_append hunit ds
  rw [hunit', Option.bind_eq_bind, Option.bind_some, List.drop_append_of_le_length hle]
  cases hchar : charOf? unit with
  | some ch =>
    simp only [hchar, pure, Option.some.injEq, Prod.mk.injEq] at h
    exact ⟨by simp [← h.1, ← h.2], by omega⟩
  | none =>
    simp only [hchar] at h
    split at h
    · rename_i rest hrest
      obtain ⟨second, hsecond, h⟩ := Option.bind_eq_some_iff.1 h
      obtain ⟨hsecond', hle'⟩ := hexUnit?_append hsecond ds
      have hlength := congrArg List.length hrest
      rw [List.length_drop, List.length_cons, List.length_cons] at hlength
      split at h
      · rename_i hpair
        simp only [Option.some.injEq, Prod.mk.injEq] at h
        obtain ⟨rfl, rfl⟩ := h
        simp only [hrest, List.cons_append, hsecond', Option.bind_some, hpair, if_true, true_and]
        omega
      · cases h
    · cases h

theorem readBracedEscape_append {size point room : Nat} {r : Char × Nat}
    (h : readBracedEscape size point room cs = .ok r) (ds : List Char) :
    readBracedEscape size point room (cs ++ ds) = .ok r ∧ r.2 ≤ size + cs.length := by
  fun_induction readBracedEscape size point room cs with
  | case1 => cases h
  | case2 => cases h
  | case3 => cases h
  | case4 size point room c cs hc hsize ch hch =>
    cases h
    simp only [List.cons_append, readBracedEscape, hc, if_true, hch]
    rw [if_neg hsize]
    exact ⟨rfl, by simp⟩
  | case5 => cases h
  | case6 size point room c cs hc d hd ih =>
    obtain ⟨hih, hle⟩ := ih h
    simp only [List.cons_append, readBracedEscape, hc, hd, hih]
    exact ⟨rfl, by simp only [List.length_cons]; omega⟩
  | case7 => cases h

theorem readEscape_append {c : Char} {n : Nat} (h : readEscape cs = .ok (c, n)) (ds : List Char) :
    readEscape (cs ++ ds) = .ok (c, n) ∧ n ≤ cs.length := by
  unfold readEscape at h
  split at h
  · rename_i rest
    split at h
    · rename_i ch k hread
      obtain ⟨hread', hle⟩ := readBracedEscape_append hread ds
      simp only [Except.ok.injEq, Prod.mk.injEq] at h
      obtain ⟨rfl, rfl⟩ := h
      simp only [List.cons_append, readEscape, hread', List.length_cons, true_and]
      omega
    · cases h
  · rename_i rest hbrace
    split at h
    · rename_i ch k hread
      obtain ⟨hread', hle⟩ := readFixedEscape_append hread ds
      simp only [Except.ok.injEq, Prod.mk.injEq] at h
      obtain ⟨rfl, rfl⟩ := h
      refine ⟨?_, by simp only [List.length_cons]; omega⟩
      -- Four digits follow, so the character after the letter is there already.
      cases rest with
      | nil => cases hread
      | cons x rest =>
        have hx : x ≠ '\x7b' := by
          rintro rfl
          exact hbrace rest rfl
        simp only [List.cons_append] at hread' ⊢
        simp [readEscape, hx, hread']
    · cases h
  · rename_i x rest hbrace hu
    have hx : x ≠ 'u' := by
      rintro rfl
      exact hu rfl
    split at h
    · rename_i ch hplain
      simp only [Except.ok.injEq, Prod.mk.injEq] at h
      obtain ⟨rfl, rfl⟩ := h
      simp [readEscape, hx, hplain]
    · cases h
  · cases h

theorem readString_append {offset : Nat} {value : List Char} {r : Reading}
    (h : readString offset value cs = .ok r) (ds : List Char) :
    readString offset value (cs ++ ds) = .ok r ∧ r.more < offset + cs.length := by
  fun_induction readString offset value cs with
  | case1 => cases h
  | case2 offset value c rest hc =>
    cases h
    unfold readString
    simp [hc]
  | case3 => cases h
  | case4 => cases h
  | case5 offset value c rest hc hend hslash ch n hread ih =>
    obtain ⟨hread', hle⟩ := readEscape_append hread ds
    obtain ⟨hih, hlt⟩ := ih h
    rw [List.length_drop] at hlt
    unfold readString
    simp only [List.cons_append, hc, hend, hslash, hread', List.drop_append_of_le_length hle, hih]
    exact ⟨rfl, by simp only [List.length_cons]; omega⟩
  | case6 offset value c rest hc hend hslash ih =>
    obtain ⟨hih, hlt⟩ := ih h
    unfold readString
    simp only [List.cons_append, hc, hend, hslash, hih]
    exact ⟨rfl, by simp only [List.length_cons]; omega⟩

/-- A block string has its three closing quotes ahead of it. -/
theorem readBlock_length {offset : Nat} {lines : List (List Char)} {line : List Char} {r : Reading}
    (h : readBlock offset lines line cs = .ok r) : 3 ≤ cs.length ∧ r.more < offset + cs.length := by
  fun_induction readBlock offset lines line cs with
  | case1 => cases h; simp
  | case7 => cases h
  | _ =>
    rename_i ih
    have := ih h
    simp only [List.length_cons]
    omega

/-- No reader of a block string looks further ahead than its closing quotes. -/
theorem readBlock_append {offset : Nat} {lines : List (List Char)} {line : List Char} {r : Reading}
    (h : readBlock offset lines line cs = .ok r) (ds : List Char) :
    readBlock offset lines line (cs ++ ds) = .ok r := by
  have hshape : ∀ {rest : List Char}, 3 ≤ rest.length →
      ∃ x y z more, rest = x :: y :: z :: more := by
    rintro (_ | ⟨x, _ | ⟨y, _ | ⟨z, more⟩⟩⟩) hlength
    · simp at hlength
    · simp at hlength
    · simp at hlength
    · exact ⟨x, y, z, more, rfl⟩
  fun_induction readBlock offset lines line cs with
  | case1 => cases h; simp [readBlock]
  | case2 offset lines line rest ih => simpa [readBlock] using ih h
  | case3 offset lines line rest ih => simpa [readBlock] using ih h
  | case4 offset lines line rest hfeed ih =>
    obtain ⟨x, y, z, more, rfl⟩ := hshape (readBlock_length h).1
    rw [List.cons_append, readBlock.eq_4, ih h]
    rintro rest' he
    cases he
    exact hfeed _ rfl
  | case5 offset lines line rest ih => simpa [readBlock] using ih h
  | case6 offset lines line c rest hquotes hescape _ hreturn hnew ih =>
    obtain ⟨x, y, z, more, rfl⟩ := hshape (readBlock_length h).1
    rw [List.cons_append, readBlock.eq_6, ih h]
    · rintro tail hc he
      cases he
      exact hquotes _ hc rfl
    · rintro tail hc he
      cases he
      exact hescape _ hc rfl
    · exact fun _ hc _ => hreturn hc
    · exact hreturn
    · exact hnew
  | case7 => cases h

/-! ## Lexemes -/

/-- A lexeme is the same when a line follows, and ends where it ended. -/
theorem read_line {c : Char} {r : Reading} (h : read c cs = .ok r) (ds : List Char) :
    read c (cs ++ '\n' :: ds) = .ok r ∧ r.more ≤ cs.length := by
  unfold read at h ⊢
  cases hp : Punct.ofChar? c with
  | some p =>
    simp only [hp, Except.ok.injEq] at h ⊢
    exact ⟨h, by simp [← h]⟩
  | none =>
    simp only [hp] at h ⊢
    split at h <;> rename_i hquote
    · rw [if_pos hquote]
      split at h
      · rename_i rest
        have hlength := (readBlock_length h).2
        simp only [List.cons_append, readBlock_append h, true_and, List.length_cons]
        omega
      · rename_i hblock
        obtain ⟨hread, hlt⟩ := readString_append h ('\n' :: ds)
        refine ⟨?_, by omega⟩
        split
        · -- Two quotes and a line feed do not open a block string.
          rename_i rest hrest
          rcases cs with _ | ⟨a, _ | ⟨b, more⟩⟩
          · cases hrest
          · simp at hrest
          · cases hrest
            exact absurd rfl (hblock more)
        · exact hread
    · rw [if_neg hquote]
      split at h <;> rename_i hnumber
      · rw [if_pos hnumber]
        obtain ⟨hread, hlt⟩ := readNumber_line (List.cons_ne_nil c cs) h ds
        simp only [List.length_cons] at hlt
        exact ⟨hread, by omega⟩
      · rw [if_neg hnumber]
        split at h <;> rename_i hname
        · rw [if_pos hname]
          simp only [Except.ok.injEq] at h ⊢
          rw [takeWhile_line (by decide)]
          refine ⟨h, ?_⟩
          rw [← h]
          exact (List.takeWhile_sublist isNameChar).length_le
        · rw [if_neg hname]
          split at h <;> rename_i hdot
          · rw [if_pos hdot]
            unfold readDots at h
            split at h
            · cases h
              simp [readDots]
            · cases h
            · split at h <;> cases h
            · cases h
          · split at h <;> cases h

end Lexeme

/-! ## Tokens -/

namespace Stream

/-- The tokens of a stream up to its end, then those of another. -/
def append : Stream → Stream → Stream
  | .stop _, r => r
  | .fault why p, _ => .fault why p
  | .next t rest, r => .next t (rest.append r)

theorem lexemes_append {s : Stream} (h : s.isComplete = true) (r : Stream) :
    (s.append r).lexemes = s.lexemes ++ r.lexemes := by
  induction s with
  | stop p => rfl
  | fault why p => cases h
  | next t rest ih => exact congrArg (t.lexeme :: ·) (ih h)

theorem isComplete_append (s r : Stream) :
    (s.append r).isComplete = (s.isComplete && r.isComplete) := by
  induction s with
  | stop p => rfl
  | fault why p => rfl
  | next t rest ih => exact ih

/-- A text without a fault is read in the same way when another one follows on a new line. -/
theorem scan_line {p : Position} {cs : List Char} (h : (scan p cs).isComplete = true)
    (ds : List Char) : ∃ q, scan p (cs ++ '\n' :: ds) = (scan p cs).append (scan q ds) := by
  fun_induction scan p cs with
  | case1 p =>
    refine ⟨p.newLine, ?_⟩
    rw [List.nil_append, scan]
    rfl
  | case2 p c rest hblank ih =>
    obtain ⟨q, hq⟩ := ih h
    refine ⟨q, ?_⟩
    rw [List.cons_append, scan, if_pos hblank, hq]
  | case3 p c rest hblank hnew ih =>
    obtain ⟨q, hq⟩ := ih h
    refine ⟨q, ?_⟩
    rw [List.cons_append, scan, if_neg hblank, if_pos hnew, hq]
  | case4 p c rest hblank hnew hreturn ih =>
    rw [List.cons_append, scan, if_neg hblank, if_neg hnew, if_pos hreturn]
    cases rest with
    | nil =>
      -- The line feed in between belongs to the carriage return.
      refine ⟨p.newLine, ?_⟩
      simp [dropFeed, scan, append]
    | cons d rest =>
      obtain ⟨q, hq⟩ := ih h
      refine ⟨q, ?_⟩
      rw [← hq]
      by_cases hd : d = '\n' <;> simp [dropFeed, hd]
  | case5 p c rest hblank hnew hreturn hcomment comment ih =>
    obtain ⟨q, hq⟩ := ih h
    refine ⟨q, ?_⟩
    rw [List.cons_append, scan, if_neg hblank, if_neg hnew, if_neg hreturn, if_pos hcomment,
      Lexeme.takeWhile_line (by decide), ← hq,
      ← List.drop_append_of_le_length (List.takeWhile_sublist _).length_le]
  | case6 p c rest hblank hnew hreturn hcomment f hf => cases h
  | case7 p c rest hblank hnew hreturn hcomment r hr ih =>
    obtain ⟨q, hq⟩ := ih h
    obtain ⟨hread, hle⟩ := Lexeme.read_line hr ds
    refine ⟨q, ?_⟩
    rw [List.cons_append, scan, if_neg hblank, if_neg hnew, if_neg hreturn, if_neg hcomment, hread]
    simp only [append, List.take_append_of_le_length hle, List.drop_append_of_le_length hle, hq]

/-- The place where a text starts decides neither its lexemes nor whether it has a fault. -/
theorem scan_start (p q : Position) (cs : List Char) :
    (scan p cs).lexemes = (scan q cs).lexemes ∧
      (scan p cs).isComplete = (scan q cs).isComplete := by
  fun_induction scan p cs generalizing q with
  | case1 p => simp [scan, lexemes, tokens, isComplete]
  | case2 p c rest hblank ih =>
    rw [scan, if_pos hblank]
    exact ih _
  | case3 p c rest hblank hnew ih =>
    rw [scan, if_neg hblank, if_pos hnew]
    exact ih _
  | case4 p c rest hblank hnew hreturn ih =>
    rw [scan, if_neg hblank, if_neg hnew, if_pos hreturn]
    exact ih _
  | case5 p c rest hblank hnew hreturn hcomment comment ih =>
    rw [scan, if_neg hblank, if_neg hnew, if_neg hreturn, if_pos hcomment]
    exact ih _
  | case6 p c rest hblank hnew hreturn hcomment f hf =>
    rw [scan, if_neg hblank, if_neg hnew, if_neg hreturn, if_neg hcomment, hf]
    exact ⟨rfl, rfl⟩
  | case7 p c rest hblank hnew hreturn hcomment r hr ih =>
    rw [scan, if_neg hblank, if_neg hnew, if_neg hreturn, if_neg hcomment, hr]
    obtain ⟨hlexemes, hcomplete⟩ := ih (q.after (c :: rest.take r.more))
    exact ⟨congrArg (r.lexeme :: ·) hlexemes, hcomplete⟩

/-- The lexemes of two texts one below the other are those of the first and those of the second. -/
theorem lexemes_join (text₁ text₂ : String) (h : (ofText text₁).isComplete = true) :
    (ofText (text₁ ++ "\n" ++ text₂)).lexemes = (ofText text₁).lexemes ++ (ofText text₂).lexemes ∧
      (ofText (text₁ ++ "\n" ++ text₂)).isComplete = (ofText text₂).isComplete := by
  have hlist : (text₁ ++ "\n" ++ text₂).toList = text₁.toList ++ '\n' :: text₂.toList := by
    simp [String.toList_append]
  obtain ⟨q, hq⟩ := scan_line h text₂.toList
  obtain ⟨hlexemes, hcomplete⟩ := scan_start q .start text₂.toList
  unfold ofText at h ⊢
  rw [hlist, hq, lexemes_append h, isComplete_append, h, hlexemes, hcomplete]
  exact ⟨rfl, rfl⟩

end Stream

end TypedQuery
