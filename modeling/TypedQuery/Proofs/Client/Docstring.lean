import TypedQuery.Client.Docstring

/-!
# Docstrings end where they should

A literal between triple quotes is scanned from left to right, and all that the scan needs to know
is whether a backslash came last and how many quotes did. `Docstring.closes` says where it ends.

* `Docstring.closes_iff`: a text can stand between triple quotes if the scan is where it began.
* `Docstring.run_escape`: after an escaped description it always is.
* `Docstring.run_indent`: indentation does not change where the scan ends.
-/

namespace TypedQuery.Client.Docstring

/-! ## Scanning -/

/-- Where the scan of a literal is. -/
inductive Scan where
  /-- So many quotes came last. -/
  | plain (quotes : Nat)
  /-- A backslash came last. -/
  | escaped
  /-- The literal has ended, or it cannot be one. -/
  | broken
  deriving DecidableEq

namespace Scan

/-- Takes one more character. -/
def step : Scan → Char → Scan
  | .plain q, c =>
    if c.toNat = 0 then .broken
    else if c = '\\' then .escaped
    else if c = '"' then if q < 2 then .plain (q + 1) else .broken
    else .plain 0
  | .escaped, c => if c.toNat = 0 then .broken else .plain 0
  | .broken, _ => .broken

/-- Takes characters one after the other. -/
def run (s : Scan) (cs : List Char) : Scan := cs.foldl step s

@[simp] theorem run_nil (s : Scan) : s.run [] = s := rfl

@[simp] theorem run_cons (s : Scan) (c : Char) (cs : List Char) :
    s.run (c :: cs) = (s.step c).run cs := rfl

@[simp] theorem run_append (s : Scan) (cs ds : List Char) :
    s.run (cs ++ ds) = (s.run cs).run ds := List.foldl_append

@[simp] theorem run_broken (cs : List Char) : broken.run cs = broken := by
  induction cs with
  | nil => rfl
  | cons c cs ih => exact ih

@[simp] theorem step_quote {q : Nat} (h : q < 2) : (plain q).step '"' = plain (q + 1) := by
  simp [step, h]

@[simp] theorem step_backslash (q : Nat) : (plain q).step '\\' = escaped := by simp [step]

/-- Only a quote makes a difference to the quotes before it. -/
theorem step_of_ne_quote {c : Char} (h : c ≠ '"') (q : Nat) :
    (plain q).step c = (plain 0).step c := by
  simp [step, h]

end Scan

open Scan

/-- Two quotes at most do not matter unless a third one follows or the text ends. -/
theorem run_after_quote {cs : List Char} (hne : cs ≠ [])
    (h : ∀ rest, cs = '"' :: '"' :: rest → False) :
    (plain 1).run cs = plain 0 ↔ (plain 0).run cs = plain 0 := by
  rcases cs with _ | ⟨c, rest⟩
  · exact absurd rfl hne
  · by_cases hc : c = '"'
    · subst hc
      rcases rest with _ | ⟨d, rest⟩
      · simp
      · have hd : d ≠ '"' := by
          rintro rfl
          exact h rest rfl
        simp [step_of_ne_quote hd 2, step_of_ne_quote hd 1]
    · rw [run_cons, run_cons, step_of_ne_quote hc]

theorem closes_iff {cs : List Char} : closes cs = true ↔ (plain 0).run cs = plain 0 := by
  fun_induction closes cs with
  | case1 => simp
  | case2 => simp
  | case3 c cs ih =>
    by_cases hc : c.toNat = 0
    · simp [step, hc]
    · simp [step, hc, ih]
  | case4 => simp
  | case5 tail => simp [step]
  | case6 c cs hone hpair hlast htriple ih =>
    have hslash : c ≠ '\\' := by
      rintro rfl
      cases cs with
      | nil => exact hone rfl rfl
      | cons d ds => exact hpair d ds rfl rfl
    by_cases hquote : c = '"'
    · subst hquote
      rw [run_cons, step_quote (by decide), run_after_quote (hlast rfl) (htriple · rfl), ← ih]
      simp
    · by_cases hc : c.toNat = 0
      · simp [step, hc]
      · simp [step, hc, hslash, hquote, ih]

/-! ## Text without quotes -/

/-- A character that is no quote, no backslash and no NUL. -/
def isClean (c : Char) : Bool := c != '"' && c != '\\' && c.toNat != 0

theorem step_of_isClean {c : Char} (h : isClean c = true) (q : Nat) :
    (plain q).step c = plain 0 := by
  simp only [isClean, Bool.and_eq_true, bne_iff_ne, ne_eq] at h
  simp [step, h.1.1, h.1.2, h.2]

theorem run_of_isClean {cs : List Char} (h : cs.all isClean = true) :
    (plain 0).run cs = plain 0 := by
  induction cs with
  | nil => rfl
  | cons c cs ih =>
    rw [List.all_cons, Bool.and_eq_true] at h
    rw [run_cons, step_of_isClean h.1, ih h.2]

/-! ## Escaped descriptions -/

theorem isClean_hex : ∀ n < 128, (Text.hex 2 n).all isClean = true := by decide

theorem run_escapeChar {c : Char} (h : c ≠ '"') (q : Nat) :
    (plain q).run (escapeChar c) = plain 0 := by
  unfold escapeChar
  split
  · simp [step]
  · rename_i hslash
    split
    · rename_i hcontrol
      have hlt : c.toNat < 128 := by
        simp only [isControl, Bool.or_eq_true, Bool.and_eq_true, decide_eq_true_eq] at hcontrol
        omega
      rw [run_cons, step_backslash, run_cons]
      exact run_of_isClean (isClean_hex _ hlt)
    · rename_i hcontrol
      have hc : c.toNat ≠ 0 := by
        intro hc
        have hn : c = Char.ofNat 0 := by rw [← hc, Char.ofNat_toNat]
        rw [hn] at hcontrol
        exact hcontrol (by decide)
      simp [step, h, hslash, hc]

/-- Quotes that come in threes are escaped, so at most two of them stand side by side. What is left
at the end are the quotes at the end of the description. -/
theorem run_escapeChars (cs : List Char) (q : Nat) (hq : q ≤ 2)
    (h : q = 0 ∨ ¬ List.replicate (3 - q) '"' <+: cs) :
    ∃ q', (plain q).run (escapeChars cs) = plain q' ∧
      (q' = 0 ∨ cs = [] ∧ q' = q ∨ cs.getLast? = some '"') := by
  fun_induction escapeChars cs generalizing q with
  | case1 => exact ⟨q, rfl, .inr (.inl ⟨rfl, rfl⟩)⟩
  | case2 cs ih =>
    have hstart : ((plain q).run ['\\', '"', '\\', '"', '\\', '"']) = plain 0 := by simp [step]
    obtain ⟨q', hrun, hlast⟩ := ih 0 (by decide) (.inl rfl)
    refine ⟨q', ?_, ?_⟩
    · rw [← hrun, ← hstart, ← run_append]
      rfl
    · rcases hlast with hzero | ⟨rfl, rfl⟩ | hlast
      · exact .inl hzero
      · exact .inl rfl
      · exact .inr (.inr (by simp [List.getLast?_cons, hlast]))
  | case3 c cs htriple ih =>
    by_cases hc : c = '"'
    · subst hc
      have hlt : q < 2 := by
        rcases h with rfl | h
        · decide
        · refine Nat.lt_of_le_of_ne hq ?_
          rintro rfl
          exact h ⟨cs, rfl⟩
      have hnext : q + 1 = 0 ∨ ¬ List.replicate (3 - (q + 1)) '"' <+: cs := by
        refine .inr ?_
        rintro ⟨rest, rfl⟩
        rcases h with rfl | h
        · exact htriple rest rfl rfl
        · refine h ⟨rest, ?_⟩
          rw [show 3 - q = (3 - (q + 1)) + 1 by omega, List.replicate_succ, List.cons_append]
      obtain ⟨q', hrun, hlast⟩ := ih (q + 1) hlt hnext
      refine ⟨q', ?_, ?_⟩
      · rw [← hrun, ← step_quote hlt]
        rfl
      · rcases hlast with hzero | ⟨rfl, -⟩ | hlast
        · exact .inl hzero
        · exact .inr (.inr rfl)
        · exact .inr (.inr (by simp [List.getLast?_cons, hlast]))
    · obtain ⟨q', hrun, hlast⟩ := ih 0 (by decide) (.inl rfl)
      refine ⟨q', by rw [run_append, run_escapeChar hc, hrun], ?_⟩
      rcases hlast with hzero | ⟨-, hzero⟩ | hlast
      · exact .inl hzero
      · exact .inl hzero
      · exact .inr (.inr (by simp [List.getLast?_cons, hlast]))

/-- Whatever the description, its escaped form can be followed by the closing quotes. -/
theorem run_escape (text : String) : (plain 0).run (escape text).toList = plain 0 := by
  obtain ⟨q, hrun, hlast⟩ := run_escapeChars text.toList 0 (by decide) (.inl rfl)
  simp only [escape, String.toList_ofList, run_append, hrun]
  split
  · rfl
  · rename_i hquote
    rcases hlast with rfl | ⟨-, rfl⟩ | hlast
    · rfl
    · rfl
    · exact absurd hlast hquote

/-! ## Indentation -/

theorem step_of_isBreak {c : Char} (h : isBreak c = true) (s : Scan) : s.step c = s.step '\n' := by
  simp only [isBreak, Bool.or_eq_true, decide_eq_true_eq] at h
  rcases h with ((rfl | rfl) | rfl) | rfl <;> cases s <;> rfl

/-- A line end takes the scan to a place where blanks change nothing. -/
theorem run_furtherLine (s : Scan) (line : List Char) :
    s.run (furtherLine line) = (s.step '\n').run line := by
  unfold furtherLine
  split
  · rename_i h
    rw [List.isEmpty_iff.1 h]
    rfl
  · cases s <;> rfl

theorem run_lines (cs : List Char) : ∃ first rest, lines cs = first :: rest ∧
    ∀ s : Scan, s.run (first ++ rest.flatMap furtherLine) = s.run cs := by
  induction cs with
  | nil => exact ⟨[], [], rfl, fun s => rfl⟩
  | cons c cs ih =>
    obtain ⟨first, rest, hlines, hrun⟩ := ih
    unfold lines at hlines ⊢
    by_cases hc : isBreak c = true
    · refine ⟨[], first :: rest, by simp [Text.splitWhere, hc, hlines], fun s => ?_⟩
      rw [List.nil_append, List.flatMap_cons, run_append, run_furtherLine, ← run_append, hrun,
        run_cons, step_of_isBreak hc]
    · refine ⟨c :: first, rest, by simp [Text.splitWhere, hc, hlines], fun s => ?_⟩
      rw [List.cons_append, run_cons, hrun, run_cons]

/-- Indentation does not change where the scan ends. -/
theorem run_indent (s : Scan) (text : String) : s.run (indent text).toList = s.run text.toList := by
  obtain ⟨first, rest, hlines, hrun⟩ := run_lines text.toList
  simp only [indent, hlines, String.toList_ofList]
  exact hrun s

end TypedQuery.Client.Docstring
