import TypedQuery.Proofs.Client.Docstring
import TypedQuery.Script.Token

/-!
# Descriptions survive as docstrings

A description is escaped, put between triple quotes and indented. What a reader of the module finds
in the docstring is the description again.

* `Script.literal?`: the literal that a text starts with, and what follows it.
* `Script.value?`: the text that a literal stands for, its escapes read.
* `Docstring.reindented`: a text with its further lines set to the right.
* `Docstring.literal_of_description`: escaped descriptions, as they are and indented.
-/

namespace TypedQuery

/-! ## What a literal stands for -/

namespace Script

/-- The character that a backslash and `c` stand for. -/
def plainEscape? (c : Char) : Option Char :=
  match c with
  | '\\' => some '\\'
  | '\'' => some '\''
  | '"' => some '"'
  | 'a' => some '\x07'
  | 'b' => some '\x08'
  | 'f' => some '\x0c'
  | 'n' => some '\n'
  | 'r' => some '\r'
  | 't' => some '\t'
  | 'v' => some '\x0b'
  | _ => none

/-- How many hexadecimal digits an escape with the letter `c` has. -/
def hexWidth? (c : Char) : Option Nat :=
  match c with
  | 'x' => some 2
  | 'u' => some 4
  | 'U' => some 8
  | _ => none

/-- Whether a character is an octal digit. -/
def isOctal (c : Char) : Bool := '0' ≤ c && c ≤ '7'

/-- The character with a code. Halves of surrogate pairs are none. -/
def charOf? (n : Nat) : Option Char := if n.isValidChar then some (Char.ofNat n) else none

/-- What a backslash, `c` and `cs` stand for together: the characters of the escape, and how much of
`cs` belongs to it. A backslash at the end of a line takes the line end away, and one that starts
no escape stands for itself. Escapes by name are left out. -/
def escape? (c : Char) (cs : List Char) : Option (List Char × Nat) :=
  match plainEscape? c, hexWidth? c with
  | some d, _ => some ([d], 0)
  | none, some width => do
    let d ← charOf? (← hexCode? width cs)
    return ([d], width)
  | none, none =>
    if c = '\n' then some ([], 0)
    else if isOctal c then do
      let more := (cs.take 2).takeWhile isOctal
      let d ← charOf? ((c :: more).foldl (fun n c => 8 * n + (c.toNat - '0'.toNat)) 0)
      return ([d], more.length)
    else if c = 'N' then none
    else some (['\\', c], 0)

/-- The text that the characters of a literal stand for. -/
def value? : List Char → Option (List Char)
  | [] => some []
  | '\\' :: c :: cs => do
    let (text, size) ← escape? c cs
    return text ++ (← value? (cs.drop size))
  | c :: cs => (value? cs).map (c :: ·)
termination_by cs => cs.length
decreasing_by all_goals simp [List.length_drop]; try omega

/-- Reads the literal that a text starts with: the characters between its quotes, and what follows
it. Line ends are made alike first. -/
def literal? (cs : List Char) : Option (List Char × List Char) :=
  match Text.unifyLines cs with
  | '"' :: rest => quoted? '"' rest
  | _ => none

theorem value?_nil : value? [] = some [] := by rw [value?]

theorem value?_cons {c : Char} (h : c ≠ '\\') (cs : List Char) :
    value? (c :: cs) = (value? cs).map (c :: ·) := by
  rw [value?]
  rintro d ds rfl
  exact absurd rfl h

theorem value?_escape {c : Char} {cs text : List Char} {size : Nat}
    (h : escape? c cs = some (text, size)) :
    value? ('\\' :: c :: cs) = (value? (cs.drop size)).map (text ++ ·) := by
  rw [value?, h]
  show ((value? (cs.drop size)).bind fun v => some (text ++ v)) = _
  cases value? (cs.drop size) <;> rfl

theorem value?_plainEscape {c d : Char} (h : plainEscape? c = some d) (cs : List Char) :
    value? ('\\' :: c :: cs) = (value? cs).map (d :: ·) := by
  have hescape : escape? c cs = some ([d], 0) := by simp only [escape?, h]
  exact value?_escape hescape

/-- A text that closes is read as a literal, up to its closing quotes. -/
theorem long?_of_closes {cs : List Char} (h : Client.Docstring.closes cs = true)
    (rest : List Char) : long? '"' (cs ++ '"' :: '"' :: '"' :: rest) = some (cs, rest) := by
  fun_induction Client.Docstring.closes cs with
  | case1 => rfl
  | case2 => cases h
  | case3 c cs ih =>
    rw [Bool.and_eq_true] at h
    rw [List.cons_append, List.cons_append, long?, ih h.2]
    rfl
  | case4 => cases h
  | case5 => cases h
  | case6 c cs hone hpair hlast htriple ih =>
    rw [Bool.and_eq_true] at h
    have hslash : c ≠ '\\' := by
      rintro rfl
      cases cs with
      | nil => exact hone rfl rfl
      | cons d ds => exact hpair d ds rfl rfl
    -- Three quotes cannot start here: the text would have them, or end with one of them.
    have hopen : ['"', '"', '"'].isPrefixOf (c :: (cs ++ '"' :: '"' :: '"' :: rest)) = false := by
      rw [Bool.eq_false_iff, ne_eq, List.isPrefixOf_iff_prefix]
      rintro ⟨t, ht⟩
      simp only [List.cons_append, List.nil_append, List.cons.injEq] at ht
      obtain ⟨rfl, ht⟩ := ht
      rcases cs with _ | ⟨d, _ | ⟨e, ds⟩⟩
      · exact hlast rfl rfl
      · cases ht
        cases h.2
      · cases ht
        exact htriple ds rfl rfl
    rw [List.cons_append, long?, hopen, ih h.2]
    · rfl
    · rintro d ds rfl
      exact absurd rfl hslash

theorem unifyLines_append {cs : List Char} (h : '\r' ∉ cs) (rest : List Char) :
    Text.unifyLines (cs ++ rest) = cs ++ Text.unifyLines rest := by
  induction cs with
  | nil => rfl
  | cons c cs ih =>
    rw [List.mem_cons, not_or] at h
    rw [List.cons_append, Text.unifyLines, ih h.2]
    · rfl
    · rintro ds hc
      exact absurd hc.symm h.1
    · rintro hc
      exact absurd hc.symm h.1

/-- What stands at both ends of a literal of several lines. -/
def quotes : List Char := ['"', '"', '"']

/-- A text that closes and has no carriage return is read between triple quotes as it is. -/
theorem literal?_of_closes {cs : List Char} (h : Client.Docstring.closes cs = true)
    (hr : '\r' ∉ cs) (rest : List Char) :
    literal? (quotes ++ cs ++ quotes ++ rest) = some (cs, Text.unifyLines rest) := by
  have hclean : '\r' ∉ quotes ++ cs ++ quotes := by simp [quotes, hr]
  unfold literal?
  rw [unifyLines_append hclean]
  simp only [quotes, List.cons_append, List.nil_append, List.append_assoc]
  exact long?_of_closes h _

end Script

/-! ## Escaped descriptions -/

namespace Client.Docstring

open TypedQuery.Script

/-- What is read back of a description: itself, with a blank behind it if it ends with a quote. -/
def described (d : String) : List Char :=
  d.toList ++ if d.toList.getLast? = some '"' then [' '] else []

theorem hexCode?_hex : ∀ n < 128, hexCode? 2 (Text.hex 2 n) = some n := by decide

theorem length_hex : ∀ n < 128, (Text.hex 2 n).length = 2 := by decide

theorem lt_of_isControl {c : Char} (h : isControl c = true) : c.toNat < 128 := by
  simp only [isControl, Bool.or_eq_true, Bool.and_eq_true, decide_eq_true_eq] at h
  omega

/-- The escape of a control character is read as that character. -/
theorem escape?_hex {c : Char} (h : isControl c = true) (cs : List Char) :
    escape? 'x' (Text.hex 2 c.toNat ++ cs) = some ([c], 2) := by
  have hlt := lt_of_isControl h
  have hcode : hexCode? 2 (Text.hex 2 c.toNat ++ cs) = some c.toNat := by
    rw [← hexCode?_hex _ hlt]
    simp only [hexCode?, List.take_append, length_hex _ hlt, Nat.sub_self, List.take_zero,
      List.append_nil]
  have hchar : charOf? c.toNat = some c := by
    rw [charOf?, if_pos (show c.toNat.isValidChar from c.valid), Char.ofNat_toNat]
  have hplain : plainEscape? 'x' = none := rfl
  have hwidth : hexWidth? 'x' = some 2 := rfl
  simp only [escape?, hplain, hwidth, hcode, hchar, Option.bind_eq_bind, Option.bind_some]
  rfl

theorem value?_escapeChar (c : Char) (cs : List Char) :
    value? (escapeChar c ++ cs) = (value? cs).map (c :: ·) := by
  unfold escapeChar
  split
  · rename_i hc
    subst hc
    exact value?_plainEscape rfl cs
  · rename_i hc
    split
    · rename_i hcontrol
      have hdrop : (Text.hex 2 c.toNat ++ cs).drop 2 = cs :=
        List.drop_left' (length_hex _ (lt_of_isControl hcontrol))
      rw [List.cons_append, List.cons_append, value?_escape (escape?_hex hcontrol cs), hdrop]
      rfl
    · exact value?_cons hc cs

/-- An escaped description is read back, whatever follows it. -/
theorem value?_escapeChars (cs rest : List Char) :
    value? (escapeChars cs ++ rest) = (value? rest).map (cs ++ ·) := by
  fun_induction escapeChars cs with
  | case1 => simp
  | case2 cs ih =>
    have hquote : ∀ ds, value? ('\\' :: '"' :: ds) = (value? ds).map ('"' :: ·) := fun ds =>
      value?_plainEscape rfl ds
    simp only [List.cons_append, hquote, ih, Option.map_map]
    rfl
  | case3 c cs _ ih =>
    rw [List.append_assoc, value?_escapeChar, ih, Option.map_map]
    rfl

theorem value?_escape_text (d : String) : value? (escape d).toList = some (described d) := by
  unfold escape described
  rw [String.toList_ofList, value?_escapeChars]
  split
  · rw [value?_cons (by decide), value?_nil]
    rfl
  · rw [value?_nil]
    rfl

theorem isControl_escapeChar {c d : Char} (h : d ∈ escapeChar c) : isControl d = false := by
  have hhex : ∀ n < 128, (Text.hex 2 n).all (fun d => !isControl d) = true := by decide
  unfold escapeChar at h
  split at h
  · simp only [List.mem_cons, List.not_mem_nil, or_false, or_self] at h
    subst h
    rfl
  · split at h
    · rename_i hcontrol
      rcases List.mem_cons.1 h with rfl | h
      · rfl
      · rcases List.mem_cons.1 h with rfl | h
        · rfl
        · simpa using List.all_eq_true.1 (hhex _ (lt_of_isControl hcontrol)) d h
    · rename_i hcontrol
      rw [List.mem_singleton.1 h]
      simpa using hcontrol

theorem isControl_escapeChars {cs : List Char} {d : Char} (h : d ∈ escapeChars cs) :
    isControl d = false := by
  fun_induction escapeChars cs with
  | case1 => cases h
  | case2 cs ih =>
    simp only [List.mem_cons] at h
    rcases h with rfl | rfl | rfl | rfl | rfl | rfl | h
    case inr.inr.inr.inr.inr.inr => exact ih h
    all_goals rfl
  | case3 c cs _ ih =>
    rcases List.mem_append.1 h with h | h
    · exact isControl_escapeChar h
    · exact ih h

/-- No control character is left in an escaped description, line feeds and tabs apart. -/
theorem isControl_escape {d : String} {c : Char} (h : c ∈ (escape d).toList) :
    isControl c = false := by
  unfold escape at h
  rw [String.toList_ofList, List.mem_append] at h
  rcases h with h | h
  · exact isControl_escapeChars h
  · split at h
    · rw [List.mem_singleton.1 h]
      rfl
    · cases h

/-! ## Indented descriptions -/

/-- A text with its lines ended by line feeds and all but the first set four columns to the right,
empty ones apart. -/
def reindented (v : List Char) : List Char :=
  match v.splitOnP isBreak with
  | [] => []
  | first :: rest =>
    ['\n'].intercalate (first :: rest.map fun l => if l = [] then [] else "    ".toList ++ l)

/-- The blanks before a line that starts with `cs`. -/
def margin : List Char → List Char
  | [] => []
  | c :: _ => if isBreak c then [] else [' ', ' ', ' ', ' ']

/-- Indentation one character after the other. -/
def indentChars : List Char → List Char
  | [] => []
  | c :: cs => if isBreak c then '\n' :: (margin cs ++ indentChars cs) else c :: indentChars cs

theorem furtherLine_lines (cs : List Char) : ∃ first rest, lines cs = first :: rest ∧
    furtherLine first = '\n' :: (margin cs ++ first) ∧
    first ++ rest.flatMap furtherLine = indentChars cs := by
  induction cs with
  | nil => exact ⟨[], [], rfl, rfl, rfl⟩
  | cons c cs ih =>
    obtain ⟨first, rest, hlines, hfirst, hrest⟩ := ih
    unfold lines at hlines ⊢
    by_cases hc : isBreak c = true
    · refine ⟨[], first :: rest, by simp [Text.splitWhere, hc, hlines], ?_, ?_⟩
      · simp [furtherLine, margin, hc]
      · simp only [List.nil_append, List.flatMap_cons, hfirst, indentChars, hc, if_true, ← hrest,
          List.cons_append, List.append_assoc]
    · refine ⟨c :: first, rest, by simp [Text.splitWhere, hc, hlines], ?_, ?_⟩
      · simp [furtherLine, margin, hc]
      · simp only [List.cons_append, hrest, indentChars, hc]
        rfl

theorem toList_indent (text : String) : (indent text).toList = indentChars text.toList := by
  obtain ⟨first, rest, hlines, -, hrest⟩ := furtherLine_lines text.toList
  simp only [indent, hlines, String.toList_ofList, hrest]

theorem lines_eq_splitOnP (cs : List Char) : lines cs = cs.splitOnP isBreak := by
  unfold lines
  induction cs with
  | nil => rfl
  | cons c cs ih =>
    rw [List.splitOnP_cons_eq_if_modifyHead, Text.splitWhere, ih]
    split
    · rfl
    · cases hparts : cs.splitOnP isBreak with
      | nil => exact absurd hparts (List.splitOnP_ne_nil _ _)
      | cons part parts => rfl

theorem intercalate_furtherLine (first : List Char) (rest : List (List Char)) :
    ['\n'].intercalate (first :: rest.map fun l => if l = [] then [] else "    ".toList ++ l) =
      first ++ rest.flatMap furtherLine := by
  induction rest generalizing first with
  | nil => simp
  | cons line rest ih =>
    have hline : furtherLine line = '\n' :: (if line = [] then [] else "    ".toList ++ line) := by
      cases line <;> rfl
    rw [List.map_cons, List.intercalate_cons_cons, ih, List.flatMap_cons, hline]
    simp only [List.append_assoc, List.cons_append, List.nil_append]

theorem reindented_eq (v : List Char) : reindented v = indentChars v := by
  obtain ⟨first, rest, hlines, -, hrest⟩ := furtherLine_lines v
  rw [lines_eq_splitOnP] at hlines
  simp only [reindented, hlines, intercalate_furtherLine, hrest]

theorem indentChars_append {cs : List Char} (h : ∀ c ∈ cs, isBreak c = false) (rest : List Char) :
    indentChars (cs ++ rest) = cs ++ indentChars rest := by
  induction cs with
  | nil => rfl
  | cons c cs ih =>
    obtain ⟨hc, hcs⟩ := List.forall_mem_cons.1 h
    simp only [List.cons_append, indentChars, hc, ih hcs]
    rfl

/-- A character that ends a line is not escaped. -/
theorem escapeChar_of_isBreak {c : Char} (h : isBreak c = true) : escapeChar c = [c] := by
  simp only [isBreak, Bool.or_eq_true, decide_eq_true_eq] at h
  rcases h with ((rfl | rfl) | rfl) | rfl <;> decide

/-- An escape has no character that ends a line. -/
theorem isBreak_escapeChar {c : Char} (h : isBreak c = false) :
    ∀ d ∈ escapeChar c, isBreak d = false := by
  have hhex : ∀ n < 128, (Text.hex 2 n).all (fun d => !isBreak d) = true := by decide
  intro d hd
  unfold escapeChar at hd
  split at hd
  · simp only [List.mem_cons, List.not_mem_nil, or_false, or_self] at hd
    subst hd
    decide
  · split at hd
    · rename_i hcontrol
      rcases List.mem_cons.1 hd with rfl | hd
      · decide
      · rcases List.mem_cons.1 hd with rfl | hd
        · decide
        · simpa using List.all_eq_true.1 (hhex _ (lt_of_isControl hcontrol)) d hd
    · rw [List.mem_singleton.1 hd]
      exact h

/-- Lines are indented before they are escaped or after, with the same blanks. -/
theorem margin_escapeChars (cs rest : List Char) :
    margin (escapeChars cs ++ rest) = margin (cs ++ rest) := by
  fun_cases escapeChars cs with
  | case1 => rfl
  | case2 cs => rfl
  | case3 c cs _ =>
    by_cases hc : isBreak c = true
    · rw [escapeChar_of_isBreak hc]
      rfl
    · have hbreak := isBreak_escapeChar (Bool.eq_false_iff.2 hc)
      cases hescape : escapeChar c with
      | nil =>
        unfold escapeChar at hescape
        split at hescape
        · cases hescape
        · split at hescape <;> cases hescape
      | cons d ds =>
        rw [hescape] at hbreak
        simp [margin, hbreak d (by simp), hc]

theorem value?_margin (cs rest : List Char) :
    value? (margin cs ++ rest) = (value? rest).map (margin cs ++ ·) := by
  have hblank : ∀ ds, value? (' ' :: ds) = (value? ds).map (' ' :: ·) := value?_cons (by decide)
  rcases cs with _ | ⟨c, cs⟩
  · simp [margin]
  · by_cases hc : isBreak c = true
    · simp [margin, hc]
    · have hmargin : margin (c :: cs) = [' ', ' ', ' ', ' '] := if_neg hc
      simp only [hmargin, List.cons_append, List.nil_append, hblank, Option.map_map]
      rfl

/-- The lines of a description are read back from its escaped and indented form. -/
theorem value?_indentChars (cs : List Char) {rest : List Char}
    (h : value? (indentChars rest) = some (indentChars rest)) :
    value? (indentChars (escapeChars cs ++ rest)) = some (indentChars (cs ++ rest)) := by
  fun_induction escapeChars cs with
  | case1 => exact h
  | case2 cs ih =>
    have hquote : ∀ ds, value? ('\\' :: '"' :: ds) = (value? ds).map ('"' :: ·) := fun ds =>
      value?_plainEscape rfl ds
    have hpass : ∀ ds, indentChars ('\\' :: '"' :: ds) = '\\' :: '"' :: indentChars ds :=
      fun _ => rfl
    simp only [List.cons_append, hpass, hquote, ih, Option.map_some]
    rfl
  | case3 c cs _ ih =>
    rw [List.append_assoc]
    by_cases hc : isBreak c = true
    · have hfeed : ∀ ds, value? ('\n' :: ds) = (value? ds).map ('\n' :: ·) :=
        value?_cons (by decide)
      rw [escapeChar_of_isBreak hc]
      simp only [List.cons_append, List.nil_append, indentChars, hc, if_true, hfeed,
        margin_escapeChars, value?_margin, ih, Option.map_some]
    · rw [indentChars_append (isBreak_escapeChar (Bool.eq_false_iff.2 hc)), value?_escapeChar, ih]
      simp only [List.cons_append, indentChars, hc, Option.map_some]
      rfl

theorem value?_indent_escape (d : String) :
    value? (indent (escape d)).toList = some (reindented (described d)) := by
  rw [toList_indent, reindented_eq, escape, described, String.toList_ofList]
  refine value?_indentChars _ ?_
  split
  · rw [show indentChars [' '] = [' '] from rfl, value?_cons (by decide), value?_nil]
    rfl
  · exact value?_nil

/-! ## Docstrings -/

theorem closes_indent_escape (d : String) : closes (indent (escape d)).toList = true := by
  rw [closes_iff, run_indent, run_escape]

theorem return_not_mem_escape (d : String) : '\r' ∉ (escape d).toList := fun h => by
  have hcontrol := isControl_escape h
  cases hcontrol

theorem return_not_mem_indentChars {cs : List Char} (h : '\r' ∉ cs) : '\r' ∉ indentChars cs := by
  induction cs with
  | nil => exact h
  | cons c cs ih =>
    rw [List.mem_cons, not_or] at h
    unfold indentChars
    split
    · have hmargin : '\r' ∉ margin cs := by
        rcases cs with _ | ⟨d, ds⟩
        · simp [margin]
        · by_cases hd : isBreak d = true <;> simp [margin, hd]
      simp [hmargin, ih h.2]
    · simp [h.1, ih h.2]

/-- **Descriptions survive.** Whatever the description, its escaped form has no control character
but line feeds and tabs. Between triple quotes it is one literal, which ends at the last of them
whatever follows, and which stands for the description, with a blank behind it if it ends with a
quote. Indented, it is one literal again, and stands for the same text with its further lines set to
the right. -/
theorem literal_of_description (d : String) (rest : List Char) :
    (∀ c ∈ (escape d).toList, c.toNat < 0x20 ∨ c.toNat = 0x7f → c = '\n' ∨ c = '\t') ∧
    literal? (quotes ++ (escape d).toList ++ quotes ++ rest) =
      some ((escape d).toList, Text.unifyLines rest) ∧
    value? (escape d).toList = some (described d) ∧
    literal? (quotes ++ (indent (escape d)).toList ++ quotes ++ rest) =
      some ((indent (escape d)).toList, Text.unifyLines rest) ∧
    value? (indent (escape d)).toList = some (reindented (described d)) := by
  refine ⟨fun c hc hcontrol => ?_, ?_, value?_escape_text d, ?_, value?_indent_escape d⟩
  · have hnot := isControl_escape hc
    simp only [isControl, Bool.or_eq_false_iff, Bool.and_eq_false_iff, decide_eq_false_iff_not,
      bne_eq_false_iff_eq] at hnot
    rcases hcontrol with hlow | hdelete
    · rcases hnot.1 with (hlow' | hfeed) | htab
      · exact absurd hlow hlow'
      · exact .inl hfeed
      · exact .inr htab
    · exact absurd hdelete hnot.2
  · exact literal?_of_closes (closes_iff.2 (run_escape d)) (return_not_mem_escape d) rest
  · refine literal?_of_closes (closes_indent_escape d) ?_ rest
    rw [toList_indent]
    exact return_not_mem_indentChars (return_not_mem_escape d)

end Client.Docstring

end TypedQuery
