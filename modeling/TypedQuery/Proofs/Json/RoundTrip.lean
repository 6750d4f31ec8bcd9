import TypedQuery.Json.Compact
import TypedQuery.Json.Reader
import TypedQuery.Proofs.Table

/-!
# Texts that are written and read again

What `Json.compact?` writes for an object whose members are texts, `Json.parse` reads as that
object.

* `readString_escapeChar`, `readString_escaped`: one character inside a string, and a whole string.
* `nameOfPoints_inj`: names of members are told apart, with surrogates in them or without.
* `readMembers_texts`: the members of an object.
* `exists_compact?_texts`: the object.
-/

namespace TypedQuery.Json

/-! ## Strings -/

/-- The four digits of an escape are read as the number that they stand for. -/
theorem hex4?_hex {n : Nat} (h : n < 0x20) {rest : List Char} (hrest : rest ≠ []) :
    hex4? (Text.hex 4 n ++ rest) = some n := by
  have hdigits : ∀ n < 0x20,
      Text.hex 4 n = ['0', '0', Nat.digitChar (n / 16), Nat.digitChar (n % 16)] := by decide
  have hdigit : ∀ d < 16, Text.hexDigit? (Nat.digitChar d) = some d := by decide
  obtain ⟨c, rest, rfl⟩ := List.exists_cons_of_ne_nil hrest
  have hzero : Text.hexDigit? '0' = some 0 := by decide
  rw [hdigits n h]
  simp only [List.cons_append, List.nil_append, hex4?, hzero, hdigit _ (Nat.mod_lt n (by decide)),
    hdigit (n / 16) (by omega), Option.pure_def, Option.bind_eq_bind, Option.bind_some]
  congr 1
  omega

theorem length_hex_four {n : Nat} (h : n < 0x20) : (Text.hex 4 n).length = 4 := by
  have hlength : ∀ n < 0x20, (Text.hex 4 n).length = 4 := by decide
  exact hlength n h

/-- A character is read as it was written. -/
theorem readString_escapeChar (start offset : Nat) (points : List Nat) (c : Char) {rest : List Char}
    (hrest : rest ≠ []) :
    readString start points offset (escapeChar c ++ rest) =
      readString start (c.toNat :: points) (offset + (escapeChar c).length) rest := by
  unfold escapeChar
  split
  case h_8 hquote hslash _ _ _ _ _ =>
    split
    case isTrue hcontrol =>
      rw [readString.eq_def]
      have hdrop : (Text.hex 4 c.toNat ++ rest).drop 4 = rest :=
        List.drop_left' (length_hex_four hcontrol)
      have hsmall : ¬(0xD800 ≤ c.toNat ∧ c.toNat ≤ 0xDBFF) := by omega
      simp [hex4?_hex hcontrol hrest, hdrop, hsmall, length_hex_four hcontrol]
    case isFalse hcontrol =>
      have hquote : (c == '"') = false := beq_false_of_ne hquote
      have hslash : (c != '\\') = true := bne_iff_ne.2 hslash
      rw [readString.eq_def]
      simp [hquote, hslash, hcontrol]
  all_goals
    rw [readString.eq_def]
    simp [escaped?]

/-- A text is read up to its closing quote. -/
theorem readString_escaped (start offset : Nat) (points : List Nat) (cs rest : List Char) :
    ∃ stop, readString start points offset (cs.flatMap escapeChar ++ '"' :: rest) =
      .ok (points.reverse ++ cs.map Char.toNat, ⟨stop, rest⟩) := by
  induction cs generalizing offset points with
  | nil =>
    refine ⟨offset + 1, ?_⟩
    rw [List.flatMap_nil, List.nil_append, readString.eq_def]
    simp
  | cons c cs ih =>
    obtain ⟨stop, hstop⟩ := ih (offset + (escapeChar c).length) (c.toNat :: points)
    refine ⟨stop, ?_⟩
    rw [List.flatMap_cons, List.append_assoc, readString_escapeChar _ _ _ _ (by simp), hstop]
    simp

theorem isValidChar_toNat (c : Char) : c.toNat.isValidChar := c.valid

theorem ofPoints_toNat (s : String) : ofPoints (s.toList.map Char.toNat) = .str s := by
  have hvalid : (s.toList.map Char.toNat).all (fun n => n.isValidChar) = true := by
    simp [List.all_map, isValidChar_toNat]
  rw [ofPoints, if_pos hvalid]
  simp [List.map_map, Function.comp_def]

theorem nameOfPoints_toNat (s : String) : nameOfPoints (s.toList.map Char.toNat) = s := by
  simp [nameOfPoints, nameChar, List.map_map, Function.comp_def, isValidChar_toNat]

theorem toNat_ofNat {n : Nat} (h : n.isValidChar) : (Char.ofNat n).toNat = n := by
  rw [Char.ofNat, dif_pos h]
  rfl

theorem nameChar_inj {m n : Nat} (hm : m < surrogateNames) (hn : n < surrogateNames)
    (h : nameChar m = nameChar n) : m = n := by
  have hvalue (k : Nat) (hk : k < 0x10F800) : (nameChar k).toNat =
      if k.isValidChar then k else 0x10F800 + (k - 0xD800) := by
    rw [nameChar]
    split
    · rename_i hvalid
      exact toNat_ofNat hvalid
    · rename_i hnot
      simp only [Nat.isValidChar] at hnot
      exact toNat_ofNat (.inr (by rw [surrogateNames]; omega))
  have heq := congrArg Char.toNat h
  rw [hvalue m hm, hvalue n hn] at heq
  simp only [Nat.isValidChar, surrogateNames] at heq hm hn
  split at heq <;> split at heq <;> omega

/-- Names are told apart by their code points, surrogates included. -/
theorem nameOfPoints_inj {p q : List Nat} (hp : ∀ n ∈ p, n < surrogateNames)
    (hq : ∀ n ∈ q, n < surrogateNames) (h : nameOfPoints p = nameOfPoints q) : p = q := by
  have hchars : p.map nameChar = q.map nameChar := String.ofList_inj.1 h
  induction p generalizing q with
  | nil => exact (List.map_eq_nil_iff.1 hchars.symm).symm
  | cons m p ih =>
    cases q with
    | nil => cases hchars
    | cons n q =>
      obtain ⟨hm, hp⟩ := List.forall_mem_cons.1 hp
      obtain ⟨hn, hq⟩ := List.forall_mem_cons.1 hq
      obtain ⟨hhead, htail⟩ := List.cons.inj hchars
      rw [nameChar_inj hm hn hhead, ih hp hq (congrArg String.ofList htail) htail]

/-- A text as a value, with whatever follows. -/
theorem readValue_text (depth offset : Nat) (s : String) (rest : List Char) :
    ∃ stop, readValue (depth + 1) ⟨offset, (compactString s).toList ++ rest⟩ =
      .ok (.str s, ⟨stop, rest⟩) := by
  obtain ⟨stop, hstop⟩ := readString_escaped offset (offset + 1) [] s.toList rest
  refine ⟨stop, ?_⟩
  simp only [compactString, String.toList_ofList, List.cons_append, List.append_assoc,
    List.nil_append, readValue, hstop, List.reverse_nil, ofPoints_toNat]

/-! ## Objects -/

/-- Texts as the members of an object. -/
def texts (members : List (String × String)) : Table Json := members.map fun (k, v) => (k, .str v)

/-- A member of an object as it is written. -/
def memberText (m : String × String) : String := compactString m.1 ++ ":" ++ compactString m.2

theorem skip_of_not_isBlank {offset : Nat} {c : Char} {rest : List Char}
    (h : Cursor.isBlank c = false) : (Cursor.mk offset (c :: rest)).skip = ⟨offset, c :: rest⟩ := by
  simp [Cursor.skip, Cursor.advance, h]

theorem compactMembers?_texts (members : List (String × String)) :
    compactMembers? (texts members) = some (members.map memberText) := by
  induction members with
  | nil => rfl
  | cons m members ih =>
    rw [texts, List.map_cons, compactMembers?]
    rw [texts] at ih
    simp [compact?, ih, memberText]

/-- One member is read. The brace behind it ends the object, and a comma does not. -/
theorem readMembers_member (depth offset : Nat) (before : Table Json) (m : String × String)
    {c : Char} (hc : c = '\x7d' ∨ c = ',') (rest : List Char) :
    ∃ stop, readMembers (depth + 2) before ⟨offset, (memberText m).toList ++ c :: rest⟩ =
      if c = '\x7d' then .ok (.object (before.put m.1 (.str m.2)), ⟨stop, rest⟩)
      else readMembers (depth + 1) (before.put m.1 (.str m.2)) (Cursor.mk stop rest).skip := by
  obtain ⟨colon, hcolon⟩ := readString_escaped offset (offset + 1) [] m.1.toList
    (':' :: ((compactString m.2).toList ++ c :: rest))
  obtain ⟨stop, hstop⟩ := readValue_text depth (colon + 1) m.2 (c :: rest)
  have hquote : (Cursor.mk (colon + 1) ((compactString m.2).toList ++ c :: rest)).skip =
      ⟨colon + 1, (compactString m.2).toList ++ c :: rest⟩ := by
    simp only [compactString, String.toList_ofList, List.cons_append]
    exact skip_of_not_isBlank (by decide)
  have hmember : (memberText m).toList ++ c :: rest = '"' :: (m.1.toList.flatMap escapeChar ++
      '"' :: ':' :: ((compactString m.2).toList ++ c :: rest)) := by
    simp [memberText, compactString]
  have hskip : (Cursor.mk colon (':' :: ((compactString m.2).toList ++ c :: rest))).skip = _ :=
    skip_of_not_isBlank (by decide)
  have hend : (Cursor.mk stop (c :: rest)).skip = ⟨stop, c :: rest⟩ := by
    rcases hc with rfl | rfl <;> exact skip_of_not_isBlank (by decide)
  refine ⟨stop + 1, ?_⟩
  rw [hmember, readMembers]
  simp only [hcolon, hskip, Cursor.startsWith, Cursor.advance, List.drop_succ_cons, List.drop_zero,
    hquote, hstop, hend, List.reverse_nil, List.nil_append, nameOfPoints_toNat]
  rw [if_neg (by simp)]
  rcases hc with rfl | rfl
  · rw [if_pos rfl]
    rfl
  · rw [if_neg (by decide)]
    rfl

/-- Members of an object as they are written. -/
def memberChars (members : List (String × String)) : List Char :=
  (",".intercalate (members.map memberText)).toList

theorem memberChars_singleton (m : String × String) : memberChars [m] = (memberText m).toList := by
  simp [memberChars]

theorem memberChars_cons_cons (m n : String × String) (members : List (String × String)) :
    memberChars (m :: n :: members) =
      (memberText m).toList ++ ',' :: memberChars (n :: members) := by
  simp [memberChars, List.intercalate]

/-- Members start with the quote of a name. -/
theorem memberChars_eq_quote (m : String × String) (members : List (String × String)) :
    ∃ cs, memberChars (m :: members) = '"' :: cs := by
  cases members with
  | nil =>
    rw [memberChars_singleton]
    exact ⟨_, by simp [memberText, compactString]; rfl⟩
  | cons n members =>
    rw [memberChars_cons_cons]
    exact ⟨_, by simp [memberText, compactString]; rfl⟩

theorem skip_memberChars (offset : Nat) (m : String × String) (members : List (String × String))
    (rest : List Char) : (Cursor.mk offset (memberChars (m :: members) ++ rest)).skip =
      ⟨offset, memberChars (m :: members) ++ rest⟩ := by
  obtain ⟨cs, hcs⟩ := memberChars_eq_quote m members
  rw [hcs]
  exact skip_of_not_isBlank (by decide)

theorem length_lt_memberChars (m : String × String) (members : List (String × String)) :
    members.length < (memberChars (m :: members)).length := by
  induction members generalizing m with
  | nil =>
    obtain ⟨cs, hcs⟩ := memberChars_eq_quote m []
    rw [hcs]
    simp
  | cons n members ih =>
    have := ih n
    rw [memberChars_cons_cons]
    simp only [List.length_append, List.length_cons]
    omega

/-- The members of an object are read one after the other. -/
theorem readMembers_texts {depth : Nat} (before : Table Json) (offset : Nat)
    (m : String × String) (members : List (String × String)) (hdepth : members.length + 1 < depth)
    (rest : List Char) :
    ∃ stop, readMembers depth before ⟨offset, memberChars (m :: members) ++ '\x7d' :: rest⟩ =
      .ok (.object (before.putAll (texts (m :: members))), ⟨stop, rest⟩) := by
  induction members generalizing depth before offset m with
  | nil =>
    obtain ⟨depth, rfl⟩ : ∃ d, depth = d + 2 := ⟨depth - 2, by simp at hdepth; omega⟩
    obtain ⟨stop, hstop⟩ := readMembers_member depth offset before m (.inl rfl) rest
    refine ⟨stop, ?_⟩
    rw [if_pos rfl] at hstop
    rw [memberChars_singleton, hstop]
    rfl
  | cons n members ih =>
    obtain ⟨depth, rfl⟩ : ∃ d, depth = d + 2 := ⟨depth - 2, by simp at hdepth; omega⟩
    obtain ⟨next, hnext⟩ := readMembers_member depth offset before m (.inr rfl)
      (memberChars (n :: members) ++ '\x7d' :: rest)
    rw [if_neg (by decide)] at hnext
    have hless : members.length + 1 < depth + 1 := by
      simp only [List.length_cons] at hdepth
      omega
    obtain ⟨stop, hstop⟩ := ih (before.put m.1 (.str m.2)) next n hless
    refine ⟨stop, ?_⟩
    rw [memberChars_cons_cons, List.append_assoc, List.cons_append, hnext, skip_memberChars, hstop]
    rfl

theorem readValue_texts {depth : Nat} {m : String × String} {members : List (String × String)}
    (hnodup : ((m :: members).map Prod.fst).Nodup) (hdepth : members.length + 1 < depth)
    (rest : List Char) :
    ∃ stop, readValue (depth + 1) ⟨0, '\x7b' :: (memberChars (m :: members) ++ '\x7d' :: rest)⟩ =
      .ok (.object (texts (m :: members)), ⟨stop, rest⟩) := by
  obtain ⟨stop, hstop⟩ := readMembers_texts [] 1 m members hdepth rest
  have htable : Table.putAll [] (texts (m :: members)) = texts (m :: members) := by
    refine Table.ofList_of_nodup ?_
    rw [texts, List.map_map]
    exact hnodup
  refine ⟨stop, ?_⟩
  rw [readValue]
  simp only [Cursor.advance, List.drop_succ_cons, List.drop_zero, Nat.zero_add, skip_memberChars]
  obtain ⟨cs, hcs⟩ := memberChars_eq_quote m members
  rw [if_neg (by rw [hcs]; simp [Cursor.startsWith]), hstop, htable]

/-- An object of texts can be written, and what is written is read as that object. -/
theorem exists_compact?_texts {members : List (String × String)}
    (hnodup : (members.map Prod.fst).Nodup) :
    ∃ text, compact? (.object (texts members)) = some text ∧
      parse text = .ok (.object (texts members)) := by
  refine ⟨"\x7b" ++ ",".intercalate (members.map memberText) ++ "\x7d", ?_, ?_⟩
  · rw [compact?, compactMembers?_texts]
    rfl
  · cases members with
    | nil => rfl
    | cons m members =>
      have hchars : ("\x7b" ++ ",".intercalate ((m :: members).map memberText) ++ "\x7d").toList =
          '\x7b' :: (memberChars (m :: members) ++ ['\x7d']) := by
        simp [memberChars]
      have hdepth : members.length + 1 <
          2 * ('\x7b' :: (memberChars (m :: members) ++ ['\x7d'])).length := by
        have := length_lt_memberChars m members
        simp only [List.length_cons, List.length_append, List.length_nil]
        omega
      obtain ⟨stop, hstop⟩ := readValue_texts hnodup hdepth []
      rw [parse, hchars, if_neg (by simp), parseChars, skip_of_not_isBlank (by decide), hstop]
      rfl

end TypedQuery.Json
