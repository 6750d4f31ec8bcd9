import TypedQuery.Proofs.Schema.Tracking
import TypedQuery.Proofs.Text.Utf8
import TypedQuery.Schema.Sources

/-!
# Where a schema file stops being a text

A file that is no UTF-8 text is refused, and the error stands behind the longest text at the start
of the file. Its line and column are counted in bytes: lines end with line feeds only. The lexer
counts characters, and it knows two more line ends. Both agree exactly if every carriage return has
its line feed and the last line is ASCII.

* `Position.line_after`, `Position.after_start_of_feedEnded`: lines and columns of the lexer by line
  feeds.
* `SchemaFiles.faultPosition`: the position of the error, said of the text before it.
* `SchemaFiles.addFile_places_fault`: the error, and when the lexer names the same position.
-/

namespace TypedQuery

open Lexeme (isLineEnd)

/-! ## Line feeds -/

/-- Every carriage return has a line feed behind it. -/
def FeedEnded (cs : List Char) : Prop := ∀ i, cs[i]? = some '\r' → cs[i + 1]? = some '\n'

theorem feedEnded_cons {c : Char} {cs : List Char} :
    FeedEnded (c :: cs) ↔ (c = '\r' → cs.head? = some '\n') ∧ FeedEnded cs := by
  constructor
  · intro h
    refine ⟨?_, fun i => h (i + 1)⟩
    rintro rfl
    rw [List.head?_eq_getElem?]
    exact h 0 rfl
  · rintro ⟨hhead, htail⟩ i hi
    cases i with
    | zero =>
      rw [List.getElem?_cons_succ, ← List.head?_eq_getElem?]
      exact hhead (Option.some.inj hi)
    | succ i => exact htail i hi

theorem FeedEnded.of_append {as bs : List Char} (h : FeedEnded (as ++ bs)) : FeedEnded bs := by
  induction as with
  | nil => exact h
  | cons a as ih => exact ih (feedEnded_cons.1 h).2

/-- Without line feeds there are no line ends at all. -/
theorem FeedEnded.inline {cs : List Char} (h : FeedEnded cs) (hfeed : '\n' ∉ cs) :
    ∀ c ∈ cs, isLineEnd c = false := by
  induction cs with
  | nil => simp
  | cons c cs ih =>
    obtain ⟨hhead, htail⟩ := feedEnded_cons.1 h
    obtain ⟨hc, hcs⟩ := not_or.1 (mt List.mem_cons.2 hfeed)
    have hreturn : c ≠ '\r' := fun hc => hcs (List.mem_of_head? (hhead hc))
    refine List.forall_mem_cons.2 ⟨?_, ih htail hcs⟩
    simp [isLineEnd, hreturn, Ne.symm hc]

/-- The characters behind the last line feed. -/
def lastLine (cs : List Char) : List Char := (cs.reverse.takeWhile (· != '\n')).reverse

theorem exists_lastLine (cs : List Char) :
    ∃ init, cs = init ++ lastLine cs ∧ (init = [] ∨ init.getLast? = some '\n') := by
  refine ⟨(cs.reverse.dropWhile (· != '\n')).reverse, ?_, ?_⟩
  · rw [lastLine, ← List.reverse_append, List.takeWhile_append_dropWhile, List.reverse_reverse]
  · rw [List.getLast?_reverse, List.reverse_eq_nil_iff]
    cases hrest : cs.reverse.dropWhile (· != '\n') with
    | nil => exact .inl rfl
    | cons c rest =>
      have hc := List.head?_dropWhile_not (· != '\n') cs.reverse
      rw [hrest] at hc
      exact .inr (congrArg some (by simpa using hc))

theorem feed_not_mem_lastLine (cs : List Char) : '\n' ∉ lastLine cs := by
  intro h
  have hfeed := List.all_eq_true.1 (List.all_takeWhile ..) _ (List.mem_reverse.1 h)
  cases hfeed

/-! ## Lines and columns of the lexer -/

namespace Position

/-- The lexer counts a line for every line feed, and for every carriage return without one. -/
theorem line_after (p : Position) (cs : List Char) :
    p.line + cs.count '\n' ≤ (p.after cs).line ∧
      ((p.after cs).line = p.line + cs.count '\n' ↔ FeedEnded cs) := by
  fun_induction after p cs with
  | case1 p => simp [FeedEnded]
  | case2 p cs ih =>
    obtain ⟨hle, hiff⟩ := ih
    have hended : FeedEnded ('\r' :: '\n' :: cs) ↔ FeedEnded cs := by simp [feedEnded_cons]
    rw [hended, ← hiff, List.count_cons_of_ne (by decide), List.count_cons_self]
    simp only [newLine] at hle ⊢
    omega
  | case3 p cs hfeed ih =>
    obtain ⟨hle, -⟩ := ih
    have hended : ¬ FeedEnded ('\r' :: cs) := by
      intro h
      obtain ⟨rest, rfl⟩ := List.head?_eq_some_iff.1 ((feedEnded_cons.1 h).1 rfl)
      exact hfeed rest rfl
    rw [List.count_cons_of_ne (by decide)]
    simp only [newLine] at hle ⊢
    exact ⟨by omega, by omega, fun h => absurd h hended⟩
  | case4 p cs ih =>
    obtain ⟨hle, hiff⟩ := ih
    have hended : FeedEnded ('\n' :: cs) ↔ FeedEnded cs := by simp [feedEnded_cons]
    rw [hended, ← hiff, List.count_cons_self]
    simp only [newLine] at hle ⊢
    omega
  | case5 p c cs hreturn hboth hfeed ih =>
    have hended : FeedEnded (c :: cs) ↔ FeedEnded cs := by
      rw [feedEnded_cons]
      exact and_iff_right fun hc => absurd hc hboth
    rw [hended, List.count_cons_of_ne hfeed]
    exact ih

theorem column_after_feed {cs : List Char} (h : cs.getLast? = some '\n') (p : Position) :
    (p.after cs).column = 1 := by
  obtain ⟨init, rfl⟩ := List.getLast?_eq_some_iff.1 h
  by_cases hreturn : init.getLast? = some '\r'
  · obtain ⟨init, rfl⟩ := List.getLast?_eq_some_iff.1 hreturn
    rw [List.append_assoc, after_append (by simp)]
    rfl
  · rw [after_append fun hlast => absurd hlast hreturn]
    rfl

/-- The position behind a text with all its line feeds. -/
theorem after_start_of_feedEnded {cs : List Char} (h : FeedEnded cs) :
    start.after cs = ⟨cs.count '\n' + 1, (lastLine cs).length + 1⟩ := by
  have hline := (line_after start cs).2.2 h
  obtain ⟨init, hcs, hinit⟩ := exists_lastLine cs
  have hinline := FeedEnded.inline (FeedEnded.of_append (hcs ▸ h)) (feed_not_mem_lastLine cs)
  have hcolumn : (start.after init).column = 1 := by
    rcases hinit with rfl | hlast
    · rfl
    · exact column_after_feed hlast start
  have hcut : init.getLast? = some '\r' → (lastLine cs).head? ≠ some '\n' := by
    rcases hinit with rfl | hlast
    · simp
    · simp [hlast]
  have hafter : start.after cs = (start.after init).right (lastLine cs).length := by
    rw [← after_of_not_isLineEnd hinline, ← after_append hcut, ← hcs]
  calc start.after cs = ⟨(start.after cs).line, (start.after cs).column⟩ := rfl
    _ = ⟨cs.count '\n' + 1, (lastLine cs).length + 1⟩ := by
      rw [hline, hafter, right, hcolumn, Nat.add_comm start.line, Nat.add_comm 1]
      rfl

end Position

/-! ## Positions of faults -/

namespace SchemaFiles

/-- The position of what follows `p` in a file, where it is no text any more: lines end with line
feeds, and columns count bytes. -/
def faultPosition (p : String) : Position :=
  ⟨p.toList.count '\n' + 1, (Utf8.encode (.ofList (lastLine p.toList))).length + 1⟩

theorem takeWhile_feed_encode (cs : List Char) :
    (cs.flatMap String.utf8EncodeChar).reverse.takeWhile (· != 10) =
      ((lastLine cs).flatMap String.utf8EncodeChar).reverse := by
  rw [List.reverse_flatMap, List.reverse_flatMap, lastLine, List.reverse_reverse]
  induction cs.reverse with
  | nil => rfl
  | cons c cs ih =>
    by_cases hc : c = '\n'
    · subst hc
      rfl
    · have hbytes : ∀ b ∈ (List.reverse ∘ String.utf8EncodeChar) c, (b != 10) = true := by
        intro b hb
        refine bne_iff_ne.2 ?_
        rintro rfl
        exact hc (Utf8.feed_mem_encodeChar.1 (List.mem_reverse.1 hb))
      rw [List.flatMap_cons, List.takeWhile_append_of_pos hbytes, ih, List.takeWhile_cons,
        if_pos (bne_iff_ne.2 hc), List.flatMap_cons]

theorem bytePosition_encode (p : String) (rest : List UInt8) :
    bytePosition (Utf8.encode p ++ rest) (Utf8.encode p).length = faultPosition p := by
  rw [bytePosition, List.take_left, faultPosition, Utf8.encode_eq, Utf8.encode_ofList,
    Utf8.count_feed_encode, takeWhile_feed_encode, List.length_reverse]

theorem faultPosition_eq_after_iff (p : String) :
    faultPosition p = Position.start.after p.toList ↔
      FeedEnded p.toList ∧ ∀ c ∈ lastLine p.toList, c.toNat < 128 := by
  rw [← Utf8.length_encode_eq_iff, ← Utf8.encode_ofList]
  constructor
  · intro h
    have hended : FeedEnded p.toList := by
      refine (Position.line_after .start p.toList).2.1 ?_
      rw [← h, Nat.add_comm]
      rfl
    rw [Position.after_start_of_feedEnded hended] at h
    exact ⟨hended, Nat.succ_inj.1 (congrArg Position.column h)⟩
  · rintro ⟨hended, hlength⟩
    rw [Position.after_start_of_feedEnded hended, faultPosition, hlength]

/-- **Where bytes that are no text are refused.** Take any file whose bytes are not those of a text.
It is refused behind the longest text at its start, nothing is collected from it, and the position
counts line feeds and bytes. The lexer, in whatever text begins so, has the position there that the
characters lead to. The two are the same exactly if carriage returns have their line feeds and the
last line is ASCII. -/
theorem addFile_places_fault (t : FileTree) (cwd : Place) (run : Run) (path : String)
    (bytes : List UInt8) (hread : t.read cwd path = .ok bytes)
    (hbytes : ∀ text, Utf8.encode text ≠ bytes) :
    ∃ p why, Utf8.IsLongest p bytes ∧
      addFile t cwd run path =
        { run with error := some (.schema (.atPosition path (faultPosition p) (.encoding why))) } ∧
      (∀ rest, (∀ q ∈ (Stream.scan .start (p.toList ++ rest)).positions,
          ∃ place, Stream.Places .start (p.toList ++ rest) q place) ∧
        ∀ q, Stream.Places .start (p.toList ++ rest) q rest →
          q = Position.start.after p.toList) ∧
      (faultPosition p = Position.start.after p.toList ↔
        FeedEnded p.toList ∧ ∀ c ∈ lastLine p.toList, c.toNat < 128) := by
  cases hdecode : Utf8.decode bytes with
  | ok text => exact absurd (Utf8.decode_eq_ok_iff.1 hdecode) (hbytes text)
  | error f =>
    obtain ⟨p, hlongest, hstart⟩ := Utf8.exists_longest_of_decode hdecode
    refine ⟨p, f.reason, hlongest, ?_, ?_, faultPosition_eq_after_iff p⟩
    · obtain ⟨rest, rfl⟩ := hlongest.starts
      rw [addFile, hread]
      simp only [SchemaFiles.decode, hdecode, hstart, bytePosition_encode]
    · refine fun rest => ⟨fun q hq => Stream.exists_places hq, fun q hplaces => ?_⟩
      obtain ⟨before, hbefore, rfl⟩ := hplaces.exists_before
      rw [List.append_cancel_right hbefore]

/-- A tree with one file. -/
def oneFile (bytes : List UInt8) : FileTree := { files := [(["s.graphql"], bytes)] }

theorem encode_ne_of_decode {bytes : List UInt8}
    (h : (Utf8.decode bytes).toOption.isNone = true) (text : String) :
    Utf8.encode text ≠ bytes := by
  intro htext
  rw [Utf8.decode_eq_ok_iff.2 htext] at h
  cases h

/-- No character has the largest byte. -/
theorem isLongest_before_max {p : String} {bytes : List UInt8}
    (h : Utf8.encode p ++ [0xFF] = bytes) : Utf8.IsLongest p bytes := by
  have hnext : Utf8.next 0xFF [] = .error (.start, 1) := rfl
  exact h ▸ Utf8.isLongest_of_next hnext p

/-- Both characters of a line end, and then a byte that no character has. -/
theorem addFile_places_fault_next_line :
    (∀ text, Utf8.encode text ≠ [97, 13, 10, 255]) ∧
      Position.start.after "a\r\n".toList = ⟨2, 1⟩ ∧
      ∃ why, addFile (oneFile [97, 13, 10, 255]) [] {} "s.graphql" =
        { error := some (.schema (.atPosition "s.graphql" ⟨2, 1⟩ (.encoding why))) } := by
  have hbytes : ∀ text, Utf8.encode text ≠ [97, 13, 10, 255] :=
    encode_ne_of_decode (by decide +kernel)
  have hread : (oneFile [97, 13, 10, 255]).read [] "s.graphql" = .ok [97, 13, 10, 255] := rfl
  have hlongest : Utf8.IsLongest "a\r\n" [97, 13, 10, 255] :=
    isLongest_before_max (by rw [Utf8.encode_eq]; decide +kernel)
  have hposition : faultPosition "a\r\n" = ⟨2, 1⟩ := by decide +kernel
  obtain ⟨p, why, hp, hadd, -, -⟩ := addFile_places_fault _ [] {} "s.graphql" _ hread hbytes
  rw [hp.unique hlongest, hposition] at hadd
  exact ⟨hbytes, by decide, why, hadd⟩

/-- Behind a character of two bytes the column is too large. Behind a carriage return, which ends a
line for the lexer, the line is still the old one. -/
theorem fault_beside_lexer :
    (Utf8.IsLongest "é" [0xC3, 0xA9, 0xFF] ∧
      (addFile (oneFile [0xC3, 0xA9, 0xFF]) [] {} "s.graphql").error =
        some (.schema (.atPosition "s.graphql" ⟨1, 3⟩ (.encoding .start))) ∧
      Position.start.after "é".toList = ⟨1, 2⟩) ∧
    Utf8.IsLongest "\r" [0x0D, 0xFF] ∧
      (addFile (oneFile [0x0D, 0xFF]) [] {} "s.graphql").error =
        some (.schema (.atPosition "s.graphql" ⟨1, 2⟩ (.encoding .start))) ∧
      Position.start.after "\r".toList = ⟨2, 1⟩ := by
  refine ⟨⟨?_, by decide +kernel, by decide⟩, ?_, by decide +kernel, by decide⟩
  · exact isLongest_before_max (by rw [Utf8.encode_eq]; decide +kernel)
  · exact isLongest_before_max (by rw [Utf8.encode_eq]; decide +kernel)

end SchemaFiles

end TypedQuery
