import TypedQuery.Proofs.Archive.Storing
import TypedQuery.Proofs.Text.Utf8

/-!
# Tar archives of files

Files that are packed into a tar archive are extracted from it again, on every platform that can
filter what it extracts.

* `Archive.Tar.number?_octal`: numbers in octal digits.
* `Archive.Tar.member?_packHeader`: what is read of one file.
* `Archive.Tar.filtered_pack`: what is read of an archive.
-/

namespace TypedQuery

/-! ## Octal numbers -/

namespace Integer

/-- The characters that octal digits are written with. -/
def octalChar (d : Nat) : Char := Char.ofNat (0x30 + d)

theorem octalChar_mem {d : Nat} (h : d < 8) :
    octalChar d ∈ ['0', '1', '2', '3', '4', '5', '6', '7'] := by
  revert d
  decide

theorem digits?_octalChar {d : Nat} (h : d < 8) (started : Bool) (n : Nat) (cs : List Char) :
    digits? 8 octalDigit? started n (octalChar d :: cs) =
      digits? 8 octalDigit? true (8 * n + d) cs := by
  have hvalue : octalDigit? (octalChar d) = some d := by
    revert d
    decide
  have hplain : octalChar d ≠ '_' := by
    revert d
    decide
  rw [digits?]
  · rw [hvalue]
  · exact fun _ _ hline _ => absurd hline hplain

/-- Octal digits are read as they are: no sign and no mark of the base is among them. -/
theorem ofOctal?_of_forall {cs : List Char} (h : ∀ c ∈ cs, ∃ d < 8, c = octalChar d) :
    ofOctal? cs = (digits? 8 octalDigit? false 0 cs).map Int.ofNat := by
  have hnot (c : Char) (hc : c ∉ ['0', '1', '2', '3', '4', '5', '6', '7']) : c ∉ cs := by
    intro hmem
    obtain ⟨d, hd, rfl⟩ := h c hmem
    exact hc (octalChar_mem hd)
  have hmark : behindMark cs = cs := by
    unfold behindMark
    split
    · rename_i m rest
      have hm (c : Char) (hc : c ∉ ['0', '1', '2', '3', '4', '5', '6', '7']) : m ≠ c := by
        rintro rfl
        exact hnot m hc (by simp)
      rw [if_neg]
      simp [hm 'o' (by decide), hm 'O' (by decide)]
    · rfl
  unfold ofOctal? signed?
  split
  · exact absurd List.mem_cons_self (hnot '+' (by decide))
  · exact absurd List.mem_cons_self (hnot '-' (by decide))
  · exact congrArg (fun cs => (digits? 8 octalDigit? false 0 cs).map Int.ofNat) hmark

end Integer

theorem Text.stripWhere_of_forall {p : Char → Bool} {cs : List Char} (h : ∀ c ∈ cs, p c = false) :
    stripWhere p cs = cs := by
  have hdrop (ds : List Char) (hds : ∀ c ∈ ds, p c = false) : ds.dropWhile p = ds := by
    cases ds with
    | nil => rfl
    | cons d ds => exact List.dropWhile_cons_of_neg (by simp [hds d])
  rw [stripWhere, hdrop cs h, hdrop cs.reverse fun c hc => h c (List.mem_reverse.1 hc),
    List.reverse_reverse]

namespace Archive.Tar

theorem length_octalDigits (count n : Nat) : (octalDigits count n).length = count := by
  induction count generalizing n with
  | zero => rfl
  | succ count ih => rw [octalDigits, List.length_append, ih, List.length_singleton]

theorem mem_octalDigits {count n : Nat} {b : UInt8} (h : b ∈ octalDigits count n) :
    ∃ d < 8, b.toNat = 0x30 + d := by
  induction count generalizing n with
  | zero => cases h
  | succ count ih =>
    rcases List.mem_append.1 h with h | h
    · exact ih h
    · have hdigit : n % 8 < 8 := Nat.mod_lt n (by decide)
      refine ⟨n % 8, hdigit, ?_⟩
      rw [List.mem_singleton.1 h, UInt8.toNat_ofNat', Nat.mod_eq_of_lt (by omega)]

theorem digits?_octalDigits (count n : Nat) (started : Bool) (m : Nat) (cs : List Char) :
    Integer.digits? 8 Integer.octalDigit? started m
        ((octalDigits count n).map (fun b => Char.ofNat b.toNat) ++ cs) =
      Integer.digits? 8 Integer.octalDigit? (started || count != 0)
        (m * Nat.pow 8 count + n % Nat.pow 8 count) cs := by
  induction count generalizing n cs with
  | zero => simp [octalDigits, Nat.mod_one]
  | succ count ih =>
    have hpow : Nat.pow 8 (count + 1) = 8 * Nat.pow 8 count := Nat.mul_comm _ _
    have hdigit : n % 8 < 8 := Nat.mod_lt n (by decide)
    have hchar : Char.ofNat (UInt8.ofNat (0x30 + n % 8)).toNat = Integer.octalChar (n % 8) := by
      rw [UInt8.toNat_ofNat', Nat.mod_eq_of_lt (by omega)]
      rfl
    rw [octalDigits, List.map_append, List.append_assoc, ih, List.map_cons, List.map_nil,
      List.singleton_append, hchar, Integer.digits?_octalChar hdigit, hpow, Nat.mod_mul]
    congr 1
    · simp
    · rw [Nat.mul_add, Nat.mul_left_comm, Nat.add_assoc, Nat.add_comm (8 * _)]

theorem isSpace_octalChar {d : Nat} (h : d < 8) :
    Text.isSpace (Integer.octalChar d) = false := by
  revert d
  decide +kernel

theorem toNat_octalDigits {count n : Nat} {b : UInt8} (h : b ∈ octalDigits count n) :
    b.toNat ≠ 0 ∧ b.toNat < 0x80 := by
  obtain ⟨d, hd, hvalue⟩ := mem_octalDigits h
  omega

/-- Bytes of which none is zero end where zeros start. -/
theorem takeWhile_zeros {bytes : List UInt8} (h : 0 ∉ bytes) (count : Nat) :
    (bytes ++ List.replicate count 0).takeWhile (· != 0) = bytes := by
  have hpass : ∀ b ∈ bytes, (b != 0) = true := by
    intro b hb
    rw [bne_iff_ne]
    rintro rfl
    exact h hb
  rw [List.takeWhile_append_of_pos hpass]
  cases count with
  | zero => simp
  | succ count => simp [List.replicate_succ]

/-- The characters of octal digits. -/
def octalText (count n : Nat) : List Char := (octalDigits count n).map fun b => Char.ofNat b.toNat

theorem mem_octalText {count n : Nat} {c : Char} (h : c ∈ octalText count n) :
    ∃ d < 8, c = Integer.octalChar d := by
  obtain ⟨b, hb, rfl⟩ := List.mem_map.1 h
  obtain ⟨d, hd, hvalue⟩ := mem_octalDigits hb
  exact ⟨d, hd, by rw [hvalue]; rfl⟩

theorem strip_octalText (count n : Nat) : Text.strip (octalText count n) = octalText count n := by
  refine Text.stripWhere_of_forall fun c hc => ?_
  obtain ⟨d, hd, rfl⟩ := mem_octalText hc
  exact isSpace_octalChar hd

theorem ofOctal?_octalText {count n : Nat} (h : n < Nat.pow 8 (count + 1)) :
    Integer.ofOctal? (octalText (count + 1) n) = some (Int.ofNat n) := by
  have hread := digits?_octalDigits (count + 1) n false 0 []
  rw [List.append_nil, Nat.zero_mul, Nat.zero_add, Nat.mod_eq_of_lt h] at hread
  rw [Integer.ofOctal?_of_forall fun c hc => mem_octalText hc, octalText, hread]
  rfl

/-- What is written in octal digits is read again, if there is room for it. -/
theorem number?_octal {count n : Nat} (h : n < Nat.pow 8 (count + 1)) :
    number? (octal (count + 2) n) = some (Int.ofNat n) := by
  have hoctal : octal (count + 2) n = octalDigits (count + 1) n ++ [0] := rfl
  have hbytes : (octal (count + 2) n).takeWhile (· != 0) = octalDigits (count + 1) n :=
    takeWhile_zeros (fun hzero => (toNat_octalDigits hzero).1 rfl) 1
  have hhigh : (octalDigits (count + 1) n).any (127 < ·) = false := by
    rw [List.any_eq_false]
    intro b hb
    have hb := (toNat_octalDigits hb).2
    simp only [decide_eq_true_eq, UInt8.lt_iff_toNat_lt, show (127 : UInt8).toNat = 127 from rfl]
    omega
  have hsome : (octalText (count + 1) n).isEmpty = false := by
    rw [List.isEmpty_eq_false_iff, octalText, Ne, List.map_eq_nil_iff, ← List.length_eq_zero_iff,
      length_octalDigits]
    exact Nat.succ_ne_zero count
  -- The first byte is a digit, so the number does not stand in bytes behind a mark.
  have hfirst (b : UInt8) (rest : List UInt8) (hb : 0x80 ≤ b.toNat) :
      octal (count + 2) n ≠ b :: rest := by
    intro heq
    have hmem : b ∈ octal (count + 2) n := heq ▸ List.mem_cons_self
    rw [hoctal, List.mem_append, List.mem_singleton] at hmem
    rcases hmem with hmem | rfl
    · have hb' := (toNat_octalDigits hmem).2
      omega
    · exact absurd hb (by decide)
  unfold number?
  split
  · rename_i rest heq
    exact absurd heq (hfirst 0x80 rest (by decide))
  · rename_i rest heq
    exact absurd heq (hfirst 0xFF rest (by decide))
  · dsimp only
    rw [hbytes, hhigh, if_neg Bool.false_ne_true, ← octalText, strip_octalText, hsome,
      if_neg Bool.false_ne_true, ofOctal?_octalText h]

/-! ## Headers -/

theorem length_padded {width : Nat} {bytes : List UInt8} (h : bytes.length ≤ width) :
    (padded width bytes).length = width := by
  rw [padded, List.length_append, List.length_replicate]
  omega

theorem length_octal (count n : Nat) : (octal (count + 1) n).length = count + 1 := by
  rw [octal, List.length_append, length_octalDigits]
  rfl

theorem length_packedBack : packedBack.length = 356 := by decide +kernel

theorem foldl_bytes_le (bytes : List UInt8) (n : Nat) :
    bytes.foldl (fun n b => n + b.toNat) n ≤ n + 255 * bytes.length := by
  induction bytes generalizing n with
  | nil => exact Nat.le_refl n
  | cons b bytes ih =>
    have hrest := ih (n + b.toNat)
    have hb := b.toNat_lt
    rw [List.foldl_cons, List.length_cons]
    omega

section

variable {name : List UInt8} {size : Nat}

theorem length_packedFront (h : name.length ≤ 100) : (packedFront name size).length = 148 := by
  simp only [packedFront, List.length_append, length_padded h, length_octal]

theorem packedSum_lt (h : name.length ≤ 100) : packedSum name size < Nat.pow 8 7 := by
  have hsum := foldl_bytes_le (packedFront name size ++ packedBack) 256
  rw [List.length_append, length_packedFront h, length_packedBack] at hsum
  exact Nat.lt_of_le_of_lt hsum (by decide)

theorem length_packHeader (h : name.length ≤ 100) (size : Nat) :
    (packHeader name size).length = headerLength := by
  simp only [packHeader, List.length_append, length_packedFront h, length_octal, length_packedBack]
  rfl

theorem isEmpty_packHeader (h : name.length ≤ 100) : (packHeader name size).isEmpty = false := by
  rw [List.isEmpty_eq_false_iff, Ne, ← List.length_eq_zero_iff, length_packHeader h size]
  decide

theorem drop_packHeader (h : name.length ≤ 100) (size k : Nat) :
    (packHeader name size).drop (156 + k) = packedBack.drop k := by
  have hlength : (packedFront name size ++ octal 8 (packedSum name size)).length = 156 := by
    rw [List.length_append, length_packedFront h, length_octal]
  rw [packHeader, ← List.append_assoc, ← hlength, List.drop_length_add_append]

theorem drop_next {bytes field rest : List UInt8} {start width : Nat}
    (h : bytes.drop start = field ++ rest) (hwidth : field.length = width) :
    bytes.drop (start + width) = rest := by
  rw [← List.drop_drop, h, List.drop_left' hwidth]

theorem numberIn?_of_drop {bytes rest : List UInt8} {start count n : Nat}
    (h : bytes.drop start = octal (count + 2) n ++ rest) (hn : n < Nat.pow 8 (count + 1)) :
    numberIn? bytes (start, count + 2) = some (Int.ofNat n) := by
  rw [numberIn?, h, List.take_left' (length_octal (count + 1) n), number?_octal hn]

theorem numberIn?_checksumField (h : name.length ≤ 100) :
    numberIn? (packHeader name size) checksumField = some (Int.ofNat (packedSum name size)) := by
  have hdrop : (packHeader name size).drop 148 = octal 8 (packedSum name size) ++ packedBack :=
    List.drop_left' (length_packedFront h)
  exact numberIn?_of_drop hdrop (packedSum_lt h)

theorem mem_checksums (h : name.length ≤ 100) :
    Int.ofNat (packedSum name size) ∈ checksums (packHeader name size) := by
  have hfront : (packHeader name size).take 148 = packedFront name size :=
    List.take_left' (length_packedFront h)
  have hback : (packHeader name size).drop 156 = packedBack := drop_packHeader h size 0
  simp only [checksums, hfront, hback]
  exact List.mem_cons_self

/-- The numbers in a header. -/
theorem numbers_packHeader (h : name.length ≤ 100) (hsize : size < Nat.pow 8 11) :
    numberFields.map (numberIn? (packHeader name size)) =
      [some 0o644, some 0, some 0, some (Int.ofNat size), some 0, some 0, some 0] := by
  have hmode : (packHeader name size).drop 100 = octal 8 0o644 ++ (octal 8 0 ++ (octal 8 0 ++
      (octal 12 size ++ (octal 12 0 ++ (octal 8 (packedSum name size) ++ packedBack))))) := by
    rw [packHeader, packedFront, List.append_assoc, List.drop_left' (length_padded h)]
    simp only [List.append_assoc]
  have howner := drop_next hmode (length_octal 7 _)
  have hgroup := drop_next howner (length_octal 7 _)
  have hlength := drop_next hgroup (length_octal 7 _)
  have htime := drop_next hlength (length_octal 11 _)
  have hback (k : Nat) (hk : number? ((packedBack.drop k).take 8) = some 0) :
      numberIn? (packHeader name size) (156 + k, 8) = some 0 := by
    rw [numberIn?, drop_packHeader h size, hk]
  simp only [numberFields, List.map_cons, List.map_nil]
  rw [numberIn?_of_drop hmode (by decide), numberIn?_of_drop howner (by decide),
    numberIn?_of_drop hgroup (by decide), numberIn?_of_drop hlength hsize,
    numberIn?_of_drop htime (by decide), hback 173 (by decide +kernel),
    hback 181 (by decide +kernel)]
  rfl

/-- Nothing is wrong with a header. -/
theorem headerFault?_packHeader (h : name.length ≤ 100) (hsize : size < Nat.pow 8 11) :
    headerFault? (packHeader name size) = none := by
  have hlength := length_packHeader h size
  have hnumbers : (numberFields.all fun f => (numberIn? (packHeader name size) f).isSome) =
      true := by
    have hall := congrArg (List.all · Option.isSome) (numbers_packHeader h hsize)
    rwa [List.all_map] at hall
  have hsum : (checksums (packHeader name size)).contains (Int.ofNat (packedSum name size)) =
      true := List.contains_iff_mem.2 (mem_checksums h)
  simp only [headerFault?, isEmpty_packHeader h, hlength, numberIn?_checksumField h, hsum, hnumbers]
  simp

theorem kind_packHeader (h : name.length ≤ 100) : (packHeader name size).getD 156 0 = 0x30 := by
  have hdrop := congrArg List.head? (drop_packHeader h size 0)
  rw [List.head?_drop] at hdrop
  rw [List.getD_eq_getElem?_getD, hdrop]
  rfl

theorem all_packHeader : (packHeader name size).all (· == 0) = false := by
  rw [List.all_eq_false]
  refine ⟨0x30, ?_, by decide⟩
  exact List.mem_append_right _ (List.mem_append_right _ List.mem_cons_self)

end

/-! ## Files -/

/-- There is room for the name of a file and for its size in a header. -/
structure Fits (f : Step × Content) : Prop where
  slash : '/' ∉ f.1.val.toList
  null : 0 ∉ Utf8.encode f.1.val
  name : (Utf8.encode f.1.val).length ≤ 100
  size : f.2.length < Nat.pow 8 11

theorem splitWhere_of_forall {p : Char → Bool} {cs : List Char} (h : ∀ c ∈ cs, p c = false) :
    Text.splitWhere p cs = [cs] := by
  induction cs with
  | nil => rfl
  | cons c cs ih =>
    obtain ⟨hc, hcs⟩ := List.forall_mem_cons.1 h
    simp [Text.splitWhere, hc, ih hcs]

section

variable {f : Step × Content}

/-- What the header of a file says. -/
theorem header?_packHeader (h : Fits f) : header? (packHeader (Utf8.encode f.1.val) f.2.length) =
    some ⟨f.1.val, f.2.length, false⟩ := by
  have hname : textIn? (packHeader (Utf8.encode f.1.val) f.2.length) nameField =
      some f.1.val := by
    have hfield : (packHeader (Utf8.encode f.1.val) f.2.length).take 100 =
        padded 100 (Utf8.encode f.1.val) := by
      rw [packHeader, packedFront, List.append_assoc, List.take_left' (length_padded h.name)]
    rw [textIn?, nameField, List.drop_zero, hfield, padded, takeWhile_zeros h.null,
      Utf8.decode_eq_ok_iff.2 rfl]
    rfl
  have hfolder : textIn? (packHeader (Utf8.encode f.1.val) f.2.length) folderField = some "" := by
    have hfield : ((packedBack.drop 189).take 155).takeWhile (· != 0) = Utf8.encode "" := by
      decide +kernel
    rw [textIn?, folderField, show 345 = 156 + 189 from rfl, drop_packHeader h.name f.2.length,
      hfield, Utf8.decode_eq_ok_iff.2 rfl]
    rfl
  have hnumbers := numbers_packHeader h.name h.size
  simp only [numberFields, List.map_cons, List.map_nil, List.cons.injEq] at hnumbers
  obtain ⟨-, -, -, hsize, htime, -⟩ := hnumbers
  have hkind : isDirectory? ((packHeader (Utf8.encode f.1.val) f.2.length).getD 156 0) f.1.val =
      some false := by
    rw [kind_packHeader h.name]
    rfl
  rw [header?, hname, hfolder, sizeField, hsize, timeField, htime]
  simp only [Option.bind_eq_bind, Option.bind_some, hkind]
  simp [isTime]

theorem made?_file (h : Fits f) (content : Content) :
    (⟨f.1.val, f.2.length, false⟩ : Header).made? content = some (.file [] f.1 content) := by
  have hnames : FileTree.namesOf f.1.val = [f.1.val] := by
    rw [FileTree.namesOf, splitWhere_of_forall]
    · simp
    · intro c hc
      rw [beq_eq_false_iff_ne]
      rintro rfl
      exact h.slash hc
  have hempty : (f.1.val == "") = false := beq_eq_false_iff_ne.2 f.1.property.1
  have hsteps : steps? [] = some [] := rfl
  simp [Header.made?, hnames, hempty, hsteps, f.1.property]

theorem le_roomFor (size : Nat) : size ≤ roomFor size := by
  rw [roomFor, headerLength]
  omega

/-- One file is read, and what follows it is left. -/
theorem member?_packHeader (h : Fits f) (rest : List UInt8) :
    member? (packHeader (Utf8.encode f.1.val) f.2.length ++
      (padded (roomFor f.2.length) f.2 ++ rest)) = some (.file [] f.1 f.2, rest) := by
  have hheader := length_packHeader h.name f.2.length
  have hroom := length_padded (le_roomFor f.2.length)
  have hdata : (padded (roomFor f.2.length) f.2 ++ rest).take f.2.length = f.2 := by
    rw [padded, List.append_assoc, List.take_left]
  rw [member?, List.take_left' hheader, List.drop_left' hheader, header?_packHeader h]
  simp [hdata, made?_file h, headerFault?_packHeader h.name h.size, hroom, List.drop_left' hroom]

end

/-! ## Archives -/

theorem packData_cons (f : Step × Content) (files : List (Step × Content)) :
    packData (f :: files) = packHeader (Utf8.encode f.1.val) f.2.length ++
      (padded (roomFor f.2.length) f.2 ++ packData files) := by
  simp only [packData, List.flatMap_cons, List.append_assoc]

theorem length_le_packData {files : List (Step × Content)} (h : ∀ f ∈ files, Fits f) :
    files.length ≤ (packData files).length := by
  induction files with
  | nil => exact Nat.zero_le _
  | cons f files ih =>
    obtain ⟨hf, hfiles⟩ := List.forall_mem_cons.1 h
    have hrest := ih hfiles
    rw [packData_cons, List.length_append, List.length_append, length_packHeader hf.name f.2.length,
      List.length_cons, headerLength]
    omega

/-- Files are read one after the other. -/
theorem entries?_packData {files : List (Step × Content)} (h : ∀ f ∈ files, Fits f) {fuel : Nat}
    (hfuel : files.length < fuel) :
    entries? fuel (packData files) = some (files.map fun f => .file [] f.1 f.2) := by
  induction files generalizing fuel with
  | nil =>
    obtain ⟨fuel, rfl⟩ := Nat.exists_eq_add_of_lt hfuel
    have hend : (((packData []).take headerLength).isEmpty ||
        (decide (((packData []).take headerLength).length = headerLength) &&
          ((packData []).take headerLength).all (· == 0))) = true := by
      decide +kernel
    rw [entries?]
    exact if_pos hend
  | cons f files ih =>
    obtain ⟨hf, hfiles⟩ := List.forall_mem_cons.1 h
    obtain ⟨fuel, rfl⟩ := Nat.exists_eq_add_of_lt hfuel
    have hblock : (packData (f :: files)).take headerLength =
        packHeader (Utf8.encode f.1.val) f.2.length := by
      rw [packData_cons, List.take_left' (length_packHeader hf.name f.2.length)]
    have hplain : skipExtended? (packData (f :: files)) = some (packData (f :: files)) := by
      rw [skipExtended?]
      simp only [hblock, kind_packHeader hf.name]
      exact if_pos (by decide)
    rw [entries?]
    simp only [hblock, isEmpty_packHeader hf.name, all_packHeader, Bool.and_false, Bool.or_self,
      Bool.false_eq_true, if_false, hplain, Option.bind_eq_bind, Option.bind_some]
    rw [packData_cons, member?_packHeader hf, Option.bind_some, ih hfiles (by simp; omega)]
    rfl

section

variable {files : List (Step × Content)}

/-- An archive of files can be opened. -/
theorem probe_pack (h : ∀ f ∈ files, Fits f) : probe (pack files) = none := by
  rw [probe, pack, Gzip.read_store]
  cases files with
  | nil => decide +kernel
  | cons f files =>
    have hf := h f List.mem_cons_self
    rw [packData_cons, List.take_left' (length_packHeader hf.name f.2.length)]
    exact headerFault?_packHeader hf.name hf.size

/-- An archive of files holds these files. -/
theorem plain?_pack (h : ∀ f ∈ files, Fits f) :
    plain? (pack files) = some (files.map fun f => .file [] f.1 f.2) := by
  have hentries : entries? ((packData files).length + 1) (packData files) =
      some (files.map fun f => .file [] f.1 f.2) :=
    entries?_packData h (Nat.lt_succ_of_le (length_le_packData h))
  rw [plain?, pack, Gzip.readAll?_store, Option.bind_eq_bind, Option.bind_some, hentries]
  refine if_neg ?_
  simp [Entry.blocks, Entry.folder]

/-- An archive of files is extracted to these files. -/
theorem filtered_pack (h : ∀ f ∈ files, Fits f) (other : Extractor) :
    filtered other (pack files) = { made := files.map fun f => .file [] f.1 f.2 } := by
  rw [filtered, probe_pack h, plain?_pack h]

end

end Archive.Tar

end TypedQuery
