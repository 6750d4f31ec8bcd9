import TypedQuery.Proofs.Basic
import TypedQuery.Text.Utf8

/-!
# What UTF-8 texts are

Bytes are the encoding of at most one text. Reading gives that text back; and where there is none,
it stops behind the longest text whose encoding the bytes start with.

* `Utf8.next_encodeChar`, `Utf8.encodeChar_of_next`: one character, written and read.
* `Utf8.IsLongest`: the longest text at the start of bytes.
* `Utf8.decode_eq_ok_iff`, `Utf8.exists_longest_of_decode`: reading bytes.
* `Utf8.count_feed_encode`, `Utf8.length_encode_eq_iff`: line feeds and widths, in bytes and in
  characters.
-/

namespace TypedQuery.Utf8

open String (utf8EncodeChar)

/-! ## Bytes of a text -/

theorem toList_loop (bs : ByteArray) (i : Nat) (seen : List UInt8) :
    ByteArray.toList.loop bs i seen = seen.reverse ++ bs.data.toList.drop i := by
  fun_induction ByteArray.toList.loop bs i seen with
  | case1 i seen hi ih =>
    have hlength : i < bs.data.toList.length := hi
    have hget : bs.get! i = bs.data.toList[i] := by
      rw [ByteArray.get!, getElem!_pos bs.data i hi, Array.getElem_toList]
    rw [ih, List.drop_eq_getElem_cons hlength, hget, List.reverse_cons, List.append_assoc]
    rfl
  | case2 i seen hi =>
    have hlength : bs.data.toList.length ≤ i := Nat.le_of_not_lt hi
    rw [List.drop_eq_nil_of_le hlength, List.append_nil]

theorem encode_ofList (cs : List Char) : encode (.ofList cs) = cs.flatMap utf8EncodeChar := by
  rw [encode, String.toUTF8, String.toByteArray_ofList, List.utf8Encode, ByteArray.toList,
    toList_loop, List.reverse_nil, List.nil_append, List.drop_zero, List.toList_data_toByteArray]

theorem encode_eq (text : String) : encode text = text.toList.flatMap utf8EncodeChar := by
  rw [← encode_ofList, String.ofList_toList]

/-! ## One character -/

/-- The code points of characters are in two ranges. -/
theorem toNat_range (c : Char) :
    c.toNat < 0xD800 ∨ 0xDFFF < c.toNat ∧ c.toNat < 0x110000 := c.valid

theorem toNat_ofNat {n : Nat} (h : n < 256) : (UInt8.ofNat n).toNat = n := by
  rw [UInt8.toNat_ofNat', Nat.mod_eq_of_lt h]

theorem encodeChar_one {c : Char} (h : c.toNat < 128) :
    utf8EncodeChar c = [UInt8.ofNat c.toNat] := by
  rw [utf8EncodeChar, show c.val.toNat = c.toNat from rfl, if_pos (by omega)]

theorem encodeChar_two {c : Char} (hlow : 127 < c.toNat) (hhigh : c.toNat ≤ 2047) :
    utf8EncodeChar c =
      [UInt8.ofNat (c.toNat / 64 % 32 + 192), UInt8.ofNat (c.toNat % 64 + 128)] := by
  rw [utf8EncodeChar, show c.val.toNat = c.toNat from rfl, if_neg (by omega), if_pos hhigh]

theorem encodeChar_three {c : Char} (hlow : 2047 < c.toNat) (hhigh : c.toNat ≤ 65535) :
    utf8EncodeChar c =
      [UInt8.ofNat (c.toNat / 4096 % 16 + 224), UInt8.ofNat (c.toNat / 64 % 64 + 128),
        UInt8.ofNat (c.toNat % 64 + 128)] := by
  rw [utf8EncodeChar, show c.val.toNat = c.toNat from rfl, if_neg (by omega), if_neg (by omega),
    if_pos hhigh]

theorem encodeChar_four {c : Char} (hlow : 65535 < c.toNat) :
    utf8EncodeChar c =
      [UInt8.ofNat (c.toNat / 262144 % 8 + 240), UInt8.ofNat (c.toNat / 4096 % 64 + 128),
        UInt8.ofNat (c.toNat / 64 % 64 + 128), UInt8.ofNat (c.toNat % 64 + 128)] := by
  rw [utf8EncodeChar, show c.val.toNat = c.toNat from rfl, if_neg (by omega), if_neg (by omega),
    if_neg (by omega)]

/-- The first two bytes of a character of three bytes go together. -/
theorem lead?_three {v : Nat} (hlow : 2047 < v) (hhigh : v ≤ 65535)
    (hvalid : v < 0xD800 ∨ 0xDFFF < v) :
    ∃ lo hi, lead? (v / 4096 + 224) = some (2, v / 4096, lo, hi) ∧
      lo ≤ v / 64 % 64 + 128 ∧ v / 64 % 64 + 128 ≤ hi := by
  unfold lead?
  rw [if_neg (by omega), if_neg (by omega)]
  by_cases hzero : v / 4096 + 224 = 0xE0
  · rw [if_pos hzero]
    exact ⟨_, _, by rw [show v / 4096 = 0 by omega], by omega, by omega⟩
  rw [if_neg hzero]
  by_cases hd : v / 4096 + 224 = 0xED
  · rw [if_pos hd]
    exact ⟨_, _, by rw [show v / 4096 = 0xD by omega], by omega, by omega⟩
  rw [if_neg hd, if_pos (by omega)]
  exact ⟨_, _, by rw [Nat.add_sub_cancel], by omega, by omega⟩

/-- The first two bytes of a character of four bytes go together. -/
theorem lead?_four {v : Nat} (hlow : 65535 < v) (hhigh : v < 0x110000) :
    ∃ lo hi, lead? (v / 262144 + 240) = some (3, v / 262144, lo, hi) ∧
      lo ≤ v / 4096 % 64 + 128 ∧ v / 4096 % 64 + 128 ≤ hi := by
  unfold lead?
  rw [if_neg (by omega), if_neg (by omega), if_neg (by omega), if_neg (by omega), if_neg (by omega)]
  by_cases hzero : v / 262144 + 240 = 0xF0
  · rw [if_pos hzero]
    exact ⟨_, _, by rw [show v / 262144 = 0 by omega], by omega, by omega⟩
  rw [if_neg hzero]
  by_cases hthree : v / 262144 + 240 < 0xF4
  · rw [if_pos hthree]
    exact ⟨_, _, by rw [Nat.add_sub_cancel], by omega, by omega⟩
  rw [if_neg hthree, if_pos (by omega)]
  exact ⟨_, _, by rw [show v / 262144 = 4 by omega], by omega, by omega⟩

section

variable {v : Nat} (rest : List UInt8)

theorem next_two (hlow : 127 < v) (hhigh : v ≤ 2047) :
    next (UInt8.ofNat (v / 64 % 32 + 192)) (UInt8.ofNat (v % 64 + 128) :: rest) = .ok (v, 1) := by
  have hpoint : (v / 64 + 192 - 0xC0) * 64 + (v % 64 + 128 - 0x80) = v := by omega
  rw [next, show v / 64 % 32 = v / 64 by omega, toNat_ofNat (by omega), if_neg (by omega), lead?,
    if_neg (by omega), if_pos (by omega)]
  simp only [follow]
  rw [toNat_ofNat (by omega), if_pos (by omega), hpoint]

theorem next_three (hlow : 2047 < v) (hhigh : v ≤ 65535) (hvalid : v < 0xD800 ∨ 0xDFFF < v) :
    next (UInt8.ofNat (v / 4096 % 16 + 224)) (UInt8.ofNat (v / 64 % 64 + 128) ::
      UInt8.ofNat (v % 64 + 128) :: rest) = .ok (v, 2) := by
  have hpoint :
      (v / 4096 * 64 + (v / 64 % 64 + 128 - 0x80)) * 64 + (v % 64 + 128 - 0x80) = v := by omega
  obtain ⟨lo, hi, hlead, hsecond⟩ := lead?_three hlow hhigh hvalid
  rw [next, show v / 4096 % 16 = v / 4096 by omega, toNat_ofNat (by omega), if_neg (by omega),
    hlead]
  simp only [follow]
  rw [toNat_ofNat (by omega), if_pos hsecond, toNat_ofNat (by omega), if_pos (by omega), hpoint]

theorem next_four (hlow : 65535 < v) (hhigh : v < 0x110000) :
    next (UInt8.ofNat (v / 262144 % 8 + 240)) (UInt8.ofNat (v / 4096 % 64 + 128) ::
      UInt8.ofNat (v / 64 % 64 + 128) :: UInt8.ofNat (v % 64 + 128) :: rest) = .ok (v, 3) := by
  have hpoint : ((v / 262144 * 64 + (v / 4096 % 64 + 128 - 0x80)) * 64 +
      (v / 64 % 64 + 128 - 0x80)) * 64 + (v % 64 + 128 - 0x80) = v := by omega
  obtain ⟨lo, hi, hlead, hsecond⟩ := lead?_four hlow hhigh
  rw [next, show v / 262144 % 8 = v / 262144 by omega, toNat_ofNat (by omega),
    if_neg (by omega), hlead]
  simp only [follow]
  rw [toNat_ofNat (by omega), if_pos hsecond, toNat_ofNat (by omega), if_pos (by omega),
    toNat_ofNat (by omega), if_pos (by omega), hpoint]

end

/-- A character that is written is read again, whatever follows. -/
theorem next_encodeChar (c : Char) (rest : List UInt8) : ∃ b bs, utf8EncodeChar c = b :: bs ∧
    next b (bs ++ rest) = .ok (c.toNat, bs.length) := by
  have hvalid := toNat_range c
  by_cases hone : c.toNat < 128
  · refine ⟨_, [], encodeChar_one hone, ?_⟩
    rw [next, toNat_ofNat (by omega), if_pos hone]
    rfl
  by_cases htwo : c.toNat ≤ 2047
  · exact ⟨_, [_], encodeChar_two (by omega) htwo, next_two rest (by omega) htwo⟩
  by_cases hthree : c.toNat ≤ 65535
  · exact ⟨_, [_, _], encodeChar_three (by omega) hthree,
      next_three rest (by omega) hthree (by omega)⟩
  · exact ⟨_, [_, _, _], encodeChar_four (by omega), next_four rest (by omega) (by omega)⟩

theorem follow_succ_eq_ok {lo hi point taken n v : Nat} {bs : List UInt8}
    (h : follow lo hi point taken (n + 1) bs = .ok v) : ∃ b rest, bs = b :: rest ∧
      (lo ≤ b.toNat ∧ b.toNat ≤ hi) ∧
      follow 0x80 0xBF (point * 64 + (b.toNat - 0x80)) (taken + 1) n rest = .ok v := by
  cases bs with
  | nil => cases h
  | cons b bs =>
    rw [follow] at h
    split at h
    · rename_i hb
      exact ⟨b, bs, rfl, hb, h⟩
    · cases h

/-- What a first byte says. -/
theorem lead?_cases {b n point lo hi : Nat} (h : lead? b = some (n, point, lo, hi)) :
    (n = 1 ∧ 0xC2 ≤ b ∧ b < 0xE0 ∧ point = b - 0xC0 ∧ lo = 0x80 ∧ hi = 0xBF) ∨
    (n = 2 ∧ 0xE0 ≤ b ∧ b < 0xF0 ∧ point = b - 0xE0 ∧ 0x80 ≤ lo ∧ hi ≤ 0xBF ∧
      (b = 0xE0 → 0xA0 ≤ lo) ∧ (b = 0xED → hi ≤ 0x9F)) ∨
    (n = 3 ∧ 0xF0 ≤ b ∧ b ≤ 0xF4 ∧ point = b - 0xF0 ∧ 0x80 ≤ lo ∧ hi ≤ 0xBF ∧
      (b = 0xF0 → 0x90 ≤ lo) ∧ (b = 0xF4 → hi ≤ 0x8F)) := by
  unfold lead? at h
  repeat' split at h
  all_goals simp only [reduceCtorEq, Option.some.injEq, Prod.mk.injEq] at h
  all_goals omega

theorem exists_char {v : Nat} (h : v < 0xD800 ∨ 0xDFFF < v ∧ v < 0x110000) :
    ∃ c : Char, c.toNat = v := ⟨Char.ofNatAux v h, rfl⟩

/-- A character that is read was written. -/
theorem encodeChar_of_next {b : UInt8} {bs : List UInt8} {v n : Nat}
    (h : next b bs = .ok (v, n)) :
    ∃ c : Char, c.toNat = v ∧ b :: bs = utf8EncodeChar c ++ bs.drop n := by
  have hbyte (m : Nat) (a : UInt8) (hm : m = a.toNat) : UInt8.ofNat m = a := by
    rw [hm, UInt8.ofNat_toNat]
  unfold next at h
  split at h
  · cases h
    obtain ⟨c, hc⟩ := exists_char (v := b.toNat) (by omega)
    refine ⟨c, hc, ?_⟩
    rw [encodeChar_one (by omega), hc, UInt8.ofNat_toNat]
    rfl
  split at h
  · cases h
  rename_i n' point lo hi hlead
  split at h
  · cases h
  rename_i point' hfollow
  cases h
  rcases lead?_cases hlead with ⟨rfl, h⟩ | ⟨rfl, h⟩ | ⟨rfl, h⟩
  · obtain ⟨b₁, rest, rfl, h₁, hv⟩ := follow_succ_eq_ok hfollow
    have hpoint := Except.ok.inj hv
    obtain ⟨c, hc⟩ := exists_char (v := v) (by omega)
    refine ⟨c, hc, ?_⟩
    rw [encodeChar_two (by omega) (by omega), hc, hbyte _ b (by omega), hbyte _ b₁ (by omega)]
    rfl
  · obtain ⟨b₁, rest, rfl, h₁, hv⟩ := follow_succ_eq_ok hfollow
    obtain ⟨b₂, rest, rfl, h₂, hv⟩ := follow_succ_eq_ok hv
    have hpoint := Except.ok.inj hv
    obtain ⟨c, hc⟩ := exists_char (v := v) (by omega)
    refine ⟨c, hc, ?_⟩
    rw [encodeChar_three (by omega) (by omega), hc, hbyte _ b (by omega), hbyte _ b₁ (by omega),
      hbyte _ b₂ (by omega)]
    rfl
  · obtain ⟨b₁, rest, rfl, h₁, hv⟩ := follow_succ_eq_ok hfollow
    obtain ⟨b₂, rest, rfl, h₂, hv⟩ := follow_succ_eq_ok hv
    obtain ⟨b₃, rest, rfl, h₃, hv⟩ := follow_succ_eq_ok hv
    have hpoint := Except.ok.inj hv
    obtain ⟨c, hc⟩ := exists_char (v := v) (by omega)
    refine ⟨c, hc, ?_⟩
    rw [encodeChar_four (by omega), hc, hbyte _ b (by omega), hbyte _ b₁ (by omega),
      hbyte _ b₂ (by omega), hbyte _ b₃ (by omega)]
    rfl

theorem next_of_eq_encodeChar {b : UInt8} {bs rest : List UInt8} {c : Char}
    (h : b :: bs = utf8EncodeChar c ++ rest) :
    ∃ n, next b bs = .ok (c.toNat, n) ∧ (utf8EncodeChar c).length = n + 1 ∧ bs.drop n = rest := by
  obtain ⟨b', bs', hchar, hnext⟩ := next_encodeChar c rest
  rw [hchar, List.cons_append] at h
  obtain ⟨rfl, rfl⟩ := List.cons.inj h
  exact ⟨bs'.length, hnext, by rw [hchar, List.length_cons], List.drop_left⟩

/-- No character starts with the bytes of another one. -/
theorem encodeChar_append_inj {c d : Char} {rest rest' : List UInt8}
    (h : utf8EncodeChar c ++ rest = utf8EncodeChar d ++ rest') : c = d ∧ rest = rest' := by
  obtain ⟨b, bs, hchar, -⟩ := next_encodeChar c rest
  have hbytes : b :: (bs ++ rest) = utf8EncodeChar c ++ rest := by rw [hchar, List.cons_append]
  obtain ⟨m, hc, -, hm⟩ := next_of_eq_encodeChar hbytes
  obtain ⟨n, hd, -, hn⟩ := next_of_eq_encodeChar (hbytes.trans h)
  obtain ⟨hsame, rfl⟩ := Prod.mk.inj (Except.ok.inj (hc.symm.trans hd))
  exact ⟨Char.toNat_inj.1 hsame, hm.symm.trans hn⟩

/-! ## Whole texts -/

theorem decodeFrom_encode (cs : List Char) (offset : Nat) :
    decodeFrom offset (cs.flatMap utf8EncodeChar) = .ok cs := by
  induction cs generalizing offset with
  | nil => rw [List.flatMap_nil, decodeFrom]
  | cons c cs ih =>
    obtain ⟨b, bs, hchar, hnext⟩ := next_encodeChar c (cs.flatMap utf8EncodeChar)
    rw [List.flatMap_cons, hchar, List.cons_append, decodeFrom, hnext]
    simp only [List.drop_left, ih, Char.ofNat_toNat]

theorem eq_encode_of_decodeFrom {offset : Nat} {bs : List UInt8} {cs : List Char}
    (h : decodeFrom offset bs = .ok cs) : bs = cs.flatMap utf8EncodeChar := by
  fun_induction decodeFrom offset bs generalizing cs with
  | case1 =>
    cases h
    rfl
  | case2 => cases h
  | case3 => cases h
  | case4 offset b bs point n hnext cs' hrest ih =>
    cases h
    obtain ⟨c, rfl, hbytes⟩ := encodeChar_of_next hnext
    rw [Char.ofNat_toNat, List.flatMap_cons, hbytes, ← ih hrest]

/-- Reading that fails has come to the end of a text behind which no character starts. -/
theorem exists_of_decodeFrom_error {offset : Nat} {bs : List UInt8} {f : Fault}
    (h : decodeFrom offset bs = .error f) :
    ∃ (cs : List Char) (b : UInt8) (rest : List UInt8) (e : Reason × Nat),
      bs = cs.flatMap utf8EncodeChar ++ b :: rest ∧ next b rest = .error e ∧
      f.start = offset + (cs.flatMap utf8EncodeChar).length := by
  fun_induction decodeFrom offset bs with
  | case1 => cases h
  | case2 offset b bs reason n hnext =>
    cases h
    exact ⟨[], b, bs, (reason, n), rfl, hnext, rfl⟩
  | case3 offset b bs point n hnext e hrest ih =>
    cases h
    obtain ⟨c, rfl, hbytes⟩ := encodeChar_of_next hnext
    obtain ⟨cs, b', rest, e', hcs, hstuck, hstart⟩ := ih hrest
    refine ⟨c :: cs, b', rest, e', ?_, hstuck, ?_⟩
    · rw [hbytes, hcs, List.flatMap_cons, List.append_assoc]
    · obtain ⟨m, hm, hlength, -⟩ := next_of_eq_encodeChar hbytes
      obtain ⟨-, rfl⟩ := Prod.mk.inj (Except.ok.inj (hm.symm.trans hnext))
      rw [hstart, List.flatMap_cons, List.length_append, hlength]
      omega
  | case4 => cases h

/-- A text at the start of bytes ends where no character starts, or before. -/
theorem prefix_of_stuck {b : UInt8} {rest : List UInt8} {e : Reason × Nat}
    (hstuck : next b rest = .error e) {cs ds : List Char}
    (h : ds.flatMap utf8EncodeChar <+: cs.flatMap utf8EncodeChar ++ b :: rest) : ds <+: cs := by
  induction ds generalizing cs with
  | nil => exact List.nil_prefix
  | cons d ds ih =>
    obtain ⟨tail, htail⟩ := h
    rw [List.flatMap_cons, List.append_assoc] at htail
    cases cs with
    | nil =>
      obtain ⟨n, hnext, -⟩ := next_of_eq_encodeChar htail.symm
      rw [hstuck] at hnext
      cases hnext
    | cons c cs =>
      rw [List.flatMap_cons, List.append_assoc] at htail
      obtain ⟨rfl, hrest⟩ := encodeChar_append_inj htail
      exact List.cons_prefix_cons.2 ⟨rfl, ih ⟨tail, hrest⟩⟩

/-- The text `p` is the longest one whose bytes stand at the start of `bytes`. -/
structure IsLongest (p : String) (bytes : List UInt8) : Prop where
  starts : encode p <+: bytes
  longest : ∀ q, encode q <+: bytes → q.toList <+: p.toList

theorem IsLongest.unique {p q : String} {bytes : List UInt8} (hp : IsLongest p bytes)
    (hq : IsLongest q bytes) : p = q := by
  have hle := (hq.longest p hp.starts).length_le
  exact String.toList_inj.1 ((hp.longest q hq.starts).eq_of_length_le hle).symm

theorem isLongest_of_next {b : UInt8} {rest : List UInt8} {e : Reason × Nat}
    (hstuck : next b rest = .error e) (p : String) : IsLongest p (encode p ++ b :: rest) := by
  refine ⟨List.prefix_append .., fun q hq => ?_⟩
  rw [encode_eq, encode_eq] at hq
  exact prefix_of_stuck hstuck hq

theorem decode_eq_ok_iff {bytes : List UInt8} {text : String} :
    decode bytes = .ok text ↔ encode text = bytes := by
  rw [decode, map_eq_ok, encode_eq]
  constructor
  · rintro ⟨cs, hcs, rfl⟩
    rw [String.toList_ofList, ← eq_encode_of_decodeFrom hcs]
  · rintro rfl
    exact ⟨text.toList, decodeFrom_encode _ 0, String.ofList_toList⟩

/-- Reading that fails names the first byte behind the longest text. -/
theorem exists_longest_of_decode {bytes : List UInt8} {f : Fault} (h : decode bytes = .error f) :
    ∃ p, IsLongest p bytes ∧ f.start = (encode p).length := by
  obtain ⟨cs, b, rest, e, rfl, hstuck, hstart⟩ := exists_of_decodeFrom_error (map_eq_error.1 h)
  rw [← encode_ofList] at hstart ⊢
  exact ⟨.ofList cs, isLongest_of_next hstuck _, hstart.trans (Nat.zero_add _)⟩

/-! ## Lines and widths -/

/-- A character of several bytes has none of the bytes of other characters. -/
theorem le_of_mem_encodeChar {c : Char} {b : UInt8} (hc : 128 ≤ c.toNat)
    (h : b ∈ utf8EncodeChar c) : 128 ≤ b.toNat := by
  have hbyte (n : Nat) (hlow : 128 ≤ n) (hhigh : n < 256) : 128 ≤ (UInt8.ofNat n).toNat := by
    rw [toNat_ofNat hhigh]
    exact hlow
  by_cases htwo : c.toNat ≤ 2047
  · simp only [encodeChar_two hc htwo, List.mem_cons, List.not_mem_nil, or_false] at h
    obtain rfl | rfl := h <;> exact hbyte _ (by omega) (by omega)
  by_cases hthree : c.toNat ≤ 65535
  · simp only [encodeChar_three (Nat.lt_of_not_le htwo) hthree, List.mem_cons, List.not_mem_nil,
      or_false] at h
    obtain rfl | rfl | rfl := h <;> exact hbyte _ (by omega) (by omega)
  · simp only [encodeChar_four (Nat.lt_of_not_le hthree), List.mem_cons, List.not_mem_nil,
      or_false] at h
    obtain rfl | rfl | rfl | rfl := h <;> exact hbyte _ (by omega) (by omega)

/-- Only a line feed has the byte of a line feed. -/
theorem feed_mem_encodeChar {c : Char} : 10 ∈ utf8EncodeChar c ↔ c = '\n' := by
  constructor
  · intro h
    have hc : c.toNat < 128 := by
      refine Nat.lt_of_not_le fun hc => ?_
      exact absurd (le_of_mem_encodeChar hc h) (by decide)
    rw [encodeChar_one hc, List.mem_singleton] at h
    refine Char.toNat_inj.1 ?_
    rw [← toNat_ofNat (show c.toNat < 256 by omega), ← h]
    rfl
  · rintro rfl
    decide

theorem count_feed_encode (cs : List Char) :
    (cs.flatMap utf8EncodeChar).count 10 = cs.count '\n' := by
  induction cs with
  | nil => rfl
  | cons c cs ih =>
    rw [List.flatMap_cons, List.count_append, ih]
    by_cases hc : c = '\n'
    · subst hc
      rw [List.count_cons_self, show (utf8EncodeChar '\n').count 10 = 1 by decide, Nat.add_comm]
    · have hnone : 10 ∉ utf8EncodeChar c := mt feed_mem_encodeChar.1 hc
      rw [List.count_cons_of_ne hc, List.count_eq_zero.2 hnone, Nat.zero_add]

theorem length_encode_eq_iff {cs : List Char} :
    (cs.flatMap utf8EncodeChar).length = cs.length ↔ ∀ c ∈ cs, c.toNat < 128 := by
  have hle (cs : List Char) : cs.length ≤ (cs.flatMap utf8EncodeChar).length := by
    induction cs with
    | nil => exact Nat.le_refl _
    | cons c cs ih =>
      have := c.utf8Size_pos
      rw [List.flatMap_cons, List.length_append, List.length_cons, String.length_utf8EncodeChar]
      omega
  induction cs with
  | nil => simp
  | cons c cs ih =>
    have hone : c.utf8Size = 1 ↔ c.toNat < 128 :=
      Char.utf8Size_eq_one_iff.trans (Nat.lt_succ_iff (m := c.toNat) (n := 127)).symm
    have := c.utf8Size_pos
    have := hle cs
    rw [List.flatMap_cons, List.length_append, List.length_cons, String.length_utf8EncodeChar,
      List.forall_mem_cons, ← hone]
    constructor
    · intro h
      exact ⟨by omega, ih.1 (by omega)⟩
    · rintro ⟨hc, hcs⟩
      have := ih.2 hcs
      omega

end TypedQuery.Utf8
