import TypedQuery.Archive.Pack

/-!
# Data that is not compressed

Data that is packed into a gzip stream without compressing it is read from the stream again.

* `Archive.takeNumber_bitsOfBytes`: numbers in the bits of bytes.
* `Archive.inflate_storeBlocks`: what blocks stand for that are not compressed.
* `Archive.Gzip.readAll?_store`, `Archive.Gzip.read_store`: reading a stream to its end, or as far as
  needed.
-/

namespace TypedQuery.Archive

/-! ## Numbers in bits -/

theorem bitsOfBytes_cons (b : UInt8) (bytes : List UInt8) :
    bitsOfBytes (b :: bytes) = (List.range 8).map b.toNat.testBit ++ bitsOfBytes bytes :=
  rfl

@[simp] theorem length_bitsOfBytes (bytes : List UInt8) :
    (bitsOfBytes bytes).length = 8 * bytes.length := by
  induction bytes with
  | nil => rfl
  | cons b bytes ih =>
    rw [bitsOfBytes_cons, List.length_append, ih, List.length_map, List.length_range,
      List.length_cons]
    omega

theorem takeNumber_testBit (width n : Nat) (rest : List Bool) :
    takeNumber width ((List.range width).map n.testBit ++ rest) =
      .ok (n % Nat.pow 2 width, rest) := by
  induction width generalizing n with
  | zero =>
    rw [show Nat.pow 2 0 = 1 from rfl, Nat.mod_one]
    rfl
  | succ width ih =>
    have hbits : (List.range (width + 1)).map n.testBit =
        n.testBit 0 :: (List.range width).map (n / 2).testBit := by
      rw [List.range_succ_eq_map, List.map_cons, List.map_map]
      refine congrArg _ (List.map_congr_left fun i _ => ?_)
      exact Nat.testBit_succ n i
    have hpow : Nat.pow 2 (width + 1) = 2 * Nat.pow 2 width := Nat.mul_comm _ _
    rw [hbits, List.cons_append, takeNumber, ih, hpow, Nat.mod_mul, Nat.testBit_zero]
    refine congrArg (fun m => Except.ok (m, rest)) ?_
    rcases Nat.mod_two_eq_zero_or_one n with h | h <;> simp [h, Nat.add_comm]

/-- Numbers are read one after the other. -/
theorem takeNumber_add {width more m n : Nat} {bits rest last : List Bool}
    (h : takeNumber width bits = .ok (m, rest)) (h' : takeNumber more rest = .ok (n, last)) :
    takeNumber (width + more) bits = .ok (m + Nat.pow 2 width * n, last) := by
  induction width generalizing bits m with
  | zero =>
    cases h
    rw [Nat.zero_add, h', show Nat.pow 2 0 = 1 from rfl, Nat.one_mul, Nat.zero_add]
  | succ width ih =>
    cases bits with
    | nil => cases h
    | cons b bits =>
      have hpow : Nat.pow 2 (width + 1) = 2 * Nat.pow 2 width := Nat.mul_comm _ _
      rw [Nat.succ_add, takeNumber]
      rw [takeNumber] at h
      cases hhead : takeNumber width bits with
      | error stop =>
        rw [hhead] at h
        cases h
      | ok r =>
        obtain ⟨k, left⟩ := r
        rw [hhead] at h
        cases h
        rw [ih hhead, hpow]
        refine congrArg (fun m => Except.ok (m, last)) ?_
        rw [Nat.mul_add, Nat.mul_assoc]
        omega

theorem takeNumber_bitsOfBytes (bytes more : List UInt8) :
    takeNumber (8 * bytes.length) (bitsOfBytes (bytes ++ more)) =
      .ok (numberOf bytes, bitsOfBytes more) := by
  induction bytes with
  | nil => rfl
  | cons b bytes ih =>
    have hbyte : takeNumber 8 (bitsOfBytes (b :: bytes ++ more)) =
        .ok (b.toNat, bitsOfBytes (bytes ++ more)) := by
      rw [List.cons_append, bitsOfBytes_cons, takeNumber_testBit]
      rw [Nat.mod_eq_of_lt (show b.toNat < Nat.pow 2 8 from b.toNat_lt)]
    rw [List.length_cons, Nat.mul_succ, Nat.add_comm, takeNumber_add hbyte ih]
    rfl

theorem numberOf_bytesOf (width n : Nat) : numberOf (bytesOf width n) = n % Nat.pow 256 width := by
  induction width generalizing n with
  | zero => exact (Nat.mod_one n).symm
  | succ width ih =>
    have hpow : Nat.pow 256 (width + 1) = 256 * Nat.pow 256 width := Nat.mul_comm _ _
    have hfirst : (UInt8.ofNat n).toNat = n % 256 := UInt8.toNat_ofNat'
    show (UInt8.ofNat n).toNat + 256 * numberOf (bytesOf width (n / 256)) = _
    rw [ih, hpow, Nat.mod_mul, hfirst]

/-! ## Blocks -/

theorem takeBytes_bitsOfBytes (data more : List UInt8) (out : Array UInt8) :
    takeBytes data.length (bitsOfBytes (data ++ more)) out =
      (out ++ data.toArray, .ok (bitsOfBytes more)) := by
  induction data generalizing out with
  | nil => simp [takeBytes]
  | cons b data ih =>
    have hbyte := takeNumber_bitsOfBytes [b] (data ++ more)
    rw [show numberOf [b] = b.toNat by simp [numberOf]] at hbyte
    rw [List.length_cons, takeBytes, List.cons_append,
      show takeNumber 8 (bitsOfBytes (b :: (data ++ more))) = _ from hbyte]
    simp only [UInt8.ofNat_toNat, ih]
    simp

/-- Data in a block that is not compressed, behind the first byte of the block. -/
def storedBlock (data : List UInt8) : List UInt8 :=
  bytesOf 2 data.length ++ bytesOf 2 (longestBlock - data.length) ++ data

/-- One block, behind the bits that its first byte has left over. -/
theorem block_store (data more : List UInt8) (h : data.length ≤ longestBlock) (spare : List Bool)
    (hspare : spare.length < 8) (out : Array UInt8) :
    block 0 (spare ++ bitsOfBytes (storedBlock data ++ more)) out =
      (out ++ data.toArray, .ok (bitsOfBytes more)) := by
  have hlong : longestBlock = 65535 := rfl
  have hnumber (n : Nat) (hn : n ≤ 65535) (bytes : List UInt8) :
      takeNumber 16 (bitsOfBytes (bytesOf 2 n ++ bytes)) = .ok (n, bitsOfBytes bytes) := by
    have hbits := takeNumber_bitsOfBytes (bytesOf 2 n) bytes
    rw [length_bytesOf, numberOf_bytesOf,
      Nat.mod_eq_of_lt (show n < Nat.pow 256 2 from Nat.lt_succ_of_le hn)] at hbits
    exact hbits
  have hbyte (bytes : List UInt8) : toByte (spare ++ bitsOfBytes bytes) = bitsOfBytes bytes := by
    have hmod : (spare ++ bitsOfBytes bytes).length % 8 = spare.length := by
      rw [List.length_append, length_bitsOfBytes]
      omega
    rw [toByte, hmod, List.drop_left]
  have hlength : takePlainLength (spare ++ bitsOfBytes (storedBlock data ++ more)) =
      .ok (data.length, bitsOfBytes (data ++ more)) := by
    have hsum : ¬ data.length + (longestBlock - data.length) ≠ 0xFFFF := by omega
    rw [takePlainLength, hbyte, storedBlock, List.append_assoc, List.append_assoc]
    simp only [bind, Except.bind, hnumber data.length (by omega),
      hnumber (longestBlock - data.length) (by omega)]
    exact if_neg hsum
  rw [block, hlength]
  exact takeBytes_bitsOfBytes data more out

theorem takeBlockHead_store (last : Bool) (bytes : List UInt8) :
    takeBlockHead (bitsOfBytes ((if last then 1 else 0) :: bytes)) =
      .ok (last, 0, List.replicate 5 false ++ bitsOfBytes bytes) := by
  cases last <;> rfl

/-- Data is stored in one block, or in a block of full length and the blocks for what is left. -/
theorem storeBlocks_cases {count : Nat} {data : List UInt8} (h : data.length < count + 1) :
    (data.length ≤ longestBlock ∧ storeBlocks (count + 1) data = 1 :: storedBlock data) ∨
      ∃ first rest, data = first ++ rest ∧ first.length ≤ longestBlock ∧ rest.length < count ∧
        storeBlocks (count + 1) data = 0 :: (storedBlock first ++ storeBlocks count rest) := by
  rw [storeBlocks]
  split
  · rename_i hend
    have hshort : data.length ≤ longestBlock := List.drop_eq_nil_iff.1 (List.isEmpty_iff.1 hend)
    refine .inl ⟨hshort, ?_⟩
    rw [List.take_of_length_le hshort]
    rfl
  · rename_i hmore
    have hlong : longestBlock < data.length :=
      Nat.lt_of_not_le fun hle => hmore (List.isEmpty_iff.2 (List.drop_eq_nil_of_le hle))
    refine .inr ⟨data.take longestBlock, data.drop longestBlock, (List.take_append_drop _ _).symm,
      List.length_take_le _ _, ?_, rfl⟩
    rw [List.length_drop]
    rw [show longestBlock = 65535 from rfl] at hlong ⊢
    omega

theorem blocks_storeBlocks {fuel count : Nat} {data : List UInt8} (h : data.length < count)
    (hfuel : count ≤ fuel) (more : List UInt8) (out : Array UInt8) :
    blocks fuel (bitsOfBytes (storeBlocks count data ++ more)) out =
      (out ++ data.toArray, .ok (bitsOfBytes more)) := by
  induction count generalizing fuel data out with
  | zero => cases h
  | succ count ih =>
    obtain ⟨fuel, rfl⟩ := Nat.exists_eq_succ_of_ne_zero (Nat.ne_of_gt (Nat.lt_of_lt_of_le
      (Nat.succ_pos count) hfuel))
    have hspare : (List.replicate 5 false).length < 8 := by decide
    rcases storeBlocks_cases h with ⟨hshort, heq⟩ | ⟨first, rest, rfl, hfirst, hrest, heq⟩
    · rw [heq, List.cons_append, blocks,
        show takeBlockHead (bitsOfBytes (1 :: _)) = _ from takeBlockHead_store true _]
      simp only [block_store data _ hshort _ hspare, if_true]
    · rw [heq, List.cons_append, List.append_assoc, blocks,
        show takeBlockHead (bitsOfBytes (0 :: _)) = _ from takeBlockHead_store false _]
      simp only [block_store first _ hfirst _ hspare, Bool.false_eq_true, if_false,
        ih hrest (Nat.le_of_succ_le_succ hfuel)]
      rw [Array.append_assoc, List.append_toArray first rest]

theorem length_le_storeBlocks {count : Nat} {data : List UInt8} (h : data.length < count) :
    data.length ≤ (storeBlocks count data).length := by
  induction count generalizing data with
  | zero => cases h
  | succ count ih =>
    rcases storeBlocks_cases h with ⟨-, heq⟩ | ⟨first, rest, rfl, -, hrest, heq⟩
    · rw [heq, List.length_cons, storedBlock, List.length_append]
      omega
    · have hless := ih hrest
      rw [heq, List.length_cons, List.length_append, List.length_append, storedBlock,
        List.length_append]
      omega

/-- Blocks that are not compressed stand for the data in them. -/
theorem inflate_storeBlocks (data more : List UInt8) :
    inflate (storeBlocks (data.length + 1) data ++ more) = ⟨data, .ok more.length⟩ := by
  have hlength := length_le_storeBlocks (Nat.lt_add_one data.length)
  have hfuel : data.length + 1 ≤
      (bitsOfBytes (storeBlocks (data.length + 1) data ++ more)).length + 1 := by
    rw [length_bitsOfBytes, List.length_append]
    omega
  unfold inflate
  dsimp only
  rw [blocks_storeBlocks (Nat.lt_succ_self _) hfuel]
  simp [Except.map]

/-! ## Streams -/

namespace Gzip

theorem skipTrailer_trailer (data : List UInt8) : skipTrailer data (trailer data) = .ok [] := by
  have hsum : checksum data < 4294967296 := UInt32.toNat_lt _
  have hfirst : numberAt 0 4 (trailer data) = checksum data := by
    rw [numberAt, trailer, List.drop_zero, List.take_left' (length_bytesOf 4 _), numberOf_bytesOf]
    exact Nat.mod_eq_of_lt hsum
  have hsecond : numberAt 4 4 (trailer data) = data.length % 4294967296 := by
    rw [numberAt, trailer, List.drop_left' (length_bytesOf 4 _),
      List.take_of_length_le (Nat.le_of_eq (length_bytesOf 4 _)), numberOf_bytesOf]
  have hskip : skip 8 (trailer data) = .ok [] := by simp [skip, trailer]
  rw [skipTrailer, hskip, hfirst, hsecond]
  simp [bind, Except.bind, pure, Except.pure]

/-- The header of a stream, and what is behind it. -/
theorem skipHeader_store (data : List UInt8) :
    skipHeader (store data) = .ok (some (storeBlocks (data.length + 1) data ++ trailer data)) := by
  have hskip (bytes : List UInt8) : skip 8 (8 :: 0 :: 0 :: 0 :: 0 :: 0 :: 0 :: 0xFF :: bytes) =
      .ok bytes := by
    simp [skip]
  have hflags (bytes : List UInt8) : numberAt 1 1 (8 :: 0 :: bytes) = 0 := by
    simp [numberAt, numberOf]
  have hoptions (bytes : List UInt8) : skipOptions 0 bytes = .ok bytes := by
    simp [skipOptions, bind, Except.bind, pure, Except.pure]
  rw [store]
  simp only [List.cons_append, List.nil_append, skipHeader, hskip, hflags]
  simp [bind, Except.bind, pure, Except.pure, hoptions]

/-- Behind its blocks, a stream goes on with what they do not use. -/
theorem drop_length_sub (blocks rest : List UInt8) :
    (blocks ++ rest).drop ((blocks ++ rest).length - rest.length) = rest := by
  rw [List.length_append, Nat.add_sub_cancel, List.drop_left]

theorem length_store (data : List UInt8) : ∃ n, (store data).length = n + 1 :=
  ⟨_, rfl⟩

/-- What is stored is read again. -/
theorem readAll?_store (data : List UInt8) : readAll? (store data) = some data := by
  obtain ⟨n, hn⟩ := length_store data
  rw [readAll?, hn, readWhole?, skipHeader_store]
  simp only [inflate_storeBlocks, Except.toOption, Option.bind_eq_bind, Option.bind_some,
    drop_length_sub, skipTrailer_trailer]
  rfl

/-- Reading stops as soon as there is enough. -/
theorem read_store (count : Nat) (data : List UInt8) :
    read count (store data) = .ok (data.take count) := by
  obtain ⟨n, hn⟩ := length_store data
  have hparts : readParts (n + 1 + 1) count (store data) [] = .ok data := by
    rw [readParts, skipHeader_store]
    simp only [bind, Except.bind, inflate_storeBlocks, drop_length_sub, skipTrailer_trailer,
      List.nil_append]
    split
    · rfl
    · rfl
  rw [read, hn, hparts]
  rfl

end Gzip

end TypedQuery.Archive
