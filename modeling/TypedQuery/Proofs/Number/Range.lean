import TypedQuery.Number.Binary64

/-!
# Integers as doubles

Which integers have a nearest double: those that lie below the middle between the largest finite
double and the next power of two.

* `Binary64.ofInt?_isSome`: this, as a bound.
-/

namespace TypedQuery.Binary64

theorem mantissas_eq : mantissas = 9007199254740992 := rfl

/-! ## Powers of two -/

theorem zero_lt_two_pow (k : Nat) : 0 < Nat.pow 2 k := Nat.two_pow_pos k

theorem two_pow_mono {j k : Nat} (h : j ≤ k) : Nat.pow 2 j ≤ Nat.pow 2 k :=
  Nat.pow_le_pow_right (by decide) h

theorem two_pow_le {n k : Nat} (hn : n ≠ 0) (h : k ≤ n.log2) : Nat.pow 2 k ≤ n :=
  Nat.le_trans (two_pow_mono h) (Nat.log2_self_le hn)

theorem lt_two_pow {n k : Nat} (h : n.log2 < k) : n < Nat.pow 2 k :=
  Nat.lt_of_lt_of_le Nat.lt_log2_self (two_pow_mono h)

theorem two_pow_of_eq_add {j i k : Nat} (h : j = i + k) :
    Nat.pow 2 j = Nat.pow 2 i * Nat.pow 2 k := by
  subst h
  exact Nat.pow_add 2 i k

theorem two_pow_of_eq_succ {j k : Nat} (h : j = k + 1) : Nat.pow 2 j = 2 * Nat.pow 2 k := by
  rw [two_pow_of_eq_add h, Nat.mul_comm]

/-! ## Exponents -/

theorem scaled_of_nonneg (n k : Nat) : scaled n 1 k = (n, Nat.pow 2 k) := by
  simp [scaled]

/-- The leading bit of an integer decides its exponent. -/
theorem exponentOf_one {n : Nat} (hn : n ≠ 0) : exponentOf n 1 = (n.log2 : Int) - 52 := by
  have hlow : Nat.pow 2 n.log2 ≤ n := two_pow_le hn (Nat.le_refl _)
  have hone : Nat.log2 1 = 0 := by decide
  have hmax : max minExponent (Int.ofNat n.log2 - Int.ofNat (Nat.log2 1) - 53) =
      (n.log2 : Int) - 53 := by
    simp only [minExponent, hone, Int.ofNat_eq_natCast]
    omega
  have hbits : mantissas ≤ (scaled n 1 ((n.log2 : Int) - 53)).1 /
      (scaled n 1 ((n.log2 : Int) - 53)).2 := by
    by_cases h : 53 ≤ n.log2
    · obtain ⟨k, hk⟩ := Nat.exists_eq_add_of_le h
      have he : (n.log2 : Int) - 53 = (k : Nat) := by omega
      rw [he, scaled_of_nonneg]
      show mantissas ≤ n / Nat.pow 2 k
      rw [Nat.le_div_iff_mul_le (zero_lt_two_pow k)]
      calc mantissas * Nat.pow 2 k = Nat.pow 2 n.log2 := (two_pow_of_eq_add hk).symm
        _ ≤ n := hlow
    · obtain ⟨k, hk⟩ := Nat.exists_eq_add_of_le (Nat.le_of_not_le h)
      have hneg : ¬ (0 : Int) ≤ (n.log2 : Int) - 53 := by omega
      have he : (-((n.log2 : Int) - 53)).toNat = k := by omega
      rw [scaled, if_neg hneg, he]
      show mantissas ≤ n * Nat.pow 2 k / 1
      rw [Nat.div_one]
      calc mantissas = Nat.pow 2 n.log2 * Nat.pow 2 k := two_pow_of_eq_add hk
        _ ≤ n * Nat.pow 2 k := Nat.mul_le_mul_right _ hlow
  simp only [exponentOf, hmax]
  rw [if_pos hbits]
  omega

/-! ## Rounding -/

/-- Below `2 ^ 53` steps of width `2 * d`, rounding goes all the way up from half a step before. -/
theorem roundHalfEven_eq_mantissas {n d : Nat} (h : n < mantissas * (2 * d)) :
    roundHalfEven n (2 * d) = mantissas ↔ mantissas * (2 * d) - d ≤ n := by
  have hd : 0 < 2 * d := Nat.pos_of_ne_zero fun h0 => by rw [h0] at h; omega
  have hn := Nat.div_add_mod n (2 * d)
  have hr := Nat.mod_lt n hd
  have hq : n / (2 * d) < mantissas := (Nat.div_lt_iff_lt_mul hd).2 h
  simp only [roundHalfEven, mantissas_eq] at *
  generalize n / (2 * d) = q at *
  generalize n % (2 * d) = r at *
  rcases Nat.lt_or_eq_of_le (Nat.le_of_lt_succ hq) with hlt | rfl
  · have hle : 2 * d * (q + 1) ≤ 2 * d * 9007199254740991 := Nat.mul_le_mul_left _ hlt
    rw [Nat.mul_add] at hle
    constructor
    · intro hup
      split at hup <;> omega
    · intro hup
      omega
  · constructor
    · intro hup
      split at hup <;> omega
    · intro hup
      rw [if_pos (by omega)]

/-- An integer is too large if its leading bit is, or if rounding carries into the next one. -/
theorem ofRatio_one_eq_infinite {negative : Bool} {n k : Nat} (hk : k = 971) (hn : n ≠ 0) :
    ofRatio negative n 1 = .infinite negative ↔
      1023 < n.log2 ∨ (n.log2 = 1023 ∧ roundHalfEven n (Nat.pow 2 k) = mantissas) := by
  have htop (hlog : n.log2 = 1023) : scaled n 1 ((n.log2 : Int) - 52) = (n, Nat.pow 2 k) := by
    have he : (n.log2 : Int) - 52 = (k : Nat) := by omega
    rw [he, scaled_of_nonneg]
  simp only [ofRatio, if_neg hn, exponentOf_one hn, maxExponent]
  by_cases hm : roundHalfEven (scaled n 1 ((n.log2 : Int) - 52)).1
      (scaled n 1 ((n.log2 : Int) - 52)).2 = mantissas
  · simp only [if_pos hm, ite_eq_left_iff, reduceCtorEq, imp_false, Decidable.not_not]
    constructor
    · intro h
      rcases Nat.lt_or_ge 1023 n.log2 with hlog | hlog
      · exact .inl hlog
      · have hlog : n.log2 = 1023 := by omega
        rw [htop hlog] at hm
        exact .inr ⟨hlog, hm⟩
    · omega
  · simp only [if_neg hm, ite_eq_left_iff, reduceCtorEq, imp_false, Decidable.not_not]
    constructor
    · omega
    · rintro (hlog | ⟨hlog, hround⟩)
      · omega
      · rw [htop hlog] at hm
        exact absurd hround hm

/-- What lies below a power of two by another one. -/
def below (j k : Nat) : Nat := Nat.pow 2 j - Nat.pow 2 k

/-- The middle between the largest finite double and the power of two behind it. -/
def overflow : Nat := below 1024 970

/-- The same as a bound. The exponents are variables, since the powers are too large to compute. -/
theorem ofRatio_one_eq_infinite_iff_le {j k : Nat} (hj : j = 1024) (hk : k = 970)
    (negative : Bool) (n : Nat) :
    ofRatio negative n 1 = .infinite negative ↔ below j k ≤ n := by
  rw [below]
  have hpos := zero_lt_two_pow k
  have hhalf : Nat.pow 2 j = 2 * Nat.pow 2 (j - 1) := two_pow_of_eq_succ (by omega)
  have hstep : Nat.pow 2 (k + 1) = 2 * Nat.pow 2 k := two_pow_of_eq_succ rfl
  have htop : Nat.pow 2 j = mantissas * Nat.pow 2 (k + 1) :=
    two_pow_of_eq_add (i := 53) (by omega)
  have hgap : Nat.pow 2 k ≤ Nat.pow 2 (j - 1) := two_pow_mono (by omega)
  by_cases hn : n = 0
  · have hlt : ¬ Nat.pow 2 j - Nat.pow 2 k ≤ n := by omega
    rw [ofRatio, if_pos hn, zero]
    simpa using hlt
  · rw [ofRatio_one_eq_infinite (k := k + 1) (by omega) hn]
    rcases Nat.lt_trichotomy n.log2 1023 with hlog | hlog | hlog
    · have hsmall : n < Nat.pow 2 (j - 1) := lt_two_pow (by omega)
      exact ⟨fun h => by omega, fun h => by omega⟩
    · have hlt : n < mantissas * (2 * Nat.pow 2 k) := by
        rw [← hstep, ← htop]
        exact lt_two_pow (by omega)
      rw [hstep, roundHalfEven_eq_mantissas hlt, htop, hstep]
      constructor
      · rintro (h | ⟨-, h⟩)
        · omega
        · exact h
      · exact fun h => .inr ⟨hlog, h⟩
    · have hbig : Nat.pow 2 j ≤ n := two_pow_le hn (by omega)
      exact ⟨fun _ => Nat.le_trans (Nat.sub_le _ _) hbig, fun _ => .inl hlog⟩

theorem sign_of_ofRatio {negative sign : Bool} {n d : Nat}
    (h : ofRatio negative n d = .infinite sign) : sign = negative := by
  simp only [ofRatio, zero] at h
  split at h
  · cases h
  · generalize (if _ = mantissas then _ else _ : Nat × Int) = rounded at h
    split at h
    · cases h
      rfl
    · cases h

/-- An integer has a nearest double exactly if it is below the middle between the largest finite
double and the power of two behind it. -/
theorem ofInt?_isSome {i : Int} : (ofInt? i).isSome ↔ i.natAbs < overflow := by
  have hbound : ofRatio (i < 0) i.natAbs 1 = .infinite (i < 0) ↔ overflow ≤ i.natAbs :=
    ofRatio_one_eq_infinite_iff_le rfl rfl (i < 0) i.natAbs
  rw [← Nat.not_le, ← hbound, ofInt?]
  split
  · rename_i sign h
    simp [h, sign_of_ofRatio h]
  · rename_i h
    simpa using h _

end TypedQuery.Binary64
