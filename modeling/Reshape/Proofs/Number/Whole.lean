import Reshape.Proofs.Number.Shortest

namespace Reshape.Binary64

/-- Past the middle between two whole numbers the quotient is rounded up. -/
theorem lt_divideEven {num den k : ℕ} (hd : 0 < den) (h : (2 * k + 1) * den < 2 * num) :
    k < divideEven num den := by
  have hdiv : den * (num / den) + num % den = num := Nat.div_add_mod num den
  have hmod : num % den < den := Nat.mod_lt num hd
  by_cases hlt : k < num / den
  · rcases divideEven_eq_or num den with hq | hq
    · omega
    · omega
  · have hq : num / den = k := by
      by_contra hne
      have hnext : den * (num / den + 1) ≤ den * k := Nat.mul_le_mul_left den (by omega)
      linarith
    rw [hq] at hdiv
    have hhalf : den < 2 * (num % den) := by linarith
    unfold divideEven
    simp only [hq, gt_iff_lt, hhalf, decide_true, Bool.true_or, if_true]
    omega

theorem le_divideEven {num den m : ℕ} (hd : 0 < den) (h : m * den ≤ num) :
    m ≤ divideEven num den := by
  have hq : m ≤ num / den := (Nat.le_div_iff_mul_le hd).2 h
  rcases divideEven_eq_or num den with he | he
  · omega
  · omega

variable {m k : ℕ}

structure Normal (m : ℕ) : Prop where
  low : fractionLimit ≤ m
  high : m < 2 * fractionLimit

/-- A higher unit alone has a higher bit pattern. -/
theorem magnitude_lt_of_unit {m' q : ℕ} (hm : Normal m) (hm' : fractionLimit ≤ m') (h : k < q) :
    magnitude m k < magnitude m' q := by
  have hhigh := hm.high
  unfold magnitude fractionLimit at *
  omega

theorem magnitude_lt_top (hm : Normal m) (hk : k ≤ 971) :
    magnitude m k < 2047 * fractionLimit := by
  have hhigh := hm.high
  unfold magnitude fractionLimit at *
  omega

theorem mod_withSign {b : ℕ} (hb : b < signBit) (negative : Bool) :
    (withSign negative b).bits.toNat % signBit = b := by
  unfold withSign
  unfold signBit at *
  rw [UInt64.toNat_ofNat']
  split <;> omega

theorem negative_withSign {b : ℕ} (hb : b < signBit) (negative : Bool) :
    (withSign negative b).negative = negative := by
  unfold withSign Binary64.negative
  unfold signBit at *
  rw [UInt64.toNat_ofNat']
  cases negative with
  | false => simp only [Bool.false_eq_true, if_false, decide_eq_false_iff_not]; omega
  | true => simp only [if_true, decide_eq_true_eq]; omega

theorem floorMagnitude_of_nonneg {f : Binary64} (h : 0 ≤ f.scale) :
    f.floorMagnitude = f.mantissa * 2 ^ f.scale.toNat := by
  unfold floorMagnitude ratio
  rw [if_pos h]
  exact Nat.div_one _

/-- The order of bit patterns is the order of the numbers. -/
theorem lt_floorMagnitude (hm : Normal m) {f : Binary64} (hf : f.isFinite = true)
    (h : magnitude m k < f.bits.toNat % signBit) : m * 2 ^ k < f.floorMagnitude := by
  have hz : f.isZero = false := by
    unfold isZero
    rw [decide_eq_false_iff_not]
    omega
  have hl := legal_of_isFinite hf hz
  obtain ⟨hlow, hhigh⟩ := hm
  have hbounded := hl.bounded
  rw [← magnitude_eq hf] at h
  -- a higher bit pattern has no lower exponent
  have hscale : (k : ℤ) ≤ f.scale := by
    unfold magnitude fractionLimit at *
    omega
  obtain ⟨s, hs⟩ := Int.eq_ofNat_of_zero_le (le_trans (Int.natCast_nonneg k) hscale)
  rw [floorMagnitude_of_nonneg (by omega), hs, Int.toNat_natCast]
  rw [hs] at h
  by_cases heq : s = k
  · subst heq
    have hlt : m < f.mantissa := by
      unfold magnitude at h
      omega
    exact Nat.mul_lt_mul_of_pos_right hlt (by positivity)
  · have hnormal : fractionLimit ≤ f.mantissa := by
      rcases hl.normal with hsub | hnormal
      · omega
      · exact hnormal
    calc m * 2 ^ k < 2 * fractionLimit * 2 ^ k :=
          Nat.mul_lt_mul_of_pos_right hhigh (by positivity)
      _ = fractionLimit * 2 ^ (k + 1) := by ring
      _ ≤ f.mantissa * 2 ^ s := Nat.mul_le_mul hnormal (Nat.pow_le_pow_right (by decide) (by omega))

theorem floorLog2_one {n : ℕ} (hn : 0 < n) : floorLog2 n 1 = Nat.log2 n := by
  obtain ⟨hlow, hhigh⟩ := cast_log2_bounds hn
  exact floorLog2_eq hn Nat.one_pos (by simpa using hlow) (by simpa using hhigh)

theorem negative_ofRatio (negative : Bool) (num den : ℕ) :
    (ofRatio negative num den).negative = negative := by
  unfold ofRatio
  split
  · exact negative_withSign (by decide) negative
  · refine negative_withSign (lt_of_le_of_lt (Nat.min_le_right _ _) (by decide)) negative

theorem ofRatio_one {n q : ℕ} (hn : 0 < n) (hq : Nat.log2 n = q + 52) (negative : Bool) :
    ofRatio negative n 1 =
      withSign negative (min (magnitude (divideEven n (2 ^ q)) q) (2047 * fractionLimit)) := by
  have hunit : max (floorLog2 n 1 - 52) (-1074) = (q : ℤ) := by
    rw [floorLog2_one hn, hq]
    omega
  unfold ofRatio
  rw [if_neg (by omega), hunit]
  simp only [Int.natCast_nonneg, if_true, Int.toNat_natCast, one_mul]
  rfl

/-- Past the middle above `m * 2 ^ k` the rounded number has a higher bit pattern. -/
theorem magnitude_lt_ofRatio {n : ℕ} (hm : Normal m) (hk : k ≤ 971)
    (h : (2 * m + 1) * 2 ^ k < 2 * n) (negative : Bool) :
    magnitude m k < (ofRatio negative n 1).bits.toNat % signBit := by
  have hpow : fractionLimit * 2 ^ k ≤ n := by
    have hpos : 0 < 2 ^ k := by positivity
    have := Nat.mul_le_mul_right (2 ^ k) hm.low
    linarith
  have hn : 0 < n := lt_of_lt_of_le (by unfold fractionLimit; positivity) hpow
  have hlog : k + 52 ≤ Nat.log2 n := by
    rw [Nat.le_log2 (by omega), pow_add, mul_comm]
    exact hpow
  obtain ⟨q, hq⟩ : ∃ q, Nat.log2 n = q + 52 := ⟨Nat.log2 n - 52, by omega⟩
  have hunit : fractionLimit * 2 ^ q ≤ n := by
    have hself := Nat.log2_self_le (n := n) (by omega)
    rwa [hq, pow_add, mul_comm] at hself
  have hround := le_divideEven (Nat.two_pow_pos q) hunit
  -- in the same unit the quotient is larger, and in a larger unit any pattern is higher
  have hlt : magnitude m k < magnitude (divideEven n (2 ^ q)) q := by
    by_cases heq : q = k
    · subst heq
      have := lt_divideEven (Nat.two_pow_pos q) h
      unfold magnitude
      omega
    · exact magnitude_lt_of_unit hm hround (by omega)
  -- what is too large becomes infinity, whose pattern is higher still
  have hsign : min (magnitude (divideEven n (2 ^ q)) q) (2047 * fractionLimit) < signBit :=
    lt_of_le_of_lt (Nat.min_le_right _ _) (by decide)
  rw [ofRatio_one hn hq, mod_withSign hsign]
  exact lt_min hlt (magnitude_lt_top hm hk)

theorem isFinite_infinity (negative : Bool) : (infinity negative).isFinite = false := by
  cases negative <;> decide

/-- The whole numbers from `m * 2 ^ k` up to the middle above it are read as that number; the
middle itself because `m` is even. -/
theorem ofDecimal_of_le_middle {n : ℕ} (hm : Normal m) (heven : m % 2 = 0) (hk : k ≤ 971)
    (hlow : m * 2 ^ k ≤ n) (hhigh : 2 * n ≤ (2 * m + 1) * 2 ^ k) (negative : Bool) :
    ofDecimal negative n 0 = withSign negative (magnitude m k) := by
  obtain ⟨hbottom, htop⟩ := hm
  have hpos : 0 < m := by
    unfold fractionLimit at hbottom
    omega
  have hlegal : Legal m k := ⟨hpos, htop, by omega, by omega, .inr hbottom⟩
  have hreach : 0 ≤ reach m k := by
    unfold reach
    split <;> norm_num
  have hlowq : (m : ℚ) * 2 ^ k ≤ n := by exact_mod_cast hlow
  have hhighq : 2 * (n : ℚ) ≤ (2 * m + 1) * 2 ^ k := by exact_mod_cast hhigh
  have hpow : (0 : ℚ) < 2 ^ k := by positivity
  refine ofDecimal_eq hlegal ⟨?_, ?_, fun hodd => by omega⟩ (by decide) negative
  · rw [zpow_zero, mul_one, zpow_natCast]
    nlinarith
  · rw [zpow_zero, mul_one, zpow_natCast]
    linarith

/-- A whole number past the middle above `m * 2 ^ k` is read as more than `m * 2 ^ k`, if as a
finite number at all. -/
theorem lt_floorMagnitude_ofDecimal {n : ℕ} (hm : Normal m) (hk : k ≤ 971)
    (h : (2 * m + 1) * 2 ^ k < 2 * n) {negative : Bool}
    (hf : (ofDecimal negative n 0).isFinite = true) :
    (ofDecimal negative n 0).negative = negative ∧
      m * 2 ^ k < (ofDecimal negative n 0).floorMagnitude := by
  have hn : n ≠ 0 := by
    rintro rfl
    omega
  have hratio : ofDecimal negative n 0 = ofRatio negative n 1 := by
    unfold ofDecimal at hf ⊢
    simp only [if_neg hn] at hf ⊢
    split at hf
    · exact absurd hf (by simp [isFinite_infinity])
    · next hplaces =>
      rw [if_neg hplaces, if_neg (by omega), if_pos (by decide)]
      exact congrArg (ofRatio negative · 1) (Nat.mul_one n)
  rw [hratio] at hf ⊢
  exact ⟨negative_ofRatio negative n 1,
    lt_floorMagnitude hm hf (magnitude_lt_ofRatio hm hk h negative)⟩

end Reshape.Binary64
