import Mathlib.Algebra.Order.Field.Power
import Mathlib.Algebra.Order.Field.Rat
import Mathlib.Tactic.FieldSimp
import Mathlib.Tactic.Linarith
import Mathlib.Tactic.Positivity
import Mathlib.Tactic.Ring
import Reshape.Number.Binary64

namespace Reshape.Binary64

/-- The reals that round to the whole number `m`. -/
structure RoundsTo (x : ℚ) (m : ℕ) : Prop where
  lower : (m : ℚ) - 1 / 2 ≤ x
  upper : x ≤ m + 1 / 2
  even : m % 2 = 1 → (m : ℚ) - 1 / 2 < x ∧ x < m + 1 / 2

/-- What it says of a fraction, in whole numbers. -/
theorem RoundsTo.bounds {num den m : ℕ} (hd : 0 < den) (h : RoundsTo ((num : ℚ) / den) m) :
    2 * m * den ≤ 2 * num + den ∧ 2 * num ≤ 2 * m * den + den ∧
      (m % 2 = 1 → 2 * m * den < 2 * num + den ∧ 2 * num < 2 * m * den + den) := by
  have hdq : (0 : ℚ) < den := by exact_mod_cast hd
  refine ⟨?_, ?_, ?_⟩
  · have hl := h.lower
    rw [le_div_iff₀ hdq] at hl
    have : (2 * m * den : ℚ) ≤ 2 * num + den := by linarith
    exact_mod_cast this
  · have hu := h.upper
    rw [div_le_iff₀ hdq] at hu
    have : (2 * num : ℚ) ≤ 2 * m * den + den := by linarith
    exact_mod_cast this
  · intro hm
    obtain ⟨hl, hu⟩ := h.even hm
    rw [lt_div_iff₀ hdq] at hl
    rw [div_lt_iff₀ hdq] at hu
    have hl' : (2 * m * den : ℚ) < 2 * num + den := by linarith
    have hu' : (2 * num : ℚ) < 2 * m * den + den := by linarith
    exact ⟨by exact_mod_cast hl', by exact_mod_cast hu'⟩

theorem divideEven_eq {num den m : ℕ} (hd : 0 < den) (h : RoundsTo ((num : ℚ) / den) m) :
    divideEven num den = m := by
  obtain ⟨hlower, hupper, hodd⟩ := h.bounds hd
  have hdiv : den * (num / den) + num % den = num := Nat.div_add_mod num den
  have hmod : num % den < den := Nat.mod_lt num hd
  -- the quotient is rounded down, so the number is it or the next
  have hcases : m = num / den ∨ m = num / den + 1 := by
    have hle : ¬num / den + 2 ≤ m := by
      intro hge
      have := Nat.mul_le_mul_right den hge
      linarith
    have hge : ¬m + 1 ≤ num / den := by
      intro hle
      have := Nat.mul_le_mul_right den hle
      have := Nat.zero_le (num % den)
      linarith
    omega
  -- the products are opaque to `omega`, so they have to agree as terms
  have htwice : 2 * num = 2 * (num / den) * den + 2 * (num % den) := by
    linarith
  unfold divideEven
  simp only [gt_iff_lt, Bool.or_eq_true, Bool.and_eq_true, decide_eq_true_eq]
  rcases hcases with hm | hm
  · rw [hm] at hupper hodd
    rw [if_neg, hm]
    rintro (hbig | ⟨hhalf, hq⟩)
    · omega
    · have := (hodd hq).2
      omega
  · rw [hm] at hlower hodd
    have hnext : 2 * (num / den + 1) * den = 2 * (num / den) * den + 2 * den := by
      ring
    rw [if_pos, hm]
    by_cases hbig : den < 2 * (num % den)
    · exact .inl hbig
    · refine .inr ⟨by omega, ?_⟩
      by_contra hq
      have := (hodd (by omega)).1
      omega

theorem cast_pow_toNat {q : ℤ} (hq : 0 ≤ q) (b : ℕ) : ((b ^ q.toNat : ℕ) : ℚ) = (b : ℚ) ^ q := by
  obtain ⟨n, rfl⟩ := Int.eq_ofNat_of_zero_le hq
  simp

theorem cast_pow_toNat_neg {q : ℤ} (hq : ¬0 ≤ q) (b : ℕ) :
    ((b ^ (-q).toNat : ℕ) : ℚ) = ((b : ℚ) ^ q)⁻¹ := by
  rw [cast_pow_toNat (by omega), zpow_neg]

theorem below_iff {num den b : ℕ} (hd : 0 < den) (hb : 0 < b) (k : ℤ) :
    (if 0 ≤ k then num < den * Nat.pow b k.toNat else num * Nat.pow b (-k).toNat < den) ↔
      (num : ℚ) / den < (b : ℚ) ^ k := by
  have hdq : (0 : ℚ) < den := by exact_mod_cast hd
  have hbq : (0 : ℚ) < (b : ℚ) ^ k := by positivity
  rw [div_lt_iff₀ hdq]
  split
  · next hk =>
    rw [← Nat.cast_lt (α := ℚ), Nat.cast_mul]
    rw [show ((Nat.pow b k.toNat : ℕ) : ℚ) = (b : ℚ) ^ k from cast_pow_toNat hk b, mul_comm]
  · next hk =>
    rw [← Nat.cast_lt (α := ℚ), Nat.cast_mul]
    rw [show ((Nat.pow b (-k).toNat : ℕ) : ℚ) = ((b : ℚ) ^ k)⁻¹ from cast_pow_toNat_neg hk b]
    rw [← div_eq_mul_inv, div_lt_iff₀ hbq, mul_comm]

theorem exists_power {b : ℕ} (hb : 0 < b) (k : ℤ) : ∃ up down : ℕ, 0 < up ∧ 0 < down ∧
    (if 0 ≤ k then (Nat.pow b k.toNat, 1) else (1, Nat.pow b (-k).toNat)) = (up, down) ∧
      (up : ℚ) / down = (b : ℚ) ^ k := by
  by_cases h : 0 ≤ k
  · refine ⟨Nat.pow b k.toNat, 1, Nat.pow_pos hb, by decide, if_pos h, ?_⟩
    rw [Nat.cast_one, div_one]
    exact cast_pow_toNat h b
  · refine ⟨1, Nat.pow b (-k).toNat, by decide, Nat.pow_pos hb, if_neg h, ?_⟩
    have hcast : ((Nat.pow b (-k).toNat : ℕ) : ℚ) = ((b : ℚ) ^ k)⁻¹ := cast_pow_toNat_neg h b
    rw [hcast, Nat.cast_one, one_div, inv_inv]

theorem cast_log2_bounds {n : ℕ} (hn : 0 < n) :
    (2 : ℚ) ^ (Nat.log2 n : ℤ) ≤ n ∧ (n : ℚ) < 2 ^ ((Nat.log2 n : ℤ) + 1) := by
  refine ⟨?_, by exact_mod_cast Nat.lt_log2_self (n := n)⟩
  rw [zpow_natCast]
  exact_mod_cast Nat.log2_self_le (by omega)

theorem floorLog2_spec {num den : ℕ} (hn : 0 < num) (hd : 0 < den) :
    (2 : ℚ) ^ floorLog2 num den ≤ (num : ℚ) / den ∧
      (num : ℚ) / den < (2 : ℚ) ^ (floorLog2 num den + 1) := by
  have hdq : (0 : ℚ) < den := by exact_mod_cast hd
  obtain ⟨hnlow, hnhigh⟩ := cast_log2_bounds hn
  obtain ⟨hdlow, hdhigh⟩ := cast_log2_bounds hd
  obtain ⟨k, hk⟩ : ∃ k : ℤ, k = (Nat.log2 num : ℤ) - Nat.log2 den := ⟨_, rfl⟩
  have hlow : (2 : ℚ) ^ (k - 1) ≤ (num : ℚ) / den := by
    rw [le_div_iff₀ hdq]
    calc (2 : ℚ) ^ (k - 1) * den ≤ 2 ^ (k - 1) * 2 ^ ((Nat.log2 den : ℤ) + 1) := by
          gcongr
      _ = 2 ^ (Nat.log2 num : ℤ) := by
          rw [← zpow_add₀ two_ne_zero, hk]
          congr 1
          ring
      _ ≤ num := hnlow
  have hhigh : (num : ℚ) / den < 2 ^ (k + 1) := by
    rw [div_lt_iff₀ hdq]
    calc (num : ℚ) < 2 ^ ((Nat.log2 num : ℤ) + 1) := hnhigh
      _ = 2 ^ (k + 1) * 2 ^ (Nat.log2 den : ℤ) := by
          rw [← zpow_add₀ two_ne_zero, hk]
          congr 1
          ring
      _ ≤ 2 ^ (k + 1) * den := by
          gcongr
  -- the difference of the logarithms is the exponent or one too many
  have hdef : floorLog2 num den =
      if (if 0 ≤ k then num < den * Nat.pow 2 k.toNat
        else num * Nat.pow 2 (-k).toNat < den) then k - 1 else k := by
    subst hk
    rfl
  rw [hdef, if_congr (below_iff hd (by decide) k) rfl rfl]
  by_cases hsmall : (num : ℚ) / den < (2 : ℕ) ^ k
  · rw [if_pos hsmall, sub_add_cancel]
    exact ⟨hlow, hsmall⟩
  · rw [if_neg hsmall]
    exact ⟨not_lt.1 hsmall, hhigh⟩

/-- The exponent is the only one whose powers enclose the fraction. -/
theorem floorLog2_eq {num den : ℕ} (hn : 0 < num) (hd : 0 < den) {k : ℤ}
    (hlow : (2 : ℚ) ^ k ≤ (num : ℚ) / den) (hhigh : (num : ℚ) / den < (2 : ℚ) ^ (k + 1)) :
    floorLog2 num den = k := by
  obtain ⟨hl, hh⟩ := floorLog2_spec hn hd
  have h1 : (2 : ℚ) ^ k < 2 ^ (floorLog2 num den + 1) := lt_of_le_of_lt hlow hh
  have h2 : (2 : ℚ) ^ floorLog2 num den < 2 ^ (k + 1) := lt_of_le_of_lt hl hhigh
  rw [zpow_lt_zpow_iff_right₀ one_lt_two] at h1 h2
  omega

/-- How far below a number its reals reach, in quarters of its unit: half as far where the numbers
below lie twice as close. -/
def reach (m : ℕ) (s : ℤ) : ℚ := if m = fractionLimit ∧ -1074 < s then 1 / 4 else 1 / 2

/-- The reals that round to `m * 2 ^ s`. -/
structure Near (x : ℚ) (m : ℕ) (s : ℤ) : Prop where
  lower : (m - reach m s) * 2 ^ s ≤ x
  upper : x ≤ (m + 1 / 2) * 2 ^ s
  even : m % 2 = 1 → (m - reach m s) * 2 ^ s < x ∧ x < (m + 1 / 2) * 2 ^ s

/-- The mantissas and scales of the finite numbers other than zero. -/
structure Legal (m : ℕ) (s : ℤ) : Prop where
  positive : 0 < m
  bounded : m < 2 * fractionLimit
  low : -1074 ≤ s
  high : s ≤ 971
  normal : s = -1074 ∨ fractionLimit ≤ m

theorem divideEven_scaled {num den m : ℕ} (hd : 0 < den) {q : ℤ}
    (h : RoundsTo ((num : ℚ) / den / 2 ^ q) m) :
    (if 0 ≤ q then divideEven num (den * Nat.pow 2 q.toNat)
      else divideEven (num * Nat.pow 2 (-q).toNat) den) = m := by
  have hdq : (0 : ℚ) < den := by exact_mod_cast hd
  have hpow : (0 : ℚ) < 2 ^ q := by positivity
  split
  · next hq =>
    have hcast : ((Nat.pow 2 q.toNat : ℕ) : ℚ) = 2 ^ q := cast_pow_toNat hq 2
    refine divideEven_eq (Nat.mul_pos hd (Nat.pow_pos (by decide))) ?_
    rw [Nat.cast_mul, hcast, ← div_div]
    exact h
  · next hq =>
    have hcast : ((Nat.pow 2 (-q).toNat : ℕ) : ℚ) = (2 ^ q)⁻¹ := cast_pow_toNat_neg hq 2
    refine divideEven_eq hd ?_
    rw [Nat.cast_mul, hcast, ← div_eq_mul_inv, div_right_comm]
    exact h

theorem Near.roundsTo {x : ℚ} {m : ℕ} {s : ℤ} (h : Near x m s)
    (hunit : reach m s = 1 / 2 ∨ (m : ℚ) * 2 ^ s ≤ x) : RoundsTo (x / 2 ^ s) m := by
  have hpow : (0 : ℚ) < 2 ^ s := by positivity
  refine ⟨?_, ?_, ?_⟩
  · rw [le_div_iff₀ hpow]
    -- a short reach matters below the number only, where the fraction does not lie then
    rcases hunit with hr | hx
    · exact hr ▸ h.lower
    · nlinarith
  · rw [div_le_iff₀ hpow]
    exact h.upper
  · intro hm
    rw [lt_div_iff₀ hpow, div_lt_iff₀ hpow]
    refine ⟨?_, (h.even hm).2⟩
    rcases hunit with hr | hx
    · exact hr ▸ (h.even hm).1
    · nlinarith

/-- The bit pattern of `m * 2 ^ s` without the sign. -/
def magnitude (m : ℕ) (s : ℤ) : ℕ := (s + 1074).toNat * fractionLimit + m

theorem ofRatio_of_roundsTo {num den m : ℕ} (hn : 0 < num) (hd : 0 < den) {q : ℤ}
    (hq : max (floorLog2 num den - 52) (-1074) = q) (h : RoundsTo ((num : ℚ) / den / 2 ^ q) m)
    (hmax : magnitude m q ≤ 2047 * fractionLimit) (negative : Bool) :
    ofRatio negative num den = withSign negative (magnitude m q) := by
  have hdiv := divideEven_scaled hd h
  unfold ofRatio
  rw [if_neg (by omega)]
  simp only [hq]
  rw [hdiv]
  exact congrArg _ (min_eq_left hmax)

theorem magnitude_le {m : ℕ} {s : ℤ} (h : Legal m s) : magnitude m s ≤ 2047 * fractionLimit := by
  have := h.bounded
  have := h.high
  unfold magnitude fractionLimit at *
  omega

theorem two_zpow_add (s : ℤ) (n : ℕ) : (2 : ℚ) ^ (s + n) = 2 ^ n * 2 ^ s := by
  rw [zpow_add₀ two_ne_zero, zpow_natCast, mul_comm]

theorem cast_fractionLimit : (fractionLimit : ℚ) = 2 ^ 52 := by
  norm_num [fractionLimit]

theorem Near.lt_top {x : ℚ} {m : ℕ} {s : ℤ} (h : Near x m s) (hm : m < 2 * fractionLimit) :
    x < 2 ^ (s + 53) := by
  have hpow : (0 : ℚ) < 2 ^ s := by positivity
  have hle : (m : ℚ) + 1 ≤ 2 * fractionLimit := by exact_mod_cast hm
  calc x ≤ (m + 1 / 2) * 2 ^ s := h.upper
    _ < (2 * fractionLimit) * 2 ^ s := by nlinarith
    _ = 2 ^ (s + 53) := by
        rw [show (53 : ℤ) = (53 : ℕ) from rfl, two_zpow_add, cast_fractionLimit]
        ring

theorem reach_le (m : ℕ) (s : ℤ) : reach m s ≤ 1 / 2 := by
  unfold reach
  split <;> norm_num

/-- Where the fraction is no smaller than the least normal number of the scale, its own exponent
gives the unit. -/
theorem ofRatio_eq_of_unit {num den m : ℕ} {s : ℤ} (hn : 0 < num) (hd : 0 < den)
    (hl : Legal m s) (h : Near ((num : ℚ) / den) m s)
    (hunit : s = -1074 ∨ (2 : ℚ) ^ (s + 52) ≤ (num : ℚ) / den) (negative : Bool) :
    ofRatio negative num den = withSign negative (magnitude m s) := by
  have htop : (num : ℚ) / den < 2 ^ (s + 53) := h.lt_top hl.bounded
  refine ofRatio_of_roundsTo hn hd (q := s) ?_ (h.roundsTo ?_) (magnitude_le hl) negative
  · rcases hunit with hs | hx
    · have hlow := lt_of_le_of_lt (floorLog2_spec hn hd).1 htop
      rw [zpow_lt_zpow_iff_right₀ one_lt_two] at hlow
      omega
    · rw [floorLog2_eq hn hd hx (by rwa [add_assoc])]
      have := hl.low
      omega
  · unfold reach
    by_cases hclose : m = fractionLimit ∧ -1074 < s
    · obtain ⟨rfl, hs⟩ := hclose
      rcases hunit with hs' | hx
      · omega
      · right
        rw [cast_fractionLimit]
        rwa [show (52 : ℤ) = (52 : ℕ) from rfl, two_zpow_add] at hx
    · exact .inl (if_neg hclose)

/-- Only at the least normal mantissa do the reals of a number reach below the scale. -/
theorem Near.eq_fractionLimit {x : ℚ} {m : ℕ} {s : ℤ} (h : Near x m s) (hl : Legal m s)
    (hs : -1074 < s) (hx : x < 2 ^ 52 * 2 ^ s) : m = fractionLimit := by
  have hpow : (0 : ℚ) < 2 ^ s := by positivity
  have hge : fractionLimit ≤ m := by
    rcases hl.normal with hsub | hge
    · omega
    · exact hge
  have hlt : (m : ℚ) < fractionLimit + 1 := by
    have hlow := h.lower
    have hr := reach_le m s
    rw [cast_fractionLimit]
    by_contra hbig
    nlinarith
  have hlt' : m < fractionLimit + 1 := by exact_mod_cast hlt
  omega

/-- Twice the least normal mantissa has the bit pattern of the next scale. -/
theorem magnitude_double {s : ℤ} (hs : -1074 < s) :
    magnitude (2 * fractionLimit) (s - 1) = magnitude fractionLimit s := by
  have : (s + 1074).toNat = (s - 1 + 1074).toNat + 1 := by omega
  unfold magnitude
  rw [this]
  ring

/-- Below a power of two the unit is half as large, and the fraction is rounded up to the power. -/
theorem ofRatio_eq_of_half_unit {num den m : ℕ} {s : ℤ} (hn : 0 < num) (hd : 0 < den)
    (hl : Legal m s) (h : Near ((num : ℚ) / den) m s) (hs : -1074 < s)
    (hx : (num : ℚ) / den < 2 ^ (s + 52)) (negative : Bool) :
    ofRatio negative num den = withSign negative (magnitude m s) := by
  obtain ⟨x, hxdef⟩ : ∃ x : ℚ, x = (num : ℚ) / den := ⟨_, rfl⟩
  rw [← hxdef] at h hx
  have hpow : (0 : ℚ) < 2 ^ s := by positivity
  rw [show (52 : ℤ) = (52 : ℕ) from rfl, two_zpow_add] at hx
  obtain rfl := h.eq_fractionLimit hl hs hx
  have hreach : reach fractionLimit s = 1 / 4 := if_pos ⟨rfl, hs⟩
  have hlow : (2 ^ 52 - 1 / 4) * 2 ^ s ≤ x := by
    have := h.lower
    rwa [hreach, cast_fractionLimit] at this
  have hhalf : (2 : ℚ) ^ (s - 1) = 2 ^ s / 2 := by
    rw [zpow_sub₀ two_ne_zero, zpow_one]
  have hlog : floorLog2 num den = s + 51 := by
    refine floorLog2_eq hn hd ?_ ?_
    · rw [← hxdef, show (51 : ℤ) = (51 : ℕ) from rfl, two_zpow_add]
      nlinarith
    · rw [← hxdef, add_assoc, show (51 + 1 : ℤ) = (52 : ℕ) from rfl, two_zpow_add]
      exact hx
  -- in units half as large the mantissa doubles, and is even
  have hround : RoundsTo ((num : ℚ) / den / 2 ^ (s - 1)) (2 * fractionLimit) := by
    rw [← hxdef, hhalf]
    have heven : ∀ n : ℕ, ¬2 * n % 2 = 1 := fun n => by omega
    refine ⟨?_, ?_, fun hodd => absurd hodd (heven fractionLimit)⟩
    · rw [le_div_iff₀ (by positivity)]
      push_cast [cast_fractionLimit]
      nlinarith
    · rw [div_le_iff₀ (by positivity)]
      push_cast [cast_fractionLimit]
      nlinarith
  have hmax : magnitude (2 * fractionLimit) (s - 1) ≤ 2047 * fractionLimit := by
    rw [magnitude_double hs]
    exact magnitude_le hl
  rw [ofRatio_of_roundsTo hn hd (by omega) hround hmax, magnitude_double hs]

theorem ofRatio_eq {num den m : ℕ} {s : ℤ} (hn : 0 < num) (hd : 0 < den) (hl : Legal m s)
    (h : Near ((num : ℚ) / den) m s) (negative : Bool) :
    ofRatio negative num den = withSign negative (magnitude m s) := by
  by_cases hs : s = -1074
  · exact ofRatio_eq_of_unit hn hd hl h (.inl hs) negative
  · by_cases hx : (num : ℚ) / den < 2 ^ (s + 52)
    · have := hl.low
      exact ofRatio_eq_of_half_unit hn hd hl h (by omega) hx negative
    · exact ofRatio_eq_of_unit hn hd hl h (.inr (not_lt.1 hx)) negative

theorem mantissa_cases (f : Binary64) :
    (f.exponentField = 0 ∧ f.mantissa = f.fractionField) ∨
      (f.exponentField ≠ 0 ∧ f.mantissa = f.fractionField + fractionLimit) := by
  unfold mantissa
  by_cases h : f.exponentField = 0
  · exact .inl ⟨h, if_pos h⟩
  · exact .inr ⟨h, if_neg h⟩

theorem legal_of_isFinite {f : Binary64} (hf : f.isFinite = true) (hz : f.isZero = false) :
    Legal f.mantissa f.scale := by
  have hbits := f.bits.toNat_lt
  have hexp : f.exponentField = f.bits.toNat / fractionLimit % 2048 := rfl
  have hfrac : f.fractionField = f.bits.toNat % fractionLimit := rfl
  have hscale : f.scale = (max f.exponentField 1 : ℕ) - 1075 := rfl
  have hmant := mantissa_cases f
  simp only [isFinite, isZero, decide_eq_true_eq, decide_eq_false_iff_not] at hf hz
  -- every field is a quotient or a remainder of the bits by a literal
  unfold fractionLimit at hexp hfrac hmant
  unfold signBit at hz
  have hlimit : fractionLimit = 4503599627370496 := rfl
  constructor
  · omega
  · omega
  · omega
  · omega
  · omega

theorem withSign_mod (f : Binary64) : withSign f.negative (f.bits.toNat % signBit) = f := by
  have hbits := f.bits.toNat_lt
  have hnat : (if f.negative = true then signBit + f.bits.toNat % signBit
      else f.bits.toNat % signBit) = f.bits.toNat := by
    unfold negative signBit
    split
    · next h =>
      rw [decide_eq_true_eq] at h
      omega
    · next h =>
      rw [decide_eq_true_eq] at h
      omega
  unfold withSign
  rw [hnat, UInt64.ofNat_toNat]

theorem zero_of_isZero {f : Binary64} (hz : f.isZero = true) : zero f.negative = f := by
  rw [isZero, decide_eq_true_eq] at hz
  unfold zero
  rw [← hz]
  exact withSign_mod f

theorem magnitude_eq {f : Binary64} (hf : f.isFinite = true) :
    magnitude f.mantissa f.scale = f.bits.toNat % signBit := by
  have hbits := f.bits.toNat_lt
  have hexp : f.exponentField = f.bits.toNat / fractionLimit % 2048 := rfl
  have hfrac : f.fractionField = f.bits.toNat % fractionLimit := rfl
  have hscale : f.scale = (max f.exponentField 1 : ℕ) - 1075 := rfl
  have hmant := mantissa_cases f
  simp only [isFinite, decide_eq_true_eq] at hf
  unfold magnitude
  unfold fractionLimit signBit at *
  omega

theorem withSign_magnitude {f : Binary64} (hf : f.isFinite = true) :
    withSign f.negative (magnitude f.mantissa f.scale) = f := by
  rw [magnitude_eq hf, withSign_mod]

end Reshape.Binary64
