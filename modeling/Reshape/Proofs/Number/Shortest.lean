import Mathlib.Algebra.Order.Floor.Semifield
import Mathlib.Data.Rat.Floor
import Reshape.Number.Shortest
import Reshape.Proofs.Number.Rounding

namespace Reshape

namespace Decimal

def value (d : Decimal) : ℚ := d.digits * 10 ^ d.exponent

/-- Trailing zeros carry no value of their own. -/
theorem value_strip (count : ℕ) (d : Decimal) : (strip count d).value = d.value := by
  induction count generalizing d with
  | zero => rfl
  | succ count ih =>
    unfold strip
    split
    · next h =>
      have hdigits : (d.digits : ℚ) = (d.digits / 10 : ℕ) * 10 := by
        exact_mod_cast (Nat.div_mul_cancel (Nat.dvd_of_mod_eq_zero h.2)).symm
      rw [ih, value, value, hdigits, zpow_add₀ (by norm_num), zpow_one]
      ring
    · rfl

theorem exponent_le_strip (count : ℕ) (d : Decimal) : d.exponent ≤ (strip count d).exponent := by
  induction count generalizing d with
  | zero => exact le_refl _
  | succ count ih =>
    unfold strip
    split
    · have := ih ⟨d.digits / 10, d.exponent + 1⟩
      simp only at this
      omega
    · exact le_refl _

end Decimal

namespace Binary64

theorem ten_zpow_le_of_nonneg {k l : ℤ} (hl : 0 ≤ l) (h : 10 * k ≤ 3 * l) :
    (10 : ℚ) ^ k ≤ 2 ^ l := by
  by_cases hk : 0 ≤ k
  · -- a thousand is below `2 ^ 10`
    have hcube : ((10 : ℚ) ^ k) ^ 3 ≤ (2 ^ l) ^ 3 := by
      calc ((10 : ℚ) ^ k) ^ 3 = (10 ^ 3) ^ k := by
            rw [← zpow_natCast, ← zpow_natCast, ← zpow_mul, ← zpow_mul, mul_comm]
        _ ≤ (2 ^ 10) ^ k := by
            exact zpow_le_zpow_left₀ hk (by norm_num) (by norm_num)
        _ = 2 ^ (10 * k) := by
            rw [← zpow_natCast, ← zpow_mul]
            rfl
        _ ≤ 2 ^ (3 * l) := zpow_le_zpow_right₀ one_le_two h
        _ = (2 ^ l) ^ 3 := by
            rw [← zpow_natCast, ← zpow_mul, mul_comm]
            rfl
    exact (pow_le_pow_iff_left₀ (by positivity) (by positivity) (by decide)).1 hcube
  · calc (10 : ℚ) ^ k ≤ 1 := zpow_le_one_of_nonpos₀ (by norm_num) (by omega)
      _ ≤ 2 ^ l := one_le_zpow₀ one_le_two hl

theorem two_zpow_le_of_nonneg {k l : ℤ} (hl : 0 ≤ l) (h : 28 * l ≤ 93 * k) :
    (2 : ℚ) ^ l ≤ 10 ^ k := by
  -- `10 ^ 28` is just above `2 ^ 93`, so that little is lost
  have hpower : ((2 : ℚ) ^ l) ^ 93 ≤ (10 ^ k) ^ 93 := by
    calc ((2 : ℚ) ^ l) ^ 93 = (2 ^ 93) ^ l := by
          rw [← zpow_natCast, ← zpow_natCast, ← zpow_mul, ← zpow_mul, mul_comm]
      _ ≤ (10 ^ 28) ^ l := by
          exact zpow_le_zpow_left₀ hl (by norm_num) (by norm_num)
      _ = 10 ^ (28 * l) := by
          rw [← zpow_natCast, ← zpow_mul]
          rfl
      _ ≤ 10 ^ (93 * k) := zpow_le_zpow_right₀ (by norm_num) h
      _ = (10 ^ k) ^ 93 := by
          rw [← zpow_natCast, ← zpow_mul, mul_comm]
          rfl
  exact (pow_le_pow_iff_left₀ (by positivity) (by positivity) (by decide)).1 hpower

theorem ten_zpow_le_of_neg {k l : ℤ} (hl : l ≤ 0) (h : 93 * k ≤ 28 * l) :
    (10 : ℚ) ^ k ≤ 2 ^ l := by
  have hinv := two_zpow_le_of_nonneg (k := -k) (l := -l) (by omega) (by omega)
  rw [zpow_neg, zpow_neg] at hinv
  exact (inv_le_inv₀ (by positivity) (by positivity)).1 hinv

/-- An estimate of the places that is too high by one is made good, and it is never too high by
two. -/
theorem ten_zpow_decimalPlaces_le {num den : ℕ} (hn : 0 < num) (hd : 0 < den)
    (hlow : -1100 ≤ floorLog2 num den) (hhigh : floorLog2 num den ≤ 1100) :
    (10 : ℚ) ^ (decimalPlaces num den - 1) ≤ (num : ℚ) / den := by
  obtain ⟨k, hk⟩ : ∃ k : ℤ, k = floorLog2 num den * 30103 / 100000 := ⟨_, rfl⟩
  have hbelow : ∀ j : ℤ, (if 0 ≤ j then decide (num < den * Nat.pow 10 j.toNat)
      else decide (num * Nat.pow 10 (-j).toNat < den)) = true ↔
      (num : ℚ) / den < (10 : ℕ) ^ j := by
    intro j
    rw [← below_iff hd (by decide)]
    split <;> rw [decide_eq_true_eq]
  -- for exponents of this size the estimate is less than one above the logarithm
  have hleast : (10 : ℚ) ^ (k - 2) ≤ (num : ℚ) / den := by
    refine le_trans ?_ (floorLog2_spec hn hd).1
    by_cases hl : 0 ≤ floorLog2 num den
    · exact ten_zpow_le_of_nonneg hl (by omega)
    · exact ten_zpow_le_of_neg (by omega) (by omega)
  have hdef : decimalPlaces num den =
      if (num : ℚ) / den < (10 : ℕ) ^ (k - 1) then k - 1
      else if (num : ℚ) / den < (10 : ℕ) ^ k then k
      else if (num : ℚ) / den < (10 : ℕ) ^ (k + 1) then k + 1 else k + 2 := by
    rw [← if_congr (hbelow _) rfl rfl, ← if_congr (hbelow _) rfl rfl,
      ← if_congr (hbelow _) rfl rfl, hk]
    rfl
  push_cast at hdef
  rw [hdef]
  split
  · -- the lowest answer rests on the estimate, the others on a comparison that failed
    rwa [show k - 1 - 1 = k - 2 by ring]
  · next h1 =>
    split
    · exact not_lt.1 h1
    · next h2 =>
      split
      · rw [add_sub_cancel_right]
        exact not_lt.1 h2
      · next h3 =>
        rw [show k + 2 - 1 = k + 1 by ring]
        exact not_lt.1 h3

theorem le_decimalPlaces (num den : ℕ) :
    floorLog2 num den * 30103 / 100000 - 1 ≤ decimalPlaces num den := by
  unfold decimalPlaces
  simp only
  split
  · omega
  · split
    · omega
    · split <;> omega

/-- What the fields of an interval are, as multiples of the unit of its number. -/
structure Interval.Around (i : Interval) (m : ℕ) (s : ℤ) : Prop where
  den : 0 < i.den
  low : (i.low : ℚ) / i.den = (m - reach m s) * 2 ^ s
  value : (i.value : ℚ) / i.den = m * 2 ^ s
  high : (i.high : ℚ) / i.den = (m + 1 / 2) * 2 ^ s
  closed : i.closed = true ↔ m % 2 = 0

theorem reach_eq (f : Binary64) :
    reach f.mantissa f.scale =
      ((if f.fractionField = 0 && 1 < f.exponentField then 1 else 2 : ℕ) : ℚ) / 4 := by
  have hscale : f.scale = (max f.exponentField 1 : ℕ) - 1075 := rfl
  have hmant := mantissa_cases f
  have hfrac : f.fractionField < fractionLimit := Nat.mod_lt _ (by decide)
  have hiff : (f.mantissa = fractionLimit ∧ -1074 < f.scale) ↔
      (f.fractionField = 0 ∧ 1 < f.exponentField) := by
    omega
  unfold reach
  by_cases h : f.fractionField = 0 ∧ 1 < f.exponentField
  · rw [if_pos (hiff.2 h), if_pos (by simpa using h)]
    norm_num
  · rw [if_neg (mt hiff.1 h), if_neg (by simpa using h)]
    norm_num

theorem around_interval {f : Binary64} (hf : f.isFinite = true) (hz : f.isZero = false) :
    f.interval.Around f.mantissa f.scale := by
  obtain ⟨q, hq⟩ : ∃ q : ℤ, q = f.scale - 2 := ⟨_, rfl⟩
  obtain ⟨gap, hgap⟩ : ∃ gap : ℕ,
    gap = if f.fractionField = 0 && 1 < f.exponentField then 1 else 2 := ⟨_, rfl⟩
  have hreach := reach_eq f
  rw [← hgap] at hreach
  have hpositive := (legal_of_isFinite hf hz).positive
  -- the lower end is a difference of natural numbers
  have hle : gap ≤ 4 * f.mantissa := by
    rw [hgap]
    split <;> omega
  have hunit : (2 : ℚ) ^ f.scale = 4 * 2 ^ q := by
    rw [hq, zpow_sub₀ two_ne_zero]
    norm_num
    ring
  obtain ⟨up, den, -, hden, hpair, hratio⟩ := exists_power (b := 2) (by decide) q
  push_cast at hratio
  have hdef : f.interval = ⟨(4 * f.mantissa - gap) * up, 4 * f.mantissa * up,
      (4 * f.mantissa + 2) * up, den, f.mantissa % 2 = 0⟩ := by
    unfold interval
    subst hq hgap
    simp only [hpair]
  rw [hdef]
  refine ⟨hden, ?_, ?_, ?_, by simp⟩
  · push_cast [Nat.cast_sub hle]
    rw [mul_div_assoc, hratio, hreach, hunit]
    ring
  · push_cast
    rw [mul_div_assoc, hratio, hunit]
    ring
  · push_cast
    rw [mul_div_assoc, hratio, hunit]
    ring

theorem Interval.Around.holds_iff {i : Interval} {m : ℕ} {s : ℤ} (h : i.Around m s)
    {num den : ℕ} (hd : 0 < den) : i.holds num den = true ↔ Near ((num : ℚ) / den) m s := by
  have hdq : (0 : ℚ) < den := by exact_mod_cast hd
  have hiq : (0 : ℚ) < i.den := by exact_mod_cast h.den
  -- both ends, with and without equality, cleared of their denominators
  have hle : i.low * den ≤ num * i.den ↔ (m - reach m s) * 2 ^ s ≤ (num : ℚ) / den := by
    rw [← h.low, div_le_div_iff₀ hiq hdq]
    exact_mod_cast Iff.rfl
  have hle' : num * i.den ≤ i.high * den ↔ (num : ℚ) / den ≤ (m + 1 / 2) * 2 ^ s := by
    rw [← h.high, div_le_div_iff₀ hdq hiq]
    exact_mod_cast Iff.rfl
  have hlt : i.low * den < num * i.den ↔ (m - reach m s) * 2 ^ s < (num : ℚ) / den := by
    rw [← h.low, div_lt_div_iff₀ hiq hdq]
    exact_mod_cast Iff.rfl
  have hlt' : num * i.den < i.high * den ↔ (num : ℚ) / den < (m + 1 / 2) * 2 ^ s := by
    rw [← h.high, div_lt_div_iff₀ hdq hiq]
    exact_mod_cast Iff.rfl
  unfold Interval.holds
  by_cases hc : i.closed = true
  · have heven := h.closed.1 hc
    rw [if_pos hc, Bool.and_eq_true, decide_eq_true_eq, decide_eq_true_eq, hle, hle']
    exact ⟨fun ⟨hl, hu⟩ => ⟨hl, hu, fun hodd => by omega⟩, fun hn => ⟨hn.lower, hn.upper⟩⟩
  · have hodd : m % 2 = 1 := by
      have := mt h.closed.2 hc
      omega
    rw [if_neg hc, Bool.and_eq_true, decide_eq_true_eq, decide_eq_true_eq, hlt, hlt']
    exact ⟨fun ⟨hl, hu⟩ => ⟨hl.le, hu.le, fun _ => ⟨hl, hu⟩⟩, fun hn => hn.even hodd⟩

theorem divideEven_eq_or (num den : ℕ) :
    divideEven num den = num / den ∨ divideEven num den = num / den + 1 := by
  unfold divideEven
  simp only
  split
  · exact .inr rfl
  · exact .inl rfl

namespace Interval

variable {i : Interval} {m : ℕ} {s : ℤ}

/-- The quotient a grid takes is the last of its points that is not above the value. -/
theorem Around.quotient_eq (h : i.Around m s) {e : ℤ} {up down : ℕ}
    (hratio : (up : ℚ) / down = 10 ^ e) :
    i.value * down / (i.den * up) = ⌊(m * 2 ^ s : ℚ) / 10 ^ e⌋₊ := by
  rw [← h.value, ← hratio, div_div_div_eq, ← Nat.floor_div_eq_div (K := ℚ)]
  push_cast
  rfl

/-- A grid tries the two points around the value, and gives the first that is near the number. -/
theorem Around.onGrid_cases (h : i.Around m s) (e : ℤ) : ∃ nearer other : ℕ,
    (nearer = ⌊(m * 2 ^ s : ℚ) / 10 ^ e⌋₊ ∧ other = nearer + 1 ∨
      other = ⌊(m * 2 ^ s : ℚ) / 10 ^ e⌋₊ ∧ nearer = other + 1) ∧
    (i.onGrid e = some ⟨nearer, e⟩ ∧ Near (nearer * 10 ^ e) m s ∨
      i.onGrid e = some ⟨other, e⟩ ∧ Near (other * 10 ^ e) m s ∨
      i.onGrid e = none ∧ ¬Near (nearer * 10 ^ e) m s ∧ ¬Near (other * 10 ^ e) m s) := by
  obtain ⟨up, down, -, hdown, hgrid, hratio⟩ := exists_power (b := 10) (by decide) e
  push_cast at hratio
  have hholds : ∀ n : ℕ, i.holds (n * up) down = true ↔ Near (n * 10 ^ e) m s := by
    intro n
    rw [h.holds_iff hdown, Nat.cast_mul, mul_div_assoc, hratio]
  have hquotient := h.quotient_eq hratio
  -- the two points that the definition tries, in its order
  obtain ⟨nearer, hnearer⟩ : ∃ n, n = divideEven (i.value * down) (i.den * up) := ⟨_, rfl⟩
  obtain ⟨other, hother⟩ : ∃ n, n = if nearer = i.value * down / (i.den * up) then
    i.value * down / (i.den * up) + 1 else i.value * down / (i.den * up) := ⟨_, rfl⟩
  have hdef : i.onGrid e = if i.holds (nearer * up) down then some ⟨nearer, e⟩
      else if i.holds (other * up) down then some ⟨other, e⟩ else none := by
    unfold onGrid
    rw [hgrid]
    subst hother hnearer
    rfl
  refine ⟨nearer, other, ?_, ?_⟩
  · rw [← hquotient]
    rcases divideEven_eq_or (i.value * down) (i.den * up) with hq | hq
    · rw [← hnearer] at hq
      rw [if_pos hq] at hother
      exact .inl ⟨hq, by rw [hother, hq]⟩
    · rw [← hnearer] at hq
      rw [if_neg (by omega)] at hother
      exact .inr ⟨hother, by rw [hother, hq]⟩
  · rw [hdef, ← hholds, ← hholds]
    by_cases hn : i.holds (nearer * up) down = true
    · exact .inl ⟨if_pos hn, hn⟩
    · rw [if_neg hn]
      by_cases ho : i.holds (other * up) down = true
      · exact .inr (.inl ⟨if_pos ho, ho⟩)
      · exact .inr (.inr ⟨if_neg ho, hn, ho⟩)

theorem Around.onGrid_near (h : i.Around m s) {e : ℤ} {d : Decimal} (hd : i.onGrid e = some d) :
    d.exponent = e ∧ Near d.value m s := by
  obtain ⟨nearer, other, -, hcases⟩ := h.onGrid_cases e
  rcases hcases with ⟨hsome, hn⟩ | ⟨hsome, hn⟩ | ⟨hnone, -⟩
  · obtain rfl := Option.some.inj (hd.symm.trans hsome)
    exact ⟨rfl, hn⟩
  · obtain rfl := Option.some.inj (hd.symm.trans hsome)
    exact ⟨rfl, hn⟩
  · rw [hnone] at hd
    cases hd

/-- A grid finer than the reals of a number are wide has a point among them. -/
theorem Around.onGrid_ne_none (h : i.Around m s) {e : ℤ}
    (hfine : (10 : ℚ) ^ e < (reach m s + 1 / 2) * 2 ^ s) : i.onGrid e ≠ none := by
  have hunit : (0 : ℚ) < 2 ^ s := by positivity
  have hstep : (0 : ℚ) < 10 ^ e := by positivity
  have hreach : 0 < reach m s := by
    unfold reach
    split <;> norm_num
  intro hnone
  obtain ⟨below, hbelow⟩ : ∃ below : ℕ, below = ⌊(m * 2 ^ s : ℚ) / 10 ^ e⌋₊ := ⟨_, rfl⟩
  have hfail : ¬Near (below * 10 ^ e) m s ∧ ¬Near ((below + 1) * 10 ^ e) m s := by
    obtain ⟨nearer, other, hpoints, hcases⟩ := h.onGrid_cases e
    obtain ⟨hn, ho⟩ : ¬Near (nearer * 10 ^ e) m s ∧ ¬Near (other * 10 ^ e) m s := by
      rcases hcases with ⟨hsome, -⟩ | ⟨hsome, -⟩ | ⟨-, hneither⟩
      · rw [hnone] at hsome
        cases hsome
      · rw [hnone] at hsome
        cases hsome
      · exact hneither
    rw [← hbelow] at hpoints
    rcases hpoints with ⟨rfl, rfl⟩ | ⟨rfl, rfl⟩
    · push_cast at ho
      exact ⟨hn, ho⟩
    · push_cast at hn
      exact ⟨ho, hn⟩
  have hlow : (below : ℚ) * 10 ^ e ≤ m * 2 ^ s := by
    rw [← le_div_iff₀ hstep, hbelow]
    exact Nat.floor_le (by positivity)
  have hhigh : (m * 2 ^ s : ℚ) < (below + 1) * 10 ^ e := by
    rw [← div_lt_iff₀ hstep, hbelow]
    exact Nat.lt_floor_add_one _
  -- the reals of the number are wider than a step, so that one of the two points is among them
  by_cases hclose : (m - reach m s) * 2 ^ s < below * 10 ^ e
  · have hupper : (below : ℚ) * 10 ^ e < (m + 1 / 2) * 2 ^ s := by nlinarith
    exact hfail.1 ⟨hclose.le, hupper.le, fun _ => ⟨hclose, hupper⟩⟩
  · have hlower : (m - reach m s) * 2 ^ s < ((below : ℚ) + 1) * 10 ^ e := by nlinarith
    have hupper : ((below : ℚ) + 1) * 10 ^ e < (m + 1 / 2) * 2 ^ s := by nlinarith
    exact hfail.2 ⟨hlower.le, hupper.le, fun _ => ⟨hlower, hupper⟩⟩

/-- The search stops at the first grid with a point, and not behind the last grid that has one. -/
theorem search_spec {e : ℤ} {count j : ℕ} (hj : j < count) (h : i.onGrid (e - j) ≠ none) :
    ∃ e', e - j ≤ e' ∧ i.onGrid e' = some (i.search e count) := by
  induction count generalizing e j with
  | zero => omega
  | succ count ih =>
    unfold search
    cases hfound : i.onGrid e with
    | some d => exact ⟨e, by omega, hfound⟩
    | none =>
      cases j with
      | zero => exact absurd hfound (by simpa using h)
      | succ j =>
        -- nothing here, so the search goes on one place lower
        have hrest : e - (j + 1 : ℕ) = e - 1 - j := by
          push_cast
          ring
        rw [hrest] at h ⊢
        exact ih (by omega) h

end Interval

theorem Legal.cast_bounds {m : ℕ} {s : ℤ} (hl : Legal m s) : (1 : ℚ) ≤ m ∧ (m : ℚ) < 2 ^ 53 := by
  refine ⟨by exact_mod_cast hl.positive, ?_⟩
  have hbounded : (m : ℚ) < 2 * fractionLimit := by exact_mod_cast hl.bounded
  rw [cast_fractionLimit] at hbounded
  linarith

/-- The exponent of a number's value stays where the places are estimated well. -/
theorem Interval.Around.floorLog2_bounds {i : Interval} {m : ℕ} {s : ℤ} (h : i.Around m s)
    (hl : Legal m s) :
    0 < i.value ∧ -1100 ≤ floorLog2 i.value i.den ∧ floorLog2 i.value i.den ≤ 1100 := by
  have hunit : (0 : ℚ) < 2 ^ s := by positivity
  obtain ⟨hmlow, hmhigh⟩ := hl.cast_bounds
  have hvalue : 0 < i.value := by
    have hpos : (0 : ℚ) < (i.value : ℚ) / i.den := by
      rw [h.value]
      positivity
    by_contra hzero
    rw [show i.value = 0 by omega] at hpos
    simp at hpos
  obtain ⟨hlow, hhigh⟩ := floorLog2_spec hvalue h.den
  rw [h.value] at hlow hhigh
  refine ⟨hvalue, ?_, ?_⟩
  · have hmin : (2 : ℚ) ^ s < 2 ^ (floorLog2 i.value i.den + 1) := by nlinarith
    rw [zpow_lt_zpow_iff_right₀ one_lt_two] at hmin
    have := hl.low
    omega
  · have hmax : (2 : ℚ) ^ floorLog2 i.value i.den < 2 ^ (s + (53 : ℕ)) := by
      rw [two_zpow_add]
      nlinarith
    rw [zpow_lt_zpow_iff_right₀ one_lt_two] at hmax
    have := hl.high
    omega

/-- Sixteen places behind the first digit the grid is fine enough for every number. -/
theorem Legal.fine {m : ℕ} {s e : ℤ} (hl : Legal m s) (he : (10 : ℚ) ^ e ≤ m * 2 ^ s) :
    (10 : ℚ) ^ (e - (16 : ℕ)) < (reach m s + 1 / 2) * 2 ^ s := by
  have hunit : (0 : ℚ) < 2 ^ s := by positivity
  have hwide : (m : ℚ) / 10 ^ 16 < reach m s + 1 / 2 := by
    have hmhigh := hl.cast_bounds.2
    unfold reach
    split
    · next hclose =>
      rw [hclose.1, cast_fractionLimit]
      norm_num
    · rw [div_lt_iff₀ (by norm_num)]
      linarith
  calc (10 : ℚ) ^ (e - (16 : ℕ)) = 10 ^ e / 10 ^ 16 := by
        rw [zpow_sub₀ (by norm_num), zpow_natCast]
    _ ≤ (m : ℚ) * 2 ^ s / 10 ^ 16 := by gcongr
    _ = (m : ℚ) / 10 ^ 16 * 2 ^ s := by ring
    _ < (reach m s + 1 / 2) * 2 ^ s := by gcongr

theorem shortest_spec {f : Binary64} (hf : f.isFinite = true) (hz : f.isZero = false) :
    Near f.shortest.value f.mantissa f.scale ∧ -400 ≤ f.shortest.exponent := by
  obtain ⟨i, hi⟩ : ∃ i, i = f.interval := ⟨_, rfl⟩
  have hl := legal_of_isFinite hf hz
  have ha : i.Around f.mantissa f.scale := hi ▸ around_interval hf hz
  obtain ⟨hvalue, hlow, hhigh⟩ := ha.floorLog2_bounds hl
  have hplaces := ten_zpow_decimalPlaces_le hvalue ha.den hlow hhigh
  obtain ⟨e, he⟩ : ∃ e, e = decimalPlaces i.value i.den - 1 := ⟨_, rfl⟩
  rw [← he, ha.value] at hplaces
  -- the search comes as far as the grid that is fine enough
  have hcount : 16 < 17 := by decide
  obtain ⟨e', he', hgrid⟩ := Interval.search_spec hcount (ha.onGrid_ne_none (hl.fine hplaces))
  have hnear := ha.onGrid_near hgrid
  have hshort : f.shortest = (i.search e 17).strip 17 := by
    unfold shortest
    rw [if_neg (by simp [hz]), he, hi]
  rw [hshort]
  refine ⟨?_, ?_⟩
  · rw [Decimal.value_strip]
    exact hnear.2
  · have hstrip := Decimal.exponent_le_strip 17 (i.search e 17)
    have hfirst := le_decimalPlaces i.value i.den
    rw [hnear.1] at hstrip
    omega

theorem Near.positive {x : ℚ} {m : ℕ} {s : ℤ} (h : Near x m s) (hm : 0 < m) : 0 < x := by
  have hunit : (0 : ℚ) < 2 ^ s := by positivity
  have hmq : (1 : ℚ) ≤ m := by exact_mod_cast hm
  have hreach := reach_le m s
  calc (0 : ℚ) < (m - reach m s) * 2 ^ s := mul_pos (by linarith) hunit
    _ ≤ x := h.lower

theorem Near.bounds {x : ℚ} {m : ℕ} {s : ℤ} (h : Near x m s) (hl : Legal m s) :
    (2 : ℚ) ^ (-1076 : ℤ) < x ∧ x < 2 ^ (1024 : ℤ) := by
  have hunit : (0 : ℚ) < 2 ^ s := by positivity
  have hmq : (1 : ℚ) ≤ m := by exact_mod_cast hl.positive
  have hreach := reach_le m s
  have hlow := hl.low
  have hhigh := hl.high
  refine ⟨?_, lt_of_lt_of_le (h.lt_top hl.bounded) (zpow_le_zpow_right₀ one_le_two (by omega))⟩
  calc (2 : ℚ) ^ (-1076 : ℤ) < 2 ^ (s - 1) := zpow_lt_zpow_right₀ one_lt_two (by omega)
    _ = 1 / 2 * 2 ^ s := by
        rw [zpow_sub₀ two_ne_zero]
        norm_num
        ring
    _ ≤ (m - reach m s) * 2 ^ s := by
        gcongr
        linarith
    _ ≤ x := h.lower

/-- The estimate of a decimal's places is not far out for a decimal of ordinary size. The bound on
the exponent bounds the number of digits. -/
theorem places_bounds {n : ℕ} {e : ℤ} (hn : 0 < n) (he : -400 ≤ e)
    (hbottom : (2 : ℚ) ^ (-1076 : ℤ) < n * 10 ^ e) (htop : (n * 10 ^ e : ℚ) < 2 ^ (1024 : ℤ)) :
    -400 ≤ e + (Nat.log2 n * 30103 / 100000 : ℕ) ∧
      e + (Nat.log2 n * 30103 / 100000 : ℕ) ≤ 400 := by
  obtain ⟨l, hl⟩ : ∃ l : ℕ, l = Nat.log2 n := ⟨_, rfl⟩
  obtain ⟨k, hk⟩ : ∃ k : ℕ, k = l * 30103 / 100000 := ⟨_, rfl⟩
  rw [← hl, ← hk]
  obtain ⟨hlow, hhigh⟩ := cast_log2_bounds hn
  rw [← hl] at hlow hhigh
  -- a decimal of this size with this exponent has few digits, and its estimate is good
  have hdigits : (l : ℤ) < 2400 := by
    have hscale : (2 : ℚ) ^ (-1334 : ℤ) ≤ 10 ^ e := by
      calc (2 : ℚ) ^ (-1334 : ℤ) ≤ 10 ^ (-400 : ℤ) := by
            rw [zpow_neg, zpow_neg]
            exact (inv_le_inv₀ (by positivity) (by positivity)).2
              (ten_zpow_le_of_nonneg (by decide) (by decide))
        _ ≤ 10 ^ e := zpow_le_zpow_right₀ (by norm_num) he
    have hproduct : (2 : ℚ) ^ ((l : ℤ) + -1334) < 2 ^ (1024 : ℤ) := by
      calc (2 : ℚ) ^ ((l : ℤ) + -1334) = 2 ^ (l : ℤ) * 2 ^ (-1334 : ℤ) :=
            zpow_add₀ two_ne_zero _ _
        _ ≤ n * 10 ^ e := by gcongr
        _ < 2 ^ (1024 : ℤ) := htop
    rw [zpow_lt_zpow_iff_right₀ one_lt_two] at hproduct
    omega
  constructor
  · by_contra hlt
    have hten : (n : ℚ) ≤ 10 ^ ((k : ℤ) + 2) :=
      le_trans hhigh.le (two_zpow_le_of_nonneg (by omega) (by omega))
    refine absurd hbottom (not_lt.2 ?_)
    calc (n * 10 ^ e : ℚ) ≤ 10 ^ ((k : ℤ) + 2) * 10 ^ e := by gcongr
      _ = 10 ^ ((k : ℤ) + 2 + e) := (zpow_add₀ (by norm_num) _ _).symm
      _ ≤ 10 ^ (-399 : ℤ) := zpow_le_zpow_right₀ (by norm_num) (by omega)
      _ ≤ 2 ^ (-1076 : ℤ) := ten_zpow_le_of_neg (by decide) (by decide)
  · by_contra hgt
    have hten : (10 : ℚ) ^ ((k : ℤ) - 4) ≤ n :=
      le_trans (ten_zpow_le_of_nonneg (by omega) (by omega)) hlow
    refine absurd htop (not_lt.2 ?_)
    calc (2 : ℚ) ^ (1024 : ℤ) ≤ 10 ^ (397 : ℤ) := two_zpow_le_of_nonneg (by decide) (by decide)
      _ ≤ 10 ^ ((k : ℤ) - 4 + e) := zpow_le_zpow_right₀ (by norm_num) (by omega)
      _ = 10 ^ ((k : ℤ) - 4) * 10 ^ e := zpow_add₀ (by norm_num) _ _
      _ ≤ n * 10 ^ e := by gcongr

/-- A decimal near a number is rounded to it: its size does not settle the result. -/
theorem ofDecimal_eq {n m : ℕ} {e s : ℤ} (hl : Legal m s) (h : Near (n * 10 ^ e) m s)
    (he : -400 ≤ e) (negative : Bool) :
    ofDecimal negative n e = withSign negative (magnitude m s) := by
  obtain ⟨hbottom, htop⟩ := h.bounds hl
  have hn : 0 < n := by
    have hpos : (0 : ℚ) < n * 10 ^ e := h.positive hl.positive
    have hnq : (0 : ℚ) < n := pos_of_mul_pos_left hpos (by positivity)
    exact_mod_cast hnq
  obtain ⟨hsmall, hbig⟩ := places_bounds hn he hbottom htop
  unfold ofDecimal
  rw [if_neg (by omega), if_neg (not_lt.2 hbig), if_neg (not_lt.2 hsmall)]
  by_cases h0 : 0 ≤ e
  · rw [if_pos h0]
    refine ofRatio_eq (Nat.mul_pos hn (Nat.pow_pos (by decide))) (by decide) hl ?_ negative
    have hcast : ((10 ^ e.toNat : ℕ) : ℚ) = 10 ^ e := cast_pow_toNat h0 10
    rw [Nat.cast_mul, hcast, Nat.cast_one, div_one]
    exact h
  · rw [if_neg h0]
    refine ofRatio_eq hn (Nat.pow_pos (by decide)) hl ?_ negative
    have hcast : ((10 ^ (-e).toNat : ℕ) : ℚ) = (10 ^ e)⁻¹ := cast_pow_toNat_neg h0 10
    rw [hcast, div_inv_eq_mul]
    exact h

/-- The shortest decimal of a number reads back as it, however its value is written. -/
theorem ofDecimal_of_value {f : Binary64} (hf : f.isFinite = true) (hz : f.isZero = false)
    {n : ℕ} {e : ℤ} (h : (n : ℚ) * 10 ^ e = f.shortest.value) (he : -400 ≤ e) :
    ofDecimal f.negative n e = f := by
  rw [ofDecimal_eq (legal_of_isFinite hf hz) (h ▸ (shortest_spec hf hz).1) he,
    withSign_magnitude hf]

end Binary64

end Reshape
