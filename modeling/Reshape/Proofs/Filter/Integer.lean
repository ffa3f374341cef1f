import Reshape.Filter.Builtin
import Reshape.Proofs.Number.Text
import Reshape.Proofs.Number.Whole

namespace Reshape.Filter

open Binary64

variable {n : ℤ}

theorem normal_fractionLimit : Normal fractionLimit := ⟨le_rfl, by decide⟩

/-- Below `-2 ^ 63` binary64 numbers are 2048 apart: what lies no lower than the middle is rounded
up to it. -/
theorem ofDecimal_below (hlow : minInt64 - 1024 ≤ n) (hhigh : n < minInt64) :
    ofDecimal true n.natAbs 0 = withSign true (magnitude fractionLimit 11) := by
  have hlowest : fractionLimit * 2 ^ 11 = 9223372036854775808 := rfl
  have hmiddle : (2 * fractionLimit + 1) * 2 ^ 11 = 18446744073709553664 := rfl
  unfold minInt64 at *
  refine ofDecimal_of_le_middle normal_fractionLimit rfl (by decide) ?_ ?_ true
  · rw [hlowest]
    omega
  · rw [hmiddle]
    omega

theorem not_inRange_ofDecimal (h : n < minInt64 - 1024 ∨ maxUInt64 < n)
    (hf : (ofDecimal (n < 0) n.natAbs 0).isFinite = true) :
    ¬(minInt64 ≤ (ofDecimal (n < 0) n.natAbs 0).truncate ∧
      (ofDecimal (n < 0) n.natAbs 0).truncate ≤ maxInt64) := by
  have hlowest : fractionLimit * 2 ^ 11 = 9223372036854775808 := rfl
  have hmiddle : (2 * fractionLimit + 1) * 2 ^ 11 = 18446744073709553664 := rfl
  have hpast : (2 * fractionLimit + 1) * 2 ^ 11 < 2 * n.natAbs := by
    rw [hmiddle]
    unfold minInt64 maxUInt64 at h
    omega
  obtain ⟨hsign, hmagnitude⟩ :=
    lt_floorMagnitude_ofDecimal normal_fractionLimit (by decide) hpast hf
  unfold truncate
  rw [hsign]
  unfold minInt64 maxInt64 maxUInt64 at *
  split
  · omega
  · next hsign =>
    rw [decide_eq_true_eq] at hsign
    omega

theorem integerOfText_of_numeral {s : String} (h : Numeral (Text.trim s.toList) n) :
    integerOfText s =
      if minInt64 ≤ n ∧ n ≤ maxUInt64 then .ok (.ofInt n)
      else if minInt64 - 1024 ≤ n ∧ n < minInt64 then .ok (.ofInt minInt64)
      else .error (.notConvertible (.string s) .integer) := by
  unfold integerOfText
  simp only [readInt64?_or_readUInt64?, readInteger?_of_numeral h, Option.filter_some,
    Bool.and_eq_true, decide_eq_true_eq]
  -- what no integer holds is read once more as a float, which is where the range is missed
  by_cases hheld : minInt64 ≤ n ∧ n ≤ maxUInt64
  · simp only [hheld, and_self, if_true]
  · have hzero : n ≠ 0 := by
      rintro rfl
      exact hheld (by decide)
    simp only [if_neg hheld, read?_of_numeral h hzero, Option.filter_some]
    by_cases hbelow : minInt64 - 1024 ≤ n ∧ n < minInt64
    · have hneg : n < 0 := lt_trans hbelow.2 (by decide)
      simp only [if_pos hbelow, hneg, decide_true, ofDecimal_below hbelow.1 hbelow.2]
      rfl
    · have hfar : n < minInt64 - 1024 ∨ maxUInt64 < n := by
        unfold minInt64 maxUInt64 at *
        omega
      rw [if_neg hbelow]
      cases hf : (ofDecimal (n < 0) n.natAbs 0).isFinite with
      | false => rfl
      | true =>
        simp only [if_true, inRange, if_neg (not_inRange_ofDecimal hfar hf)]
        rfl

theorem get_int : Registry.builtin.get "int" = .ok toInteger := rfl

/-- `int` keeps whole numbers. From text it reads one as it stands if it is a signed or an unsigned
64-bit integer; of the others it refuses all but the 1024 below the least one, which it takes for
that one. -/
theorem int_of_numeral {s : String} (h : Numeral (Text.trim s.toList) n) (field : String)
    (arguments : List Json) :
    Registry.builtin.apply field "int" (.ofInt n) arguments = .ok (.ofInt n) ∧
    Registry.builtin.apply field "int" (.string s) arguments =
      if minInt64 ≤ n ∧ n ≤ maxUInt64 then .ok (.ofInt n)
      else if minInt64 - 1024 ≤ n ∧ n < minInt64 then .ok (.ofInt minInt64)
      else .error (.filterFailed field "int" (.notConvertible (.string s) .integer)) := by
  unfold Registry.apply
  rw [get_int]
  refine ⟨rfl, ?_⟩
  simp only [toInteger, integerOfText_of_numeral h]
  split_ifs <;> rfl

/-- One below the least integer is changed, 1025 below it are refused. -/
theorem int_of_numeral_limits :
    Registry.builtin.apply "f" "int" (.string "+18446744073709551615") [] =
      .ok (.ofInt 18446744073709551615) ∧
    Registry.builtin.apply "f" "int" (.string " -9223372036854775809\n") [] =
      .ok (.ofInt (-9223372036854775808)) ∧
    Registry.builtin.apply "f" "int" (.string "-9223372036854776833") [] =
      .error (.filterFailed "f" "int"
        (.notConvertible (.string "-9223372036854776833") .integer)) := by
  have hhigh : Numeral (Text.trim "+18446744073709551615".toList) 18446744073709551615 :=
    .plus (show "18446744073709551615".toList ≠ [] by decide) (List.all_eq_true.1 rfl)
  have hbelow : Numeral (Text.trim " -9223372036854775809\n".toList) (-9223372036854775809) :=
    .minus (show "9223372036854775809".toList ≠ [] by decide) (List.all_eq_true.1 rfl)
  have hfar : Numeral (Text.trim "-9223372036854776833".toList) (-9223372036854776833) :=
    .minus (show "9223372036854776833".toList ≠ [] by decide) (List.all_eq_true.1 rfl)
  exact ⟨(int_of_numeral hhigh "f" []).2, (int_of_numeral hbelow "f" []).2,
    (int_of_numeral hfar "f" []).2⟩

end Reshape.Filter
