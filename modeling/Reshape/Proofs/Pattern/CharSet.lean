import Mathlib.Tactic.Tauto
import Reshape.Pattern.CharSet

namespace Reshape.Pattern.CharSet

abbrev Ascending (spans : List (Nat × Nat)) : Prop := spans.Pairwise fun a b => a.1 ≤ b.1

theorem ascending_sorted (spans : List (Nat × Nat)) : Ascending (sorted spans) := by
  have htrans (a b c : Nat × Nat) (hab : decide (a.1 ≤ b.1) = true)
      (hbc : decide (b.1 ≤ c.1) = true) : decide (a.1 ≤ c.1) = true := by
    simp only [decide_eq_true_eq] at hab hbc ⊢
    omega
  have htotal (a b : Nat × Nat) : (decide (a.1 ≤ b.1) || decide (b.1 ≤ a.1)) = true := by
    simp only [Bool.or_eq_true, decide_eq_true_eq]
    omega
  exact (List.pairwise_mergeSort htrans htotal spans).imp fun hle => of_decide_eq_true hle

@[simp]
theorem covers_sorted (spans : List (Nat × Nat)) (code : Nat) :
    covers (sorted spans) code = covers spans code :=
  (List.mergeSort_perm spans _).any_eq

@[simp]
theorem covers_nil (code : Nat) : covers [] code = false := rfl

@[simp]
theorem covers_append (as bs : List (Nat × Nat)) (code : Nat) :
    covers (as ++ bs) code = (covers as code || covers bs code) := List.any_append

@[simp]
theorem covers_cons (span : Nat × Nat) (spans : List (Nat × Nat)) (code : Nat) :
    covers (span :: spans) code =
      ((decide (span.1 ≤ code) && decide (code ≤ span.2)) || covers spans code) := rfl

theorem covers_joined {spans : List (Nat × Nat)} (h : Ascending spans) (code : Nat) :
    covers (joined spans) code = covers spans code := by
  induction spans using joined.induct with
  | case1 first last first' last' rest hmeet ih =>
    obtain ⟨⟨hle, hfirst⟩, -, hrest⟩ := by
      simpa only [Ascending, List.pairwise_cons, List.forall_mem_cons] using h
    rw [joined, if_pos hmeet, ih (List.pairwise_cons.2 ⟨hfirst, hrest⟩)]
    simp only [covers_cons, ← Bool.or_assoc]
    congr 1
    rw [Bool.eq_iff_iff]
    simp only [Bool.and_eq_true, Bool.or_eq_true, decide_eq_true_eq]
    omega
  | case2 first last first' last' rest hapart ih =>
    rw [joined, if_neg hapart, covers_cons, ih (List.pairwise_cons.1 h).2,
      covers_cons (first, last)]
  | case3 spans hshort => rw [joined]; exact hshort

theorem covers_of_lt {spans : List (Nat × Nat)} {code first : Nat}
    (h : ∀ span ∈ spans, first ≤ span.1) (hcode : code < first) : covers spans code = false := by
  simp only [covers, List.any_eq_false, Bool.and_eq_true, decide_eq_true_eq]
  intro span hspan
  have := h span hspan
  omega

theorem covers_cons_eq_false {first last code : Nat} {spans : List (Nat × Nat)} :
    covers ((first, last) :: spans) code = false ↔
      (code < first ∨ last < code) ∧ covers spans code = false := by
  simp only [covers_cons, Bool.or_eq_false_iff, Bool.and_eq_false_iff, decide_eq_false_iff_not,
    Nat.not_le]

theorem covers_gap {start first code : Nat} :
    covers (if start < first then [(start, first - 1)] else []) code = true ↔
      start ≤ code ∧ code < first := by
  split
  · simp only [covers_cons, covers_nil, Bool.or_false, Bool.and_eq_true, decide_eq_true_eq]
    omega
  · simp only [covers_nil, Bool.false_eq_true, false_iff]
    omega

theorem covers_gaps {spans : List (Nat × Nat)} (h : Ascending spans) {start code : Nat}
    (hcode : code ≤ 0x10ffff) :
    covers (gaps start spans) code = true ↔ start ≤ code ∧ covers spans code = false := by
  induction spans generalizing start with
  | nil =>
    by_cases hstart : start ≤ 0x10ffff
    · simp [gaps, hstart, hcode]
    · have : ¬ start ≤ code := by omega
      simp [gaps, hstart, this]
  | cons span rest ih =>
    obtain ⟨first, last⟩ := span
    obtain ⟨hfirst, hrest⟩ := List.pairwise_cons.1 h
    have hbefore : code < first → covers rest code = false := covers_of_lt hfirst
    rw [gaps, covers_append, Bool.or_eq_true, covers_gap, ih hrest, covers_cons_eq_false]
    -- a code before the range is left out by the rest as well
    cases hc : covers rest code with
    | false => simp only [and_true]; omega
    | true =>
      have : ¬ code < first := fun hlt => by simp [hbefore hlt] at hc
      simp only [Bool.true_eq_false, and_false, or_false, iff_false]
      omega

@[simp]
theorem contains_unions (sets : List CharSet) (c : Char) :
    (unions sets).contains c = sets.any (·.contains c) := by
  rw [contains, unions, covers_joined (ascending_sorted _), covers_sorted]
  simp only [covers, List.any_flatMap, contains]

@[simp]
theorem contains_either (a b : CharSet) (c : Char) :
    (either a b).contains c = (a.contains c || b.contains c) := by
  simp only [either, contains_unions, List.any_cons, List.any_nil, Bool.or_false]

theorem toNat_le (c : Char) : c.toNat ≤ 0x10ffff := by
  have h := c.valid
  rcases h with h | h
  · exact Nat.le_of_lt (Nat.lt_trans h (by decide))
  · exact Nat.le_of_lt_succ h.2

@[simp]
theorem contains_not (a : CharSet) (c : Char) : (not a).contains c = !a.contains c := by
  rw [contains, not, Bool.eq_iff_iff, covers_gaps (ascending_sorted _) (toNat_le c), covers_sorted,
    Bool.not_eq_true', contains]
  exact and_iff_right (Nat.zero_le _)

@[simp]
theorem contains_both (a b : CharSet) (c : Char) :
    (both a b).contains c = (a.contains c && b.contains c) := by
  simp only [both, contains_not, contains_either, Bool.not_or, Bool.not_not]

@[simp]
theorem contains_without (a b : CharSet) (c : Char) :
    (without a b).contains c = (a.contains c && !b.contains c) := by
  simp only [without, contains_both, contains_not]

@[simp]
theorem contains_apart (a b : CharSet) (c : Char) :
    (apart a b).contains c = (a.contains c != b.contains c) := by
  simp only [apart, contains_either, contains_without]
  cases a.contains c <;> cases b.contains c <;> rfl

theorem contains_ofCodes (codes : List Nat) (c : Char) :
    (ofCodes codes).contains c = codes.contains c.toNat := by
  rw [ofCodes, contains_unions, List.any_map, List.contains_eq_any_beq]
  refine congrArg codes.any (funext fun code => ?_)
  rw [Bool.eq_iff_iff]
  simp only [Function.comp, contains, covers_cons, covers_nil, Bool.or_false, Bool.and_eq_true,
    decide_eq_true_eq, beq_iff_eq]
  omega

theorem contains_holding (p : Char → Bool) {bound : Nat} {c : Char} (h : c.toNat < bound) :
    (holding p bound).contains c = p c := by
  rw [holding, contains_ofCodes, Bool.eq_iff_iff, List.contains_iff_mem, List.mem_filter,
    List.mem_range, Char.ofNat_toNat]
  exact and_iff_right h

/-- A set without regard to case has a character that is in it as it is, or that differs from a
member in case alone. -/
theorem contains_caseless (ascii : Bool) (a : CharSet) (c : Char) :
    (caseless ascii a).contains c = true ↔ a.contains c = true ∨
      ∃ codes ∈ if ascii then asciiFoldClasses else Text.foldClasses,
        c.toNat ∈ codes ∧ ∃ code ∈ codes, a.contains (Char.ofNat code) = true := by
  simp only [caseless, contains_unions, List.any_cons, Bool.or_eq_true, List.any_map,
    List.any_eq_true, List.mem_filter, Function.comp, contains_ofCodes, List.contains_iff_mem]
  refine or_congr_right (exists_congr fun codes => ?_)
  tauto

end Reshape.Pattern.CharSet
