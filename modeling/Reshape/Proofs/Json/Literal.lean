import Reshape.Json.Reader
import Reshape.Json.Writer
import Reshape.Proofs.Number.Text

namespace Reshape

theorem digitChar_ne_zero : ∀ n < 10, 0 < n → n.digitChar ≠ '0' := by decide

theorem head?_digitsOf_ne {n : ℕ} (hn : 0 < n) : (digitsOf n).head? ≠ some '0' := by
  induction n using Nat.strong_induction_on with
  | _ n ih =>
    unfold digitsOf at *
    by_cases h : n < 10
    · rw [Nat.toDigits_of_lt_base h]
      simpa using digitChar_ne_zero n h hn
    · have hlast := Nat.toDigits_of_base_le (b := 10) (by decide) (Nat.not_lt.1 h)
      have hfront := ih (n / 10) (by omega) (by omega)
      rw [hlast, List.head?_append_of_ne_nil _ Nat.toDigits_ne_nil]
      exact hfront

namespace Json

variable {rest : List Char}

/-- A text that cannot go on with a number literal. -/
def EndsLiteral (rest : List Char) : Prop :=
  ∀ c ∈ rest.head?, Text.isAsciiDigit c = false ∧ c ≠ '.' ∧ c ≠ 'e' ∧ c ≠ 'E'

theorem endsLiteral_nil : EndsLiteral [] := by simp [EndsLiteral]

theorem EndsLiteral.cons {c : Char} (h : Text.isAsciiDigit c = false ∧ c ≠ '.' ∧ c ≠ 'e' ∧ c ≠ 'E')
    (rest : List Char) : EndsLiteral (c :: rest) := by
  intro d hd
  obtain rfl := Option.some.inj hd
  exact h

theorem digits?_append {s run behind : List Char} (h : digits? s = some (run, behind))
    (hr : EndsLiteral rest) : digits? (s ++ rest) = some (run, behind ++ rest) := by
  unfold digits? at h
  simp only [List.isEmpty_iff] at h
  split at h
  · exact absurd h (by simp)
  · next hne =>
    obtain ⟨htake, hdrop⟩ := Prod.mk.inj (Option.some.inj h)
    have hall : ∀ c ∈ run, Text.isAsciiDigit c = true := by
      rw [← htake]
      exact List.all_eq_true.1 List.all_takeWhile
    -- the run ends where it ended, or at the end of the literal
    have hstop : ∀ c ∈ (behind ++ rest).head?, Text.isAsciiDigit c = false := by
      intro c hc
      cases behind with
      | nil => exact (hr c hc).1
      | cons d more =>
        obtain rfl := Option.some.inj hc
        have := List.head?_dropWhile_not Text.isAsciiDigit s
        rw [hdrop] at this
        simpa using this
    have hs : s = run ++ behind := by
      rw [← htake, ← hdrop]
      exact List.takeWhile_append_dropWhile.symm
    obtain ⟨htake', hdrop'⟩ := Text.span_append hall hstop
    unfold digits?
    rw [hs, List.append_assoc, htake', hdrop']
    simp [htake ▸ hne]

theorem fraction?_append {s behind : List Char} {run : Option (List Char)}
    (h : fraction? s = some (run, behind)) (hr : EndsLiteral rest) :
    fraction? (s ++ rest) = some (run, behind ++ rest) := by
  unfold fraction? at h
  split at h
  · next more =>
    obtain ⟨found, hfound, hpair⟩ := Option.map_eq_some_iff.1 h
    obtain ⟨rfl, rfl⟩ := Prod.mk.inj hpair
    rw [List.cons_append, fraction?, digits?_append hfound hr]
    rfl
  · next hpoint =>
    obtain ⟨rfl, rfl⟩ := Prod.mk.inj (Option.some.inj h)
    unfold fraction?
    split
    · next more hs =>
      cases s with
      | nil => exact absurd rfl (hr '.' (by rw [List.nil_append] at hs; simp [hs])).2.1
      | cons c s => exact absurd (congrArg (· :: s) (List.cons.inj hs).1) (hpoint s)
    · rfl

theorem dropSign_append {s : List Char} (hs : s ≠ []) (rest : List Char) :
    dropSign (s ++ rest) = ((dropSign s).1, (dropSign s).2 ++ rest) := by
  obtain ⟨c, s, rfl⟩ := List.exists_cons_of_ne_nil hs
  unfold dropSign
  rw [List.cons_append]
  split <;> simp_all

theorem dropMinus_append {s : List Char} (hs : s ≠ []) (rest : List Char) :
    dropMinus (s ++ rest) = ((dropMinus s).1, (dropMinus s).2 ++ rest) := by
  obtain ⟨c, s, rfl⟩ := List.exists_cons_of_ne_nil hs
  unfold dropMinus
  rw [List.cons_append]
  split <;> simp_all

theorem ne_nil_of_digits? {s : List Char} {found : List Char × List Char}
    (h : digits? s = some found) : s ≠ [] := by
  rintro rfl
  exact absurd h (by simp [digits?])

theorem exponent?_append {s behind : List Char} {e : Option Int}
    (h : exponent? s = some (e, behind)) (hr : EndsLiteral rest) :
    exponent? (s ++ rest) = some (e, behind ++ rest) := by
  cases s with
  | nil =>
    obtain ⟨rfl, rfl⟩ := Prod.mk.inj (Option.some.inj h)
    cases rest with
    | nil => rfl
    | cons c more =>
      obtain ⟨-, -, he, hE⟩ := hr c rfl
      simp [exponent?, he, hE]
  | cons c s =>
    rw [exponent?] at h
    rw [List.cons_append, exponent?]
    split at h
    · next hc =>
      obtain ⟨found, hfound, hpair⟩ := Option.map_eq_some_iff.1 h
      obtain ⟨rfl, rfl⟩ := Prod.mk.inj hpair
      have hs : s ≠ [] := by
        rintro rfl
        exact ne_nil_of_digits? hfound rfl
      simp [if_pos hc, dropSign_append hs, digits?_append hfound hr]
    · next hc =>
      obtain ⟨rfl, rfl⟩ := Prod.mk.inj (Option.some.inj h)
      rw [if_neg hc]
      rfl

/-- A literal that fills a text is read alike in front of what ends it. -/
theorem literal?_append {s : List Char} {l : Literal} (h : literal? s = some (l, []))
    (hr : EndsLiteral rest) : literal? (s ++ rest) = some (l, rest) := by
  simp only [literal?] at h
  split at h
  · exact absurd h (by simp)
  · next whole behind hwhole =>
    have hs : s ≠ [] := by
      rintro rfl
      exact ne_nil_of_digits? hwhole rfl
    split at h
    · exact absurd h (by simp)
    · next hzero =>
      split at h
      · exact absurd h (by simp)
      · next fraction more hfraction =>
        obtain ⟨found, hexponent, hpair⟩ := Option.map_eq_some_iff.1 h
        obtain ⟨rfl, hnil⟩ := Prod.mk.inj hpair
        have hexponent' : exponent? more = some (found.1, []) := hnil ▸ hexponent
        unfold literal?
        simp [dropMinus_append hs, digits?_append hwhole hr, hzero,
          fraction?_append hfraction hr, exponent?_append hexponent' hr]

theorem starts_of_literal? {s : List Char} {found : Literal × List Char}
    (h : literal? s = some found) :
    ∃ c more, s = c :: more ∧ (c = '-' ∨ Text.isAsciiDigit c = true) := by
  simp only [literal?] at h
  split at h
  · exact absurd h (by simp)
  · next whole behind hwhole =>
    cases s with
    | nil => exact absurd rfl (ne_nil_of_digits? hwhole)
    | cons c more =>
      refine ⟨c, more, rfl, ?_⟩
      by_cases hc : c = '-'
      · exact .inl hc
      · right
        have hsign : dropMinus (c :: more) = (false, c :: more) := by
          unfold dropMinus
          split <;> simp_all
        rw [hsign] at hwhole
        by_contra hdigit
        exact absurd hwhole (by simp [digits?, hdigit])

/-- The number's text is a literal that stands for it. -/
def Number.ReadsBack (m : Number) : Prop :=
  ∃ l, literal? m.chars = some (l, []) ∧ l.number? = some m

theorem le_gathered (n : ℕ) (ds : List Char) :
    n ≤ ds.foldl (fun n c => n * 10 + (c.toNat - 48)) n := by
  induction ds generalizing n with
  | nil => exact Nat.le_refl n
  | cons d ds ih =>
    have := ih (n * 10 + (d.toNat - 48))
    rw [List.foldl_cons]
    omega

/-- Digits are taken up to the last one where 64 bits hold their value. -/
theorem gather_eq {n : ℕ} {ds : List Char}
    (h : (ds.foldl (fun n c => n * 10 + (c.toNat - 48)) n : ℕ) ≤ maxUInt64) :
    gather n ds = (ds.foldl (fun n c => n * 10 + (c.toNat - 48)) n, 0) := by
  induction ds generalizing n with
  | nil => rfl
  | cons d ds ih =>
    rw [List.foldl_cons] at h ⊢
    have hle := le_gathered (n * 10 + (d.toNat - 48)) ds
    have hfits : ((n * 10 + (d.toNat - 48) : ℕ) : ℤ) ≤ maxUInt64 := by omega
    unfold gather
    rw [if_pos hfits, ih h]

theorem gather_digitsOf {n : ℕ} (h : (n : ℤ) ≤ maxUInt64) : gather 0 (digitsOf n) = (n, 0) := by
  have hvalue : (digitsOf n).foldl (fun n c => n * 10 + (c.toNat - 48)) 0 = n :=
    digitsValue_digitsOf n
  rw [gather_eq (by rw [hvalue]; exact h), hvalue]

theorem digits?_digitsOf (n : ℕ) : digits? (digitsOf n) = some (digitsOf n, []) := by
  obtain ⟨htake, hdrop⟩ := Text.span_append (p := Text.isAsciiDigit) (s := [])
    (fun c => isAsciiDigit_of_mem_digitsOf (n := n) (c := c)) (by simp)
  rw [List.append_nil] at htake hdrop
  simp [digits?, htake, hdrop, digitsOf_ne_nil]

theorem digitsOf_no_leading_zero (n : ℕ) :
    ¬((digitsOf n).length > 1 ∧ (digitsOf n).head? = some '0') := by
  rintro ⟨hlength, hhead⟩
  rcases Nat.eq_zero_or_pos n with rfl | hn
  · exact absurd hlength (by decide)
  · exact head?_digitsOf_ne hn hhead

theorem dropMinus_digitsOf (n : ℕ) : dropMinus (digitsOf n) = (false, digitsOf n) := by
  unfold dropMinus
  split
  · next hs =>
    have hdigit := isAsciiDigit_of_mem_digitsOf (n := n) (c := '-') (hs ▸ List.mem_cons_self)
    exact absurd hdigit (by decide)
  · rfl

theorem literal?_integerText (n : ℤ) :
    literal? (integerText n) = some (⟨n < 0, digitsOf n.natAbs, none, none⟩, []) := by
  have hsign : dropMinus (integerText n) = (decide (n < 0), digitsOf n.natAbs) := by
    unfold integerText
    split
    · next hn => simp [dropMinus, hn]
    · next hn => simp [dropMinus_digitsOf, hn]
  unfold literal?
  simp [hsign, digits?_digitsOf, digitsOf_no_leading_zero, fraction?, exponent?]

/-- Zero is written without a sign: with one it would be read as a float. -/
theorem Number.readsBack_whole {n : ℤ} (hmin : minInt64 ≤ n) (hmax : n ≤ maxUInt64) :
    (Number.whole n).ReadsBack := by
  have hfits : ((n.natAbs : ℕ) : ℤ) ≤ maxUInt64 := by
    unfold minInt64 maxUInt64 at *
    omega
  refine ⟨_, literal?_integerText n, ?_⟩
  unfold Literal.number?
  simp only [gather_digitsOf hfits, Nat.lt_irrefl, gt_iff_lt, if_false]
  by_cases hn : n < 0
  · have hpos : 0 < n.natAbs ∧ minInt64 ≤ -(n.natAbs : ℤ) := by omega
    simp only [hn, decide_true, Bool.not_true, Bool.false_eq_true, if_false, if_pos hpos]
    congr 2
    omega
  · simp only [hn, decide_false, Bool.not_false, if_true]
    congr 2
    omega

end Json

end Reshape
