import Reshape.Number.Text
import Reshape.Proofs.Number.Shortest
import Reshape.Proofs.Text

namespace Reshape

theorem isAsciiDigit_iff {c : Char} : Text.isAsciiDigit c = true ↔ 48 ≤ c.toNat ∧ c.toNat ≤ 57 := by
  simp only [Text.isAsciiDigit, Bool.and_eq_true, decide_eq_true_eq, Text.le_iff_toNat]
  exact Iff.rfl

theorem isAsciiDigit_of_mem_digitsOf {n : ℕ} {c : Char} (h : c ∈ digitsOf n) :
    Text.isAsciiDigit c = true := by
  have hdigit := Nat.isDigit_of_mem_toDigits (by decide) (by decide) h
  simp only [Char.isDigit, Bool.and_eq_true, decide_eq_true_eq] at hdigit
  exact isAsciiDigit_iff.2 hdigit

theorem digitsOf_ne_nil (n : ℕ) : digitsOf n ≠ [] := Nat.toDigits_ne_nil

theorem digitsValue_eq (cs : List Char) : digitsValue cs = Nat.ofDigitChars 10 cs 0 := by
  unfold digitsValue
  rw [Nat.ofDigitChars_eq_foldl]
  congr 1
  funext n c
  rw [Nat.mul_comm]

@[simp] theorem digitsValue_digitsOf (n : ℕ) : digitsValue (digitsOf n) = n := by
  rw [digitsValue_eq, digitsOf, Nat.ofDigitChars_ten_toDigits]

theorem digitsValue_append (cs ds : List Char) :
    digitsValue (cs ++ ds) = 10 ^ ds.length * digitsValue cs + digitsValue ds := by
  simp only [digitsValue_eq]
  rw [Nat.ofDigitChars_append, Nat.ofDigitChars_eq_ofDigitChars_zero]

theorem digitsValue_zeros (n : ℕ) : digitsValue (List.replicate n '0') = 0 := by
  rw [digitsValue_eq, Nat.ofDigitChars_replicate_zero, Nat.mul_zero]

/-- A text without its sign, and whether that was a minus. -/
def signed (cs : List Char) : Bool × List Char :=
  match cs with
  | '-' :: rest => (true, rest)
  | '+' :: rest => (false, rest)
  | _ => (false, cs)

theorem signed_of_isAsciiDigit {c : Char} (hc : Text.isAsciiDigit c = true) (rest : List Char) :
    signed (c :: rest) = (false, c :: rest) := by
  unfold signed
  split
  · next h =>
    obtain ⟨rfl, -⟩ := List.cons.inj h
    exact absurd hc (by decide)
  · next h =>
    obtain ⟨rfl, -⟩ := List.cons.inj h
    exact absurd hc (by decide)
  · rfl

theorem readInteger?_eq (cs : List Char) : readInteger? cs =
    if (signed cs).2.isEmpty || !(signed cs).2.all Text.isAsciiDigit then none
    else some (if (signed cs).1 then -(digitsValue (signed cs).2 : ℤ)
      else digitsValue (signed cs).2) := rfl

theorem signed_minus (rest : List Char) : signed ('-' :: rest) = (true, rest) := rfl

theorem signed_plus (rest : List Char) : signed ('+' :: rest) = (false, rest) := rfl

theorem readInteger?_of_signed {cs ds : List Char} {negative : Bool}
    (hs : signed cs = (negative, ds)) (hne : ds ≠ [])
    (hall : ∀ c ∈ ds, Text.isAsciiDigit c = true) :
    readInteger? cs = some (if negative then -(digitsValue ds : ℤ) else digitsValue ds) := by
  have hdigits : (ds.isEmpty || !ds.all Text.isAsciiDigit) = false := by
    simpa [hne] using hall
  rw [readInteger?_eq, hs, hdigits]
  rfl

theorem signed_digitsOf (n : ℕ) : signed (digitsOf n) = (false, digitsOf n) := by
  obtain ⟨c, rest, h⟩ := List.exists_cons_of_ne_nil (digitsOf_ne_nil n)
  rw [h]
  exact signed_of_isAsciiDigit (isAsciiDigit_of_mem_digitsOf (h ▸ List.mem_cons_self)) rest

theorem readInteger?_integerText (n : ℤ) : readInteger? (integerText n) = some n := by
  have hall : ∀ c ∈ digitsOf n.natAbs, Text.isAsciiDigit c = true := fun _ hc =>
    isAsciiDigit_of_mem_digitsOf hc
  unfold integerText
  by_cases hn : n < 0
  · rw [if_pos hn, readInteger?_of_signed (signed_minus _) (digitsOf_ne_nil _) hall,
      digitsValue_digitsOf]
    simp only [if_true, Option.some.injEq]
    omega
  · rw [if_neg hn, readInteger?_of_signed (signed_digitsOf _) (digitsOf_ne_nil _) hall,
      digitsValue_digitsOf]
    simp only [Bool.false_eq_true, if_false, Option.some.injEq]
    omega

theorem readInteger?_plus {n : ℤ} (hn : 0 ≤ n) :
    readInteger? ('+' :: integerText n) = some n := by
  have hall : ∀ c ∈ digitsOf n.natAbs, Text.isAsciiDigit c = true := fun _ hc =>
    isAsciiDigit_of_mem_digitsOf hc
  unfold integerText
  rw [if_neg (by omega), readInteger?_of_signed (signed_plus _) (digitsOf_ne_nil _) hall,
    digitsValue_digitsOf]
  simp only [Bool.false_eq_true, if_false, Option.some.injEq]
  omega

/-- Texts of an optional sign and one or more digits, with the number they denote. -/
inductive Numeral : List Char → ℤ → Prop where
  | plain {ds : List Char} (hne : ds ≠ []) (hall : ∀ c ∈ ds, Text.isAsciiDigit c = true) :
    Numeral ds (Nat.ofDigitChars 10 ds 0)
  | plus {ds : List Char} (hne : ds ≠ []) (hall : ∀ c ∈ ds, Text.isAsciiDigit c = true) :
    Numeral ('+' :: ds) (Nat.ofDigitChars 10 ds 0)
  | minus {ds : List Char} (hne : ds ≠ []) (hall : ∀ c ∈ ds, Text.isAsciiDigit c = true) :
    Numeral ('-' :: ds) (-(Nat.ofDigitChars 10 ds 0 : ℤ))

theorem exists_signed_of_numeral {cs : List Char} {n : ℤ} (h : Numeral cs n) :
    ∃ (negative : Bool) (ds : List Char), signed cs = (negative, ds) ∧ ds ≠ [] ∧
      (∀ c ∈ ds, Text.isAsciiDigit c = true) ∧
      n = if negative then -(digitsValue ds : ℤ) else digitsValue ds := by
  cases h with
  | plain hne hall =>
    obtain ⟨c, rest, rfl⟩ := List.exists_cons_of_ne_nil hne
    have hsigned := signed_of_isAsciiDigit (hall c List.mem_cons_self) rest
    exact ⟨false, _, hsigned, hne, hall, by rw [digitsValue_eq]; rfl⟩
  | plus hne hall => exact ⟨false, _, signed_plus _, hne, hall, by rw [digitsValue_eq]; rfl⟩
  | minus hne hall => exact ⟨true, _, signed_minus _, hne, hall, by rw [digitsValue_eq]; rfl⟩

theorem readInteger?_of_numeral {cs : List Char} {n : ℤ} (h : Numeral cs n) :
    readInteger? cs = some n := by
  obtain ⟨negative, ds, hs, hne, hall, rfl⟩ := exists_signed_of_numeral h
  exact readInteger?_of_signed hs hne hall

theorem nonneg_of_readInteger? {cs : List Char} (h : ∀ tail, cs ≠ '-' :: tail) {n : ℤ}
    (hn : readInteger? cs = some n) : 0 ≤ n := by
  have hsign : (signed cs).1 = false := by
    unfold signed
    split
    · exact absurd rfl (h _)
    · rfl
    · rfl
  rw [readInteger?_eq, hsign] at hn
  split at hn
  · exact absurd hn (by simp)
  · simp only [Bool.false_eq_true, if_false, Option.some.injEq] at hn
    omega

theorem nonpos_of_readInteger? {tail : List Char} {n : ℤ}
    (hn : readInteger? ('-' :: tail) = some n) : n ≤ 0 := by
  rw [readInteger?_eq, signed_minus] at hn
  split at hn
  · exact absurd hn (by simp)
  · simp only [if_true, Option.some.injEq] at hn
    omega

/-- Signed numbers are tried before unsigned ones, which together are all numbers between the
two bounds. -/
theorem readInt64?_or_readUInt64? (cs : List Char) : (readInt64? cs).or (readUInt64? cs) =
    (readInteger? cs).filter fun n => minInt64 ≤ n && n ≤ maxUInt64 := by
  unfold readInt64? readUInt64? minInt64 maxInt64 maxUInt64
  split
  · next tail =>
    cases hn : readInteger? ('-' :: tail) with
    | none => rfl
    | some n =>
      -- behind a minus sign the unsigned reader has nothing to add
      have hsign := nonpos_of_readInteger? hn
      simp only [Option.filter_some, Option.or_none]
      congr 1
      simp only [Bool.and_eq_true, decide_eq_true_eq, eq_iff_iff]
      omega
  · next hminus =>
    cases hn : readInteger? cs with
    | none => rfl
    | some n =>
      have hsign := nonneg_of_readInteger? hminus hn
      simp only [Option.filter_some, Bool.and_eq_true, decide_eq_true_eq]
      by_cases hsmall : n ≤ 9223372036854775807
      · rw [if_pos ⟨by omega, hsmall⟩, Option.some_or, if_pos ⟨by omega, by omega⟩]
      · rw [if_neg (by omega), Option.none_or]
        congr 1
        rw [eq_iff_iff]
        omega

namespace Binary64

theorem readMantissa?_point {whole fraction rest : List Char} (hne : whole ≠ [])
    (hw : ∀ c ∈ whole, Text.isAsciiDigit c = true)
    (hf : ∀ c ∈ fraction, Text.isAsciiDigit c = true)
    (hr : ∀ c ∈ rest.head?, Text.isAsciiDigit c = false) :
    readMantissa? (whole ++ '.' :: (fraction ++ rest)) =
      some (digitsValue (whole ++ fraction), fraction.length, rest) := by
  obtain ⟨htake, hdrop⟩ := Text.span_append (s := '.' :: (fraction ++ rest)) hw (by
    intro c hc
    obtain rfl := Option.some.inj hc
    decide)
  obtain ⟨htake', hdrop'⟩ := Text.span_append hf hr
  simp only [readMantissa?, htake, hdrop, htake', hdrop']
  rw [if_neg (by simp [hne])]

theorem readMantissa?_whole {whole rest : List Char} (hne : whole ≠ [])
    (hw : ∀ c ∈ whole, Text.isAsciiDigit c = true)
    (hr : ∀ c ∈ rest.head?, Text.isAsciiDigit c = false ∧ c ≠ '.') :
    readMantissa? (whole ++ rest) = some (digitsValue whole, 0, rest) := by
  obtain ⟨htake, hdrop⟩ := Text.span_append hw fun c hc => (hr c hc).1
  unfold readMantissa?
  simp only [htake, hdrop]
  cases rest with
  | nil => simp [hne]
  | cons d more =>
    have hdot : d ≠ '.' := (hr d rfl).2
    split
    · next h => exact absurd (List.cons.inj h).1 hdot
    · simp [hne]

def ofMantissa (negative : Bool) (n behind : ℕ) : List Char → Option Binary64
  | [] => some (ofDecimal negative n (-behind))
  | e :: exponent =>
    if e = 'e' || e = 'E' then
      (readInteger? exponent).bind fun k => some (ofDecimal negative n (k - behind))
    else none

theorem read?_eq (cs : List Char) : read? cs =
    if String.ofList (Text.asciiLower (signed cs).2) = "inf" ||
        String.ofList (Text.asciiLower (signed cs).2) = "infinity" then
      some (infinity (signed cs).1)
    else if String.ofList (Text.asciiLower (signed cs).2) = "nan" then some nan
    else (readMantissa? (signed cs).2).bind fun (digits, behind, rest) =>
      ofMantissa (signed cs).1 digits behind rest := rfl

theorem asciiLowerChar_of_isAsciiDigit {c : Char} (hc : Text.isAsciiDigit c = true) :
    Text.asciiLowerChar c = c := by
  have hbounds := isAsciiDigit_iff.1 hc
  unfold Text.asciiLowerChar
  rw [if_neg]
  simp only [Text.isAsciiUpper, Bool.and_eq_true, decide_eq_true_eq, Text.le_iff_toNat]
  intro hupper
  have hcode : 'A'.toNat = 65 := rfl
  omega

/-- Nothing that starts with a digit is one of the words. -/
theorem read?_of_mantissa {cs tail rest : List Char} {c : Char} {negative : Bool} {n behind : ℕ}
    (hs : signed cs = (negative, c :: tail)) (hc : Text.isAsciiDigit c = true)
    (hm : readMantissa? (c :: tail) = some (n, behind, rest)) :
    read? cs = ofMantissa negative n behind rest := by
  -- the words start with letters
  have hword : ∀ word : String, word.toList.head?.all (fun d => !Text.isAsciiDigit d) = true →
      String.ofList (Text.asciiLower (c :: tail)) ≠ word := by
    rintro word hhead rfl
    rw [String.toList_ofList, Text.asciiLower, List.map_cons,
      asciiLowerChar_of_isAsciiDigit hc] at hhead
    simp [hc] at hhead
  have hinf := hword "inf" (by decide)
  have hinfinity := hword "infinity" (by decide)
  have hnan := hword "nan" (by decide)
  rw [read?_eq, hs]
  simp only [hinf, hinfinity, hnan, hm]
  rfl

/-- A numeral that does not denote zero is read with the sign of its number. -/
theorem read?_of_numeral {cs : List Char} {n : ℤ} (h : Numeral cs n) (hn : n ≠ 0) :
    read? cs = some (ofDecimal (n < 0) n.natAbs 0) := by
  obtain ⟨negative, ds, hs, hne, hall, rfl⟩ := exists_signed_of_numeral h
  have hm : readMantissa? (ds ++ []) = some (digitsValue ds, 0, []) :=
    readMantissa?_whole hne hall (by simp)
  obtain ⟨c, rest, rfl⟩ := List.exists_cons_of_ne_nil hne
  rw [List.append_nil] at hm
  rw [read?_of_mantissa hs (hall c List.mem_cons_self) hm, ofMantissa]
  cases negative with
  | false =>
    have hsign : ¬(digitsValue (c :: rest) : ℤ) < 0 := by omega
    simp [hsign]
  | true =>
    have hpos : 0 < digitsValue (c :: rest) := by
      simp only [if_true, ne_eq, neg_eq_zero] at hn
      omega
    simp [hpos]

theorem signed_signText (f : Binary64) {c : Char} (hc : Text.isAsciiDigit c = true)
    (tail : List Char) : signed (f.signText ++ c :: tail) = (f.negative, c :: tail) := by
  unfold signText
  by_cases h : f.negative = true
  · rw [if_pos h, h]
    rfl
  · rw [if_neg h, Bool.eq_false_iff.2 h]
    exact signed_of_isAsciiDigit hc tail

/-- A text of a digit, digits, and what may come behind them, read as the mantissa says. -/
theorem read?_signText {f : Binary64} {body rest : List Char} {n behind : ℕ}
    (hstart : ∃ c tail, body = c :: tail ∧ Text.isAsciiDigit c = true)
    (hm : readMantissa? body = some (n, behind, rest)) :
    read? (f.signText ++ body) = ofMantissa f.negative n behind rest := by
  obtain ⟨c, tail, rfl, hc⟩ := hstart
  exact read?_of_mantissa (signed_signText f hc tail) hc hm

theorem starts_of_digits {ds : List Char} (hne : ds ≠ [])
    (hall : ∀ c ∈ ds, Text.isAsciiDigit c = true) (behind : List Char) :
    ∃ c tail, ds ++ behind = c :: tail ∧ Text.isAsciiDigit c = true := by
  obtain ⟨c, rest, rfl⟩ := List.exists_cons_of_ne_nil hne
  exact ⟨c, rest ++ behind, rfl, hall c List.mem_cons_self⟩

/-- The value of a decimal may be spread over digits and exponent in any way. -/
theorem value_eq_of_shift (d : Decimal) (k : ℕ) :
    ((d.digits * 10 ^ k : ℕ) : ℚ) * 10 ^ (d.exponent - k) = d.value := by
  rw [Decimal.value, Nat.cast_mul, Nat.cast_pow, zpow_sub₀ (by norm_num), zpow_natCast]
  field_simp
  push_cast
  ring

theorem places_eq (d : Decimal) : d.places = (digitsOf d.digits).length + d.exponent := rfl

def isNumeral (c : Char) : Bool :=
  Text.isAsciiDigit c || c = '-' || c = '+' || c = '.' || c = 'e'

theorem isNumeral_of_isAsciiDigit {c : Char} (h : Text.isAsciiDigit c = true) :
    isNumeral c = true := by
  simp [isNumeral, h]

/-- A number's text without its sign: a digit in front, and something that no whole number has. -/
structure Body (body : List Char) : Prop where
  start : ∃ c tail, body = c :: tail ∧ Text.isAsciiDigit c = true
  mark : ∃ c ∈ body, Text.isAsciiDigit c = false
  numeral : ∀ c ∈ body, isNumeral c = true

theorem isAsciiDigit_of_mem_zeros {k : ℕ} {c : Char} (hc : c ∈ List.replicate k '0') :
    Text.isAsciiDigit c = true := by
  rw [List.eq_of_mem_replicate hc]
  decide

theorem isAsciiDigit_of_mem_append {cs ds : List Char}
    (hcs : ∀ c ∈ cs, Text.isAsciiDigit c = true) (hds : ∀ c ∈ ds, Text.isAsciiDigit c = true) :
    ∀ c ∈ cs ++ ds, Text.isAsciiDigit c = true := by
  intro c hc
  exact (List.mem_append.1 hc).elim (hcs c) (hds c)

/-- Digits around a point that are the text of a decimal, with `k` zeros more than it has. -/
structure Positional (d : Decimal) (whole fraction : List Char) (k : ℕ) : Prop where
  text : d.positional true = whole ++ '.' :: fraction
  nonempty : whole ≠ []
  digits : ∀ c ∈ whole ++ fraction, Text.isAsciiDigit c = true
  value : digitsValue (whole ++ fraction) = d.digits * 10 ^ k
  length : d.exponent - k = -fraction.length
  padding : k = 0 ∨ fraction.length = 1

variable {d : Decimal}

/-- A whole number: its zeros, and one more behind the point. -/
theorem positional_of_nonneg (h0 : 0 ≤ d.exponent) :
    Positional d (digitsOf d.digits ++ List.replicate d.exponent.toNat '0') ['0']
      (d.exponent.toNat + 1) := by
  refine ⟨?_, ?_, ?_, ?_, ?_, .inr rfl⟩
  · unfold Decimal.positional
    rw [if_pos h0]
    rfl
  · exact List.append_ne_nil_of_left_ne_nil (digitsOf_ne_nil _) _
  · refine isAsciiDigit_of_mem_append (isAsciiDigit_of_mem_append ?_ ?_) ?_
    · exact fun _ hc => isAsciiDigit_of_mem_digitsOf hc
    · exact fun _ hc => isAsciiDigit_of_mem_zeros hc
    · exact List.all_eq_true.1 rfl
  · rw [digitsValue_append, digitsValue_append, digitsValue_zeros, digitsValue_digitsOf,
      List.length_replicate]
    rw [show digitsValue ['0'] = 0 from rfl, show ['0'].length = 1 from rfl]
    ring
  · push_cast
    simp only [List.length_singleton]
    omega

theorem positional_of_places (h0 : ¬0 ≤ d.exponent) (hp : 0 < d.places) :
    Positional d ((digitsOf d.digits).take d.places.toNat)
      ((digitsOf d.digits).drop d.places.toNat) 0 := by
  have hplaces := places_eq d
  refine ⟨?_, ?_, ?_, ?_, ?_, .inl rfl⟩
  · unfold Decimal.positional
    rw [if_neg h0, if_pos hp]
  · rw [← List.length_pos_iff, List.length_take]
    omega
  · intro c hc
    rw [List.take_append_drop] at hc
    exact isAsciiDigit_of_mem_digitsOf hc
  · rw [List.take_append_drop, digitsValue_digitsOf, pow_zero, mul_one]
  · rw [List.length_drop]
    omega

/-- The point in front of the digits, and the zeros between them. -/
theorem positional_of_not_places (h0 : ¬0 ≤ d.exponent) (hp : ¬0 < d.places) :
    Positional d ['0'] (List.replicate (-d.places).toNat '0' ++ digitsOf d.digits) 0 := by
  have hplaces := places_eq d
  refine ⟨?_, by simp, ?_, ?_, ?_, .inl rfl⟩
  · unfold Decimal.positional
    rw [if_neg h0, if_neg hp]
    rfl
  · refine isAsciiDigit_of_mem_append ?_ (isAsciiDigit_of_mem_append ?_ ?_)
    · exact List.all_eq_true.1 rfl
    · exact fun _ hc => isAsciiDigit_of_mem_zeros hc
    · exact fun _ hc => isAsciiDigit_of_mem_digitsOf hc
  · rw [digitsValue_append, digitsValue_append, digitsValue_zeros, digitsValue_digitsOf,
      show digitsValue ['0'] = 0 from rfl]
    ring
  · rw [List.length_append, List.length_replicate]
    push_cast
    omega

theorem exists_positional (d : Decimal) : ∃ (whole fraction : List Char) (k : ℕ),
    Positional d whole fraction k := by
  by_cases h0 : 0 ≤ d.exponent
  · exact ⟨_, _, _, positional_of_nonneg h0⟩
  · by_cases hp : 0 < d.places
    · exact ⟨_, _, _, positional_of_places h0 hp⟩
    · exact ⟨_, _, _, positional_of_not_places h0 hp⟩

theorem body_positional (d : Decimal) : Body (d.positional true) := by
  obtain ⟨whole, fraction, k, h⟩ := exists_positional d
  have hwhole : ∀ c ∈ whole, Text.isAsciiDigit c = true := fun c hc =>
    h.digits c (List.mem_append_left _ hc)
  rw [h.text]
  refine ⟨starts_of_digits h.nonempty hwhole _, ⟨'.', by simp, by decide⟩, ?_⟩
  intro c hc
  rcases List.mem_append.1 hc with hc | hc
  · exact isNumeral_of_isAsciiDigit (hwhole c hc)
  · rcases List.mem_cons.1 hc with rfl | hc
    · decide
    · exact isNumeral_of_isAsciiDigit (h.digits c (List.mem_append_right _ hc))

theorem read?_positional {f : Binary64} (hf : f.isFinite = true) (hz : f.isZero = false) :
    read? (f.signText ++ f.shortest.positional true) = some f := by
  have hlow := (shortest_spec hf hz).2
  have hstart := (body_positional f.shortest).start
  have hshift := value_eq_of_shift f.shortest
  obtain ⟨whole, fraction, k, h⟩ := exists_positional f.shortest
  have hend : ∀ c ∈ ([] : List Char).head?, Text.isAsciiDigit c = false := by simp
  have hm := readMantissa?_point h.nonempty (fun c hc => h.digits c (List.mem_append_left _ hc))
    (fun c hc => h.digits c (List.mem_append_right _ hc)) hend
  rw [List.append_nil, h.value] at hm
  rw [h.text] at hstart ⊢
  rw [read?_signText hstart hm, ofMantissa, ← h.length, ofDecimal_of_value hf hz (hshift k)]
  -- the exponent that is read is the decimal's own, or minus one
  rcases h.padding with hk | hk
  · rw [hk]
    simpa using hlow
  · rw [h.length, hk]
    decide

theorem readInteger?_exponent (plusSign : Bool) (n : ℤ) :
    readInteger? ((if 0 ≤ n && plusSign then ['+'] else []) ++ integerText n) = some n := by
  by_cases h : (0 ≤ n && plusSign) = true
  · rw [if_pos h]
    rw [Bool.and_eq_true, decide_eq_true_eq] at h
    exact readInteger?_plus h.1
  · rw [if_neg h]
    exact readInteger?_integerText n

theorem isNumeral_of_mem_integerText {n : ℤ} {c : Char} (h : c ∈ integerText n) :
    isNumeral c = true := by
  unfold integerText at h
  split at h
  · rcases List.mem_cons.1 h with rfl | h
    · decide
    · exact isNumeral_of_isAsciiDigit (isAsciiDigit_of_mem_digitsOf h)
  · exact isNumeral_of_isAsciiDigit (isAsciiDigit_of_mem_digitsOf h)

theorem scientific_eq (plusSign : Bool) (d : Decimal) : ∃ (first : Char) (rest text : List Char),
    d.scientific plusSign = (if rest = [] then [first] else first :: '.' :: rest) ++ 'e' :: text ∧
      digitsOf d.digits = first :: rest ∧ readInteger? text = some (d.places - 1) ∧
      ∀ c ∈ text, isNumeral c = true := by
  obtain ⟨first, rest, hfirst⟩ := List.exists_cons_of_ne_nil (digitsOf_ne_nil d.digits)
  refine ⟨first, rest, _, ?_, hfirst, readInteger?_exponent plusSign (d.places - 1), ?_⟩
  · unfold Decimal.scientific
    rw [hfirst]
    cases rest with
    | nil => simp
    | cons second rest => simp
  · intro c hc
    rcases List.mem_append.1 hc with hc | hc
    · split at hc
      · rw [List.mem_singleton.1 hc]
        decide
      · exact absurd hc (by simp)
    · exact isNumeral_of_mem_integerText hc

theorem body_scientific (plusSign : Bool) (d : Decimal) : Body (d.scientific plusSign) := by
  obtain ⟨first, rest, text, htext, hfirst, -, hnumeral⟩ := scientific_eq plusSign d
  have hdigits : ∀ c ∈ first :: rest, Text.isAsciiDigit c = true := fun c hc =>
    isAsciiDigit_of_mem_digitsOf (hfirst ▸ hc)
  have hmantissa : ∀ c ∈ (if rest = [] then [first] else first :: '.' :: rest),
      isNumeral c = true := by
    intro c hc
    by_cases hdot : c = '.'
    · rw [hdot]
      decide
    · refine isNumeral_of_isAsciiDigit (hdigits c ?_)
      split at hc
      · exact List.mem_singleton.1 hc ▸ List.mem_cons_self
      · simpa [hdot] using hc
  rw [htext]
  refine ⟨?_, ⟨'e', by simp, by decide⟩, ?_⟩
  · have hstart := hdigits first List.mem_cons_self
    split
    · exact ⟨_, _, rfl, hstart⟩
    · exact ⟨_, _, rfl, hstart⟩
  · intro c hc
    rcases List.mem_append.1 hc with hc | hc
    · exact hmantissa c hc
    · rcases List.mem_cons.1 hc with rfl | hc
      · decide
      · exact hnumeral c hc

theorem read?_scientific {f : Binary64} (hf : f.isFinite = true) (hz : f.isZero = false)
    (plusSign : Bool) :
    read? (f.signText ++ f.shortest.scientific plusSign) = some f := by
  have hlow := (shortest_spec hf hz).2
  have hstart := (body_scientific plusSign f.shortest).start
  -- from here on any decimal will do; only its value ties it to the float
  obtain ⟨d, hd⟩ : ∃ d, f.shortest = d := ⟨_, rfl⟩
  rw [hd] at hlow hstart ⊢
  obtain ⟨first, rest, text, htext, hfirst, hexponent, -⟩ := scientific_eq plusSign d
  have hdigits : ∀ c ∈ first :: rest, Text.isAsciiDigit c = true := fun c hc =>
    isAsciiDigit_of_mem_digitsOf (hfirst ▸ hc)
  have hone : ∀ c ∈ [first], Text.isAsciiDigit c = true := by
    intro c hc
    exact hdigits c (List.mem_singleton.1 hc ▸ List.mem_cons_self)
  have hmark : ∀ c ∈ ('e' :: text).head?, Text.isAsciiDigit c = false ∧ c ≠ '.' := by
    intro c hc
    rw [← Option.some.inj hc]
    decide
  have hm : readMantissa? (d.scientific plusSign) = some (d.digits, rest.length, 'e' :: text) := by
    rw [htext, ← digitsValue_digitsOf d.digits, hfirst]
    by_cases h : rest = []
    · rw [if_pos h, h]
      exact readMantissa?_whole (by simp) hone hmark
    · rw [if_neg h]
      exact readMantissa?_point (List.cons_ne_nil first []) hone
        (fun c hc => hdigits c (List.mem_cons_of_mem _ hc)) fun c hc => (hmark c hc).1
  have hplaces : d.places - 1 - rest.length = d.exponent := by
    rw [places_eq, hfirst, List.length_cons]
    push_cast
    ring
  rw [read?_signText hstart hm, ofMantissa, if_pos (by decide), hexponent]
  simp only [Option.bind_some, hplaces]
  rw [ofDecimal_of_value hf hz (hd ▸ rfl) hlow]

theorem body_write (f : Binary64) (layout : FloatLayout) :
    ∃ body, f.write layout = f.signText ++ body ∧ Body body := by
  unfold write
  refine ⟨_, rfl, ?_⟩
  split
  · exact ⟨⟨_, _, rfl, by decide⟩, ⟨'.', by decide, by decide⟩, List.all_eq_true.1 rfl⟩
  · split
    · exact body_positional _
    · exact body_scientific _ _

theorem read?_write {f : Binary64} (hf : f.isFinite = true) (layout : FloatLayout) :
    read? (f.write layout) = some f := by
  unfold write
  by_cases hz : f.isZero = true
  · have hm : readMantissa? ['0', '.', '0'] = some (0, 1, []) := rfl
    simp only [hz, if_true]
    rw [read?_signText ⟨_, _, rfl, by decide⟩ hm, ofMantissa, ofDecimal]
    simp only [if_true, zero_of_isZero hz]
  · have hz' : f.isZero = false := Bool.eq_false_iff.2 hz
    simp only [hz', Bool.false_eq_true, if_false]
    split
    · exact read?_positional hf hz'
    · exact read?_scientific hf hz' layout.plusSign

theorem readInteger?_write (f : Binary64) (layout : FloatLayout) :
    readInteger? (f.write layout) = none := by
  obtain ⟨body, htext, hbody⟩ := body_write f layout
  obtain ⟨c, tail, rfl, hc⟩ := hbody.start
  -- the point or the exponent is no digit
  obtain ⟨mark, hmem, hmark⟩ := hbody.mark
  rw [htext, readInteger?_eq, signed_signText f hc, if_pos]
  rw [Bool.or_eq_true]
  right
  simp only [Bool.not_eq_true', List.all_eq_false]
  exact ⟨mark, hmem, by simp [hmark]⟩

end Binary64

end Reshape
