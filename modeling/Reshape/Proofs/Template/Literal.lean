import Reshape.Json.Writer
import Reshape.Proofs.Number.Text
import Reshape.Proofs.Template.Complete

namespace Reshape.Template

inductive Keyword : Json → Prop where
  | null : Keyword .null
  | bool (b : Bool) : Keyword (.bool b)
  | whole {n : Int} (low : minInt64 ≤ n) (high : n ≤ maxUInt64) : Keyword (.ofInt n)
  | float {f : Binary64} (finite : f.isFinite = true) : Keyword (.ofFloat f)

theorem keyword_of_literal? {w : List Char} {v : Json} (h : literal? w = some v) : Keyword v := by
  unfold literal? at h
  split at h
  · obtain rfl := Option.some.inj h
    exact .bool true
  · split at h
    · obtain rfl := Option.some.inj h
      exact .bool false
    · split at h
      · obtain rfl := Option.some.inj h
        exact .null
      · split at h
        · next n hn =>
          obtain rfl := Option.some.inj h
          rw [readInt64?_or_readUInt64?] at hn
          have hbounds := (Option.filter_eq_some_iff.1 hn).2
          simp only [Bool.and_eq_true, decide_eq_true_eq] at hbounds
          exact .whole hbounds.1 hbounds.2
        · split at h
          · exact absurd h (by simp)
          · split at h
            · obtain ⟨f, hf, rfl⟩ := Option.map_eq_some_iff.1 h
              exact .float (Option.filter_eq_some_iff.1 hf).2
            · exact absurd h (by simp)

/-- The text of a number: a minus or a digit in front, and characters of numbers. -/
structure Numeric (w : List Char) : Prop where
  start : ∃ c tail, w = c :: tail ∧ (c = '-' ∨ Text.isAsciiDigit c = true)
  numeral : ∀ c ∈ w, Binary64.isNumeral c = true

theorem numeric_integerText (n : Int) : Numeric (integerText n) := by
  refine ⟨?_, fun c hc => Binary64.isNumeral_of_mem_integerText hc⟩
  unfold integerText
  split
  · exact ⟨_, _, rfl, .inl rfl⟩
  · obtain ⟨c, tail, htext⟩ := List.exists_cons_of_ne_nil (digitsOf_ne_nil n.natAbs)
    exact ⟨c, tail, htext, .inr (isAsciiDigit_of_mem_digitsOf (htext ▸ List.mem_cons_self))⟩

theorem numeric_write (f : Binary64) (layout : FloatLayout) : Numeric (f.write layout) := by
  obtain ⟨body, htext, hbody⟩ := f.body_write layout
  rw [htext]
  unfold Binary64.signText
  split
  · refine ⟨⟨_, _, rfl, .inl rfl⟩, ?_⟩
    intro c hc
    rcases List.mem_cons.1 hc with rfl | hc
    · decide
    · exact hbody.numeral c hc
  · obtain ⟨c, tail, rfl, hc⟩ := hbody.start
    exact ⟨⟨c, tail, rfl, .inr hc⟩, hbody.numeral⟩

theorem Numeric.ne {w word : List Char} (h : Numeric w) {d : Char} {tail : List Char}
    (hword : word = d :: tail) (hd : ¬(d = '-' ∨ Text.isAsciiDigit d = true)) : w ≠ word := by
  rintro rfl
  obtain ⟨c, rest, hw, hc⟩ := h.start
  obtain ⟨rfl, -⟩ := List.cons.inj (hw.symm.trans hword)
  exact hd hc

theorem Numeric.literal? {w : List Char} (h : Numeric w) : literal? w =
    match (readInt64? w).or (readUInt64? w) with
    | some n => some (.ofInt n)
    | none => ((Binary64.read? w).filter Binary64.isFinite).map Json.ofFloat := by
  have htrue : w ≠ "true".toList := h.ne (d := 't') rfl (by decide)
  have hfalse : w ≠ "false".toList := h.ne (d := 'f') rfl (by decide)
  have hnull : w ≠ "null".toList := h.ne (d := 'n') rfl (by decide)
  unfold Template.literal?
  rw [if_neg htrue, if_neg hfalse, if_neg hnull]
  obtain ⟨c, tail, rfl, hc⟩ := h.start
  cases (readInt64? (c :: tail)).or (readUInt64? (c :: tail)) with
  | some n => rfl
  | none =>
    rcases hc with rfl | hc
    · rfl
    · simp only [hc, Bool.true_or, if_true]

theorem literal?_integerText {n : Int} (hlow : minInt64 ≤ n) (hhigh : n ≤ maxUInt64) :
    literal? (integerText n) = some (.ofInt n) := by
  rw [(numeric_integerText n).literal?, readInt64?_or_readUInt64?, readInteger?_integerText,
    Option.filter_some, if_pos (by simp [hlow, hhigh])]

theorem literal?_write {f : Binary64} (hf : f.isFinite = true) (layout : FloatLayout) :
    literal? (f.write layout) = some (.ofFloat f) := by
  rw [(numeric_write f layout).literal?, readInt64?_or_readUInt64?, f.readInteger?_write layout,
    Option.filter_none, Binary64.read?_write hf, Option.filter_some, if_pos hf]
  rfl

theorem literal?_chars {v : Json} (h : Keyword v) : literal? v.chars = some v := by
  cases h with
  | null => rfl
  | bool b => cases b <;> rfl
  | whole hlow hhigh => exact literal?_integerText hlow hhigh
  | float hf => exact literal?_write hf _

theorem isWordChar_of_isNumeral {c : Char} (h : Binary64.isNumeral c = true) :
    isWordChar c = true := by
  simp only [Binary64.isNumeral, Bool.or_eq_true, decide_eq_true_eq] at h
  rcases h with (((h | rfl) | rfl) | rfl) | rfl
  · exact Grammar.isWordChar_of_isNameChar (by simp [isNameChar, Text.isAsciiAlphanumeric, h])
  all_goals decide

theorem Numeric.word {w : List Char} (h : Numeric w) : Grammar.Word w := by
  have hnumeral := h.numeral
  obtain ⟨c, tail, rfl, hc⟩ := h.start
  have hquote : isQuote c = false := by
    refine Bool.eq_false_iff.2 fun hq => ?_
    simp only [isQuote, Bool.or_eq_true, decide_eq_true_eq] at hq
    rcases hq with rfl | rfl
    · exact absurd hc (by decide)
    · exact absurd hc (by decide)
  exact .run hquote fun x hx => isWordChar_of_isNumeral (hnumeral x hx)

theorem word_chars {v : Json} (h : Keyword v) : Grammar.Word v.chars := by
  cases h with
  | null => exact .of_all rfl rfl
  | bool b =>
    cases b
    · exact .of_all rfl rfl
    · exact .of_all rfl rfl
  | whole _ _ => exact (numeric_integerText _).word
  | float _ => exact (numeric_write _ _).word

end Reshape.Template
