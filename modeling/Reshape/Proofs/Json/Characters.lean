import Reshape.Proofs.Json.Text

namespace Reshape.Json

open Binary64 (isNumeral)

theorem isNumeral_of_mem_chars {m : Number} {c : Char} (h : c ∈ m.chars) :
    isNumeral c = true := by
  cases m with
  | whole n => exact Binary64.isNumeral_of_mem_integerText h
  | float f =>
    obtain ⟨body, htext, hbody⟩ := Binary64.body_write f floatLayout
    have hmem : c ∈ f.signText ++ body := htext ▸ h
    rcases List.mem_append.1 hmem with hsign | hmem
    · unfold Binary64.signText at hsign
      split at hsign
      · rw [List.mem_singleton.1 hsign]
        decide
      · exact absurd hsign List.not_mem_nil
    · exact hbody.numeral c hmem

theorem numberChars_ne_nil (m : Number) : m.chars ≠ [] := by
  cases m with
  | whole n =>
    show integerText n ≠ []
    unfold integerText
    split
    · exact List.cons_ne_nil _ _
    · exact digitsOf_ne_nil _
  | float f =>
    obtain ⟨body, htext, hbody⟩ := Binary64.body_write f floatLayout
    obtain ⟨c, tail, rfl, -⟩ := hbody.start
    show f.write floatLayout ≠ []
    simp [htext]

theorem bounds_of_isNumeral {c : Char} (h : isNumeral c = true) : 43 ≤ c.toNat ∧ c.toNat ≤ 101 := by
  unfold isNumeral at h
  simp only [Bool.or_eq_true, decide_eq_true_eq] at h
  rcases h with (((h | rfl) | rfl) | rfl) | rfl
  · have hdigit := isAsciiDigit_iff.1 h
    omega
  all_goals decide

theorem isBlank_of_isNumeral {c : Char} (h : isNumeral c = true) : Text.isBlank c = false := by
  obtain ⟨hlow, hhigh⟩ := bounds_of_isNumeral h
  have hspace : c ≠ ' ' := by
    rintro rfl
    exact absurd hlow (by decide)
  simp [Text.isBlank, hspace]
  omega

theorem toNat_hexDigit : ∀ n < 16, 32 ≤ (hexDigit n).toNat := by decide

theorem toNat_of_mem_escapeChar {c d : Char} (h : d ∈ escapeChar c) : 32 ≤ d.toNat := by
  have hletter : ∀ e ∈ ['"', '\\', 'b', 'f', 'n', 'r', 't'], ∀ d ∈ ['\\', e], 32 ≤ d.toNat := by
    simp
  unfold escapeChar at h
  split at h
  · exact hletter '"' (by decide) d h
  split at h
  · exact hletter '\\' (by decide) d h
  split at h
  · exact hletter 'b' (by decide) d h
  split at h
  · exact hletter 'f' (by decide) d h
  split at h
  · exact hletter 'n' (by decide) d h
  split at h
  · exact hletter 'r' (by decide) d h
  split at h
  · exact hletter 't' (by decide) d h
  split at h
  · have hhigh := toNat_hexDigit (c.toNat / 16) (by omega)
    have hlow := toNat_hexDigit (c.toNat % 16) (by omega)
    simp only [List.mem_cons, List.not_mem_nil, or_false] at h
    rcases h with rfl | rfl | rfl | rfl | rfl | rfl
    · decide
    · decide
    · decide
    · decide
    · exact hhigh
    · exact hlow
  · next hc =>
    rw [List.mem_singleton.1 h]
    omega

theorem toNat_of_mem_quoted {s : String} {c : Char} (h : c ∈ quoted s) : 32 ≤ c.toNat := by
  unfold quoted at h
  simp only [List.mem_cons, List.mem_append, List.mem_flatMap, List.not_mem_nil, or_false] at h
  rcases h with rfl | ⟨_, -, hescape⟩ | rfl
  · decide
  · exact toNat_of_mem_escapeChar hescape
  · decide

mutual

/-- Control characters are escaped in strings, and nothing else of a value has one. -/
theorem toNat_of_mem_chars (v : Json) {c : Char} (h : c ∈ v.chars) : 32 ≤ c.toNat := by
  match v with
  | .null =>
    have hall : ∀ c ∈ ['n', 'u', 'l', 'l'], 32 ≤ c.toNat := by simp
    exact hall c h
  | .bool b =>
    have hall : ∀ b, ∀ c ∈ boolChars b, 32 ≤ c.toNat := by simp [boolChars]
    exact hall b c h
  | .number m =>
    have hbounds := bounds_of_isNumeral (isNumeral_of_mem_chars h)
    omega
  | .string s => exact toNat_of_mem_quoted h
  | .array items =>
    rw [chars, List.mem_cons, List.mem_append, List.mem_singleton] at h
    rcases h with rfl | h | rfl
    · decide
    · exact toNat_of_mem_itemChars items h
    · decide
  | .object members =>
    rw [chars, List.mem_cons, List.mem_append, List.mem_singleton] at h
    rcases h with rfl | h | rfl
    · decide
    · exact toNat_of_mem_memberChars members h
    · decide

theorem toNat_of_mem_itemChars (items : List Json) {c : Char} (h : c ∈ itemChars items) :
    32 ≤ c.toNat := by
  match items with
  | [] => exact absurd h List.not_mem_nil
  | [item] => exact toNat_of_mem_chars item h
  | item :: next :: items =>
    rw [itemChars, List.mem_append, List.mem_cons] at h
    · rcases h with h | rfl | h
      · exact toNat_of_mem_chars item h
      · decide
      · exact toNat_of_mem_itemChars (next :: items) h
    · simp

theorem toNat_of_mem_memberChars (members : List (String × Json)) {c : Char}
    (h : c ∈ memberChars members) : 32 ≤ c.toNat := by
  match members with
  | [] => exact absurd h List.not_mem_nil
  | [(key, value)] =>
    rw [memberChars, List.mem_append, List.mem_cons] at h
    rcases h with h | rfl | h
    · exact toNat_of_mem_quoted h
    · decide
    · exact toNat_of_mem_chars value h
  | (key, value) :: next :: members =>
    rw [memberChars, List.mem_append, List.mem_cons, List.mem_append, List.mem_cons] at h
    · rcases h with h | rfl | h | rfl | h
      · exact toNat_of_mem_quoted h
      · decide
      · exact toNat_of_mem_chars value h
      · decide
      · exact toNat_of_mem_memberChars (next :: members) h
    · simp

end

theorem exists_visible (v : Json) : ∃ c ∈ v.chars, Text.isBlank c = false := by
  cases v with
  | null => exact ⟨'n', by simp [chars], by decide⟩
  | bool b => cases b <;> exact ⟨'e', by decide, by decide⟩
  | number m =>
    obtain ⟨c, rest, hc⟩ := List.exists_cons_of_ne_nil (numberChars_ne_nil m)
    have hmem : c ∈ m.chars := hc ▸ List.mem_cons_self
    exact ⟨c, hmem, isBlank_of_isNumeral (isNumeral_of_mem_chars hmem)⟩
  | string s => exact ⟨'"', List.mem_cons_self, by decide⟩
  | array items => exact ⟨'[', List.mem_cons_self, by decide⟩
  | object members => exact ⟨'\x7b', List.mem_cons_self, by decide⟩

/-- White space may stand between tokens, and none of it starts a value. -/
theorem value?_of_isBlank {c : Char} (h : Text.isBlank c = true) (depth : ℕ) (s : List Char) :
    value? depth (c :: s) = none := by
  have hnumber : number? (c :: s) = none := by
    unfold number?
    split
    · rfl
    · next l rest hl =>
      obtain ⟨d, more, hs, hd⟩ := starts_of_literal? hl
      obtain ⟨rfl, rfl⟩ := List.cons.inj hs
      have hnumeral : isNumeral c = true := by
        rcases hd with rfl | hd
        · decide
        · exact Binary64.isNumeral_of_isAsciiDigit hd
      exact absurd (h.symm.trans (isBlank_of_isNumeral hnumeral)) (by decide)
  rw [value?, hnumber]
  · rfl
  all_goals
    intro _ hs
    obtain ⟨rfl, -⟩ := List.cons.inj hs
    exact absurd h (by decide)

end Reshape.Json
