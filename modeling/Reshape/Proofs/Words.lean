import Mathlib.Data.List.Chain
import Reshape.Proofs.Text
import Reshape.Words

namespace Reshape.Words

open Text (asciiLowerChar isAlphanumeric isAscii isAsciiAlphanumeric isAsciiDigit isAsciiLetter
  isAsciiLower isAsciiUpper isUppercase joinWith)

/-- A run of letters and numbers that no boundary divides. -/
structure Unbroken (word : List Char) : Prop where
  alphanumeric : ∀ c ∈ word, isAlphanumeric c = true
  whole : word.IsChain fun before c => isBoundary before c = false

theorem splitAfter_append {word behind : List Char} {before : Char}
    (halpha : ∀ c ∈ word, isAlphanumeric c = true)
    (hwhole : (before :: word).IsChain fun before c => isBoundary before c = false)
    (begun : List Char) : splitAfter (before :: begun) (word ++ behind) =
      splitAfter (word.reverse ++ before :: begun) behind := by
  induction word generalizing before begun with
  | nil => rfl
  | cons c word ih =>
    obtain ⟨hc, hrest⟩ := List.isChain_cons_cons.1 hwhole
    have hstep : splitAfter (before :: begun) (c :: (word ++ behind)) =
        splitAfter (c :: before :: begun) (word ++ behind) := by
      rw [splitAfter]
      simp [halpha c List.mem_cons_self, hc]
    rw [List.cons_append, hstep, ih (fun d hd => halpha d (List.mem_cons_of_mem _ hd)) hrest]
    simp

theorem splitAfter_unbroken {word : List Char} (hne : word ≠ []) (h : Unbroken word)
    (behind : List Char) : splitAfter [] (word ++ behind) = splitAfter word.reverse behind := by
  cases word with
  | nil => exact absurd rfl hne
  | cons c word =>
    have hfirst : splitAfter [] (c :: (word ++ behind)) = splitAfter [c] (word ++ behind) := by
      rw [splitAfter]
      simp [h.alphanumeric c List.mem_cons_self]
    rw [List.cons_append, hfirst,
      splitAfter_append (fun d hd => h.alphanumeric d (List.mem_cons_of_mem _ hd)) h.whole]
    simp

theorem split_unbroken {word : List Char} (hne : word ≠ []) (h : Unbroken word) :
    split word = [word] := by
  have hsplit := splitAfter_unbroken hne h []
  rw [List.append_nil] at hsplit
  rw [split, hsplit]
  simp [splitAfter, close, hne]

theorem splitAfter_mark {mark : Char} (hmark : isAlphanumeric mark = false)
    (word behind : List Char) : splitAfter word (mark :: behind) = close word (split behind) := by
  cases word <;> simp [splitAfter, hmark, split]

theorem split_append_mark {word : List Char} (hne : word ≠ []) (h : Unbroken word) {mark : Char}
    (hmark : isAlphanumeric mark = false) (behind : List Char) :
    split (word ++ mark :: behind) = word :: split behind := by
  rw [split, splitAfter_unbroken hne h, splitAfter_mark hmark]
  simp [close, hne]

/-- Words with a mark between each two are the words of that text. -/
theorem split_joinWith {mark : Char} (hmark : isAlphanumeric mark = false)
    {words : List (List Char)} (h : ∀ word ∈ words, word ≠ [] ∧ Unbroken word) :
    split (joinWith [mark] words) = words := by
  induction words with
  | nil => rfl
  | cons word words ih =>
    obtain ⟨hne, hword⟩ := h word List.mem_cons_self
    have hrest := ih fun other hother => h other (List.mem_cons_of_mem _ hother)
    by_cases hwords : words = []
    · subst hwords
      exact split_unbroken hne hword
    · rw [Text.joinWith_cons_of_ne_nil hwords, List.append_assoc, List.singleton_append,
        split_append_mark hne hword hmark, hrest]

def isSlugChar (c : Char) : Bool := isAsciiLower c || isAsciiDigit c

theorem isSlugChar_iff {c : Char} : isSlugChar c = true ↔
    97 ≤ c.toNat ∧ c.toNat ≤ 122 ∨ 48 ≤ c.toNat ∧ c.toNat ≤ 57 := by
  simp only [isSlugChar, isAsciiLower, isAsciiDigit, Bool.or_eq_true, Bool.and_eq_true,
    decide_eq_true_eq, Text.le_iff_toNat]
  exact Iff.rfl

theorem isAsciiUpper_iff {c : Char} : isAsciiUpper c = true ↔ 65 ≤ c.toNat ∧ c.toNat ≤ 90 := by
  simp only [isAsciiUpper, Bool.and_eq_true, decide_eq_true_eq, Text.le_iff_toNat]
  exact Iff.rfl

theorem isAscii_of_isSlugChar {c : Char} (h : isSlugChar c = true) : isAscii c = true := by
  rw [isSlugChar_iff] at h
  rw [isAscii, decide_eq_true_eq]
  omega

theorem isAsciiUpper_of_isSlugChar {c : Char} (h : isSlugChar c = true) :
    isAsciiUpper c = false := by
  rw [isSlugChar_iff] at h
  rw [Bool.eq_false_iff, ne_eq, isAsciiUpper_iff]
  omega

theorem isAsciiAlphanumeric_of_isSlugChar {c : Char} (h : isSlugChar c = true) :
    isAsciiAlphanumeric c = true := by
  rw [isAsciiAlphanumeric, isAsciiLetter, isAsciiUpper_of_isSlugChar h, Bool.false_or]
  exact h

theorem isAlphanumeric_of_isSlugChar {c : Char} (h : isSlugChar c = true) :
    isAlphanumeric c = true := by
  rw [Text.isAlphanumeric_of_isAscii (isAscii_of_isSlugChar h)]
  exact isAsciiAlphanumeric_of_isSlugChar h

theorem isUppercase_of_isSlugChar {c : Char} (h : isSlugChar c = true) :
    isUppercase c = false := by
  rw [isUppercase, if_pos (isAscii_of_isSlugChar h), isAsciiUpper_of_isSlugChar h]

theorem isSlugChar_asciiLowerChar {c : Char} (h : isAsciiAlphanumeric c = true) :
    isSlugChar (asciiLowerChar c) = true := by
  unfold asciiLowerChar
  by_cases hupper : isAsciiUpper c = true
  · rw [if_pos hupper, isSlugChar_iff]
    rw [isAsciiUpper_iff] at hupper
    have hvalid : (c.toNat + 32).isValidChar := .inl (by omega)
    have hcode : (Char.ofNat (c.toNat + 32)).toNat = c.toNat + 32 := by
      rw [Char.ofNat, dif_pos hvalid]
      rfl
    omega
  · rw [if_neg hupper]
    rw [isAsciiAlphanumeric, isAsciiLetter, Bool.eq_false_iff.2 hupper, Bool.false_or] at h
    exact h

theorem asciiLowerChar_of_isSlugChar {c : Char} (h : isSlugChar c = true) :
    asciiLowerChar c = c := by
  rw [asciiLowerChar, isAsciiUpper_of_isSlugChar h]
  exact if_neg Bool.false_ne_true

theorem unbroken_of_isSlugChar {word : List Char} (h : ∀ c ∈ word, isSlugChar c = true) :
    Unbroken word := by
  refine ⟨fun c hc => isAlphanumeric_of_isSlugChar (h c hc), ?_⟩
  rw [List.isChain_iff_forall_rel_of_append_cons_cons]
  intro before c front behind hword
  have hc : isSlugChar c = true := h c (hword ▸ by simp)
  rw [isBoundary, isUppercase_of_isSlugChar hc, Bool.false_and]

theorem isSlugChar_of_mem_slugWord {word : List Char} {c : Char} (h : c ∈ slugWord word) :
    isSlugChar c = true := by
  obtain ⟨d, hd, rfl⟩ := List.mem_map.1 h
  exact isSlugChar_asciiLowerChar (List.mem_filter.1 hd).2

theorem slugWord_eq_self {word : List Char} (h : ∀ c ∈ word, isSlugChar c = true) :
    slugWord word = word := by
  have hkept : word.filter isAsciiAlphanumeric = word :=
    List.filter_eq_self.2 fun c hc => isAsciiAlphanumeric_of_isSlugChar (h c hc)
  rw [slugWord, hkept, Text.asciiLower, List.map_congr_left fun c hc =>
    asciiLowerChar_of_isSlugChar (h c hc), List.map_id']

theorem run_of_mem {words : List (List Char)} {run : List Char}
    (h : run ∈ (words.map slugWord).filter (!·.isEmpty)) :
    run ≠ [] ∧ ∀ c ∈ run, isSlugChar c = true := by
  obtain ⟨hmem, hne⟩ := List.mem_filter.1 h
  obtain ⟨word, -, rfl⟩ := List.mem_map.1 hmem
  exact ⟨by simpa using hne, fun c => isSlugChar_of_mem_slugWord⟩

/-- The words of a slug are those it is put together from. -/
theorem split_slug (text : List Char) :
    split (slug text) = ((split text).map slugWord).filter (!·.isEmpty) := by
  have hhyphen : isAlphanumeric '-' = false := by decide
  exact split_joinWith hhyphen fun run hrun =>
    ⟨(run_of_mem hrun).1, unbroken_of_isSlugChar (run_of_mem hrun).2⟩

theorem slug_slug (text : List Char) : slug (slug text) = slug text := by
  have hwords : (split (slug text)).map slugWord = split (slug text) := by
    rw [split_slug]
    exact (List.map_congr_left fun run hrun => slugWord_eq_self (run_of_mem hrun).2).trans
      (List.map_id' _)
  conv_lhs => rw [slug, hwords, split_slug, List.filter_filter]
  simp only [Bool.and_self, slug]

end Reshape.Words
