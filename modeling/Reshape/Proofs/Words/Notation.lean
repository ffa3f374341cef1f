import Reshape.Descriptor
import Reshape.Proofs.Words.Segmentation

namespace Reshape

namespace Text

theorem lowerChar_of_isAscii {c : Char} (h : isAscii c = true) :
    lowerChar c = [asciiLowerChar c] := by
  rw [lowerChar, if_pos h, asciiLowerChar]

/-- There is no sigma among ASCII characters, so what stands around them does not matter. -/
theorem lowerAfter_of_isAscii {cs : List Char} (h : ∀ c ∈ cs, isAscii c = true)
    (before : List Char) : lowerAfter before cs = asciiLower cs := by
  induction cs generalizing before with
  | nil => rfl
  | cons c cs ih =>
    have hc : isAscii c = true := h c List.mem_cons_self
    have hsigma : c.toNat ≠ 0x3a3 := by
      rw [isAscii, decide_eq_true_eq] at hc
      omega
    rw [lowerAfter, if_neg hsigma, lowerChar_of_isAscii hc,
      ih fun d hd => h d (List.mem_cons_of_mem _ hd)]
    rfl

end Text

namespace Words

open Text (asciiLower asciiLowerChar isAlphanumeric isAscii isAsciiAlphanumeric isAsciiUpper
  joinWith)

theorem mem_of_mem_split {text word : List Char} (hword : word ∈ split text) {c : Char}
    (hc : c ∈ word) : c ∈ text ∧ isAlphanumeric c = true := by
  have hmem : c ∈ (split text).flatten := List.mem_flatten.2 ⟨word, hword, hc⟩
  rwa [flatten_split, List.mem_filter] at hmem

section Ascii

variable {text word : List Char} (h : ∀ c ∈ text, isAscii c = true)

include h

theorem isAsciiAlphanumeric_of_mem_split (hword : word ∈ split text) :
    ∀ c ∈ word, isAsciiAlphanumeric c = true := by
  intro c hc
  obtain ⟨hmem, halpha⟩ := mem_of_mem_split hword hc
  rwa [← Text.isAlphanumeric_of_isAscii (h c hmem)]

theorem lower_of_mem_split (hword : word ∈ split text) : Text.lower word = asciiLower word :=
  Text.lowerAfter_of_isAscii (fun c hc => h c (mem_of_mem_split hword hc).1) []

theorem isSlugChar_of_mem_lower (hword : word ∈ split text) :
    ∀ c ∈ Text.lower word, isSlugChar c = true := by
  rw [lower_of_mem_split h hword]
  intro c hc
  obtain ⟨d, hd, rfl⟩ := List.mem_map.1 hc
  exact isSlugChar_asciiLowerChar (isAsciiAlphanumeric_of_mem_split h hword d hd)

theorem lower_ne_nil_of_mem_split (hword : word ∈ split text) : Text.lower word ≠ [] := by
  rw [lower_of_mem_split h hword]
  obtain ⟨before, behind, -, hblock⟩ := exists_block_of_mem hword
  exact fun hnil => hblock.ne_nil (List.map_eq_nil_iff.1 hnil)

/-- The words come back out of the text that joins them, in lower case. -/
theorem split_joinLower {mark : Char} (hmark : isAlphanumeric mark = false) :
    split (joinLower mark text) = (split text).map Text.lower := by
  refine split_joinWith hmark fun lowered hlowered => ?_
  obtain ⟨word, hword, rfl⟩ := List.mem_map.1 hlowered
  exact ⟨lower_ne_nil_of_mem_split h hword,
    unbroken_of_isSlugChar (isSlugChar_of_mem_lower h hword)⟩

theorem lower_lower_of_mem_split (hword : word ∈ split text) :
    Text.lower (Text.lower word) = Text.lower word := by
  have hslug := isSlugChar_of_mem_lower h hword
  have hascii : Text.lower (Text.lower word) = asciiLower (Text.lower word) :=
    Text.lowerAfter_of_isAscii (fun c hc => isAscii_of_isSlugChar (hslug c hc)) []
  rw [hascii, asciiLower, List.map_congr_left fun c hc => asciiLowerChar_of_isSlugChar (hslug c hc),
    List.map_id']

theorem lowered_split_joinLower {mark : Char} (hmark : isAlphanumeric mark = false) :
    (split (joinLower mark text)).map Text.lower = (split text).map Text.lower := by
  rw [split_joinLower h hmark, List.map_map]
  exact List.map_congr_left fun word hword => lower_lower_of_mem_split h hword

theorem joinLower_joinLower {mark : Char} (hmark : isAlphanumeric mark = false) (other : Char) :
    joinLower other (joinLower mark text) = joinLower other text := by
  rw [joinLower, lowered_split_joinLower h hmark, joinLower]

theorem camel_joinLower {mark : Char} (hmark : isAlphanumeric mark = false) :
    camel (joinLower mark text) = camel text := by
  rw [camel, lowered_split_joinLower h hmark, camel]

/-- Nothing is left out of the words of an ASCII text for a slug. -/
theorem slug_eq_kebab : slug text = kebab text := by
  have hwords : (split text).map slugWord = (split text).map Text.lower := by
    refine List.map_congr_left fun word hword => ?_
    rw [slugWord, List.filter_eq_self.2 (isAsciiAlphanumeric_of_mem_split h hword),
      lower_of_mem_split h hword]
  have hkept : ((split text).map Text.lower).filter (!·.isEmpty) = (split text).map Text.lower := by
    refine List.filter_eq_self.2 fun lowered hlowered => ?_
    obtain ⟨word, hword, rfl⟩ := List.mem_map.1 hlowered
    simpa using lower_ne_nil_of_mem_split h hword
  rw [slug, hwords, hkept, kebab, joinLower]

end Ascii

theorem isAscii_of_isAsciiAlphanumeric {c : Char} (h : isAsciiAlphanumeric c = true) :
    isAscii c = true := by
  by_cases hupper : isAsciiUpper c = true
  · rw [isAsciiUpper_iff] at hupper
    rw [isAscii, decide_eq_true_eq]
    omega
  · refine isAscii_of_isSlugChar ?_
    rwa [isAsciiAlphanumeric, Text.isAsciiLetter, Bool.eq_false_iff.2 hupper, Bool.false_or] at h

theorem isAlphanumeric_of_isAsciiAlphanumeric {c : Char} (h : isAsciiAlphanumeric c = true) :
    isAlphanumeric c = true := by
  rwa [Text.isAlphanumeric_of_isAscii (isAscii_of_isAsciiAlphanumeric h)]

/-- A mark that no part has is all that joining adds. -/
theorem filter_joinWith {mark : Char} {parts : List (List Char)}
    (h : ∀ part ∈ parts, mark ∉ part) : (joinWith [mark] parts).filter (· ≠ mark) =
      parts.flatten := by
  induction parts with
  | nil => rfl
  | cons part parts ih =>
    have hpart : part.filter (· ≠ mark) = part := List.filter_eq_self.2 fun c hc => by
      simpa using fun he : c = mark => h part List.mem_cons_self (he ▸ hc)
    have hrest := ih fun other hother => h other (List.mem_cons_of_mem _ hother)
    by_cases hparts : parts = []
    · subst hparts
      simpa [joinWith] using hpart
    · rw [Text.joinWith_cons_of_ne_nil hparts, List.filter_append, List.filter_append, hpart, hrest]
      simp

theorem flatten_map_slugWord (words : List (List Char)) :
    (words.map slugWord).flatten = asciiLower (words.flatten.filter isAsciiAlphanumeric) := by
  induction words with
  | nil => rfl
  | cons word words ih => simp [slugWord, asciiLower, ih]

/-- A slug is made of runs of lower-case ASCII letters and digits, which are those of the text. -/
theorem exists_runs_slug (text : List Char) : ∃ runs, slug text = joinWith ['-'] runs ∧
    (∀ run ∈ runs, run ≠ [] ∧ ∀ c ∈ run, isSlugChar c = true) ∧
    (slug text).filter (· ≠ '-') = asciiLower (text.filter isAsciiAlphanumeric) := by
  have hhyphen : isSlugChar '-' = false := by decide
  refine ⟨_, rfl, fun run => run_of_mem, ?_⟩
  rw [slug, filter_joinWith fun run hrun hmem => ?_, List.flatten_filter_not_isEmpty,
    flatten_map_slugWord, flatten_split, List.filter_filter]
  · -- what is not a letter or digit of ASCII goes with the words or in them
    refine congrArg asciiLower (List.filter_congr fun c _ => ?_)
    by_cases hc : isAsciiAlphanumeric c = true
    · simp [hc, isAlphanumeric_of_isAsciiAlphanumeric hc]
    · simp [hc]
  · exact absurd ((run_of_mem hrun).2 _ hmem) (by simp [hhyphen])

end Words

def Field.inForm (form : List Char → List Char) (field : Field) : Field :=
  { field with name := String.ofList (form field.name.toList) }

theorem Naming.apply_joinLower {naming : Naming} (hnaming : naming ≠ .identity) {name : String}
    (h : ∀ c ∈ name.toList, Text.isAscii c = true) {mark : Char}
    (hmark : Text.isAlphanumeric mark = false) :
    naming.apply (String.ofList (Words.joinLower mark name.toList)) = naming.apply name := by
  cases naming with
  | identity => exact absurd rfl hnaming
  | snakeCase => simp [apply, Words.snake, Words.joinLower_joinLower h hmark]
  | camelCase => simp [apply, Words.camel_joinLower h hmark]
  | kebabCase => simp [apply, Words.kebab, Words.joinLower_joinLower h hmark]

namespace Words

open Text (asciiLower isAscii isAsciiAlphanumeric joinWith)

/-- Of an ASCII text the forms with underscores and with hyphens have the words in lower case, and
every notation makes of them what it makes of the text, so that a field in such a form is read
from the same key unless keys are the names themselves. A slug has runs of lower-case ASCII letters
and digits with hyphens between them, of any text. -/
theorem notations_agree :
    (∀ text : List Char, (∀ c ∈ text, isAscii c = true) →
      split (snake text) = (split text).map Text.lower ∧
      split (kebab text) = (split text).map Text.lower ∧
      snake (kebab text) = snake text ∧ snake (snake text) = snake text ∧
      kebab (snake text) = kebab text ∧ kebab (kebab text) = kebab text ∧
      camel (snake text) = camel text ∧ camel (kebab text) = camel text ∧
      slug text = kebab text) ∧
    (∀ field : Field, (∀ c ∈ field.name.toList, isAscii c = true) →
      ∀ naming ≠ Naming.identity, ∀ form ∈ [snake, kebab],
        (field.inForm form).conventionKey naming = field.conventionKey naming) ∧
    (∀ field : Field, field.conventionKey .identity = field.key.getD field.name) ∧
    ∀ text, ∃ runs, slug text = joinWith ['-'] runs ∧
      (∀ run ∈ runs, run ≠ [] ∧ ∀ c ∈ run, isSlugChar c = true) ∧
      (slug text).filter (· ≠ '-') = asciiLower (text.filter isAsciiAlphanumeric) := by
  have hlow : Text.isAlphanumeric '_' = false := by decide
  have hhyphen : Text.isAlphanumeric '-' = false := by decide
  refine ⟨fun text h => ?_, fun field h naming hnaming form hform => ?_, fun _ => rfl,
    exists_runs_slug⟩
  · exact ⟨split_joinLower h hlow, split_joinLower h hhyphen, joinLower_joinLower h hhyphen _,
      joinLower_joinLower h hlow _, joinLower_joinLower h hlow _, joinLower_joinLower h hhyphen _,
      camel_joinLower h hlow, camel_joinLower h hhyphen, slug_eq_kebab h⟩
  · have happly : naming.apply (field.inForm form).name = naming.apply field.name := by
      simp only [List.mem_cons, List.not_mem_nil, or_false] at hform
      rcases hform with rfl | rfl
      · exact Naming.apply_joinLower hnaming h hlow
      · exact Naming.apply_joinLower hnaming h hhyphen
    rw [Field.conventionKey, happly]
    rfl

/-- A name with a boundary, and its forms. -/
theorem notations_agree_fullName :
    (∀ c ∈ "fullName".toList, isAscii c = true) ∧
    split (snake "fullName".toList) = ["full".toList, "name".toList] ∧
    slug "fullName".toList = kebab "fullName".toList ∧
    ((⟨"fullName", none, none⟩ : Field).inForm snake).name = "full_name" ∧
    ((⟨"fullName", none, none⟩ : Field).inForm snake).conventionKey .camelCase = "fullName" ∧
    ((⟨"fullName", some "n", none⟩ : Field).inForm kebab).conventionKey .kebabCase = "n" := by
  have hascii : ∀ c ∈ "fullName".toList, isAscii c = true := List.all_eq_true.1 (by decide)
  obtain ⟨htexts, hfields, -, -⟩ := notations_agree
  obtain ⟨hwords, -, -, -, -, -, -, -, hslug⟩ := htexts "fullName".toList hascii
  have hcamel := hfields ⟨"fullName", none, none⟩ hascii .camelCase (by simp) snake (by simp)
  have hkey := hfields ⟨"fullName", some "n", none⟩ hascii .kebabCase (by simp) kebab (by simp)
  exact ⟨hascii, hwords.trans (by decide), hslug, by decide, hcamel.trans (by decide), hkey⟩

end Words

/-- Where the keys are the names themselves, a name and its form with underscores are two keys. -/
theorem Naming.identity_tells_forms_apart :
    ¬∀ field : Field, (∀ c ∈ field.name.toList, Text.isAscii c = true) → ∀ naming : Naming,
      ∀ form ∈ [Words.snake, Words.kebab],
        (field.inForm form).conventionKey naming = field.conventionKey naming := by
  intro h
  have hascii : ∀ c ∈ "fullName".toList, Text.isAscii c = true := List.all_eq_true.1 (by decide)
  have hkeys := h ⟨"fullName", none, none⟩ hascii .identity Words.snake (by simp)
  exact absurd hkeys (by decide)

end Reshape
