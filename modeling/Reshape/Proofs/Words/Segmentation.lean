import Reshape.Proofs.Words

namespace Reshape.Words

open Text (isAlphanumeric)

variable {front before behind back : List Char}

/-- No run goes on from one text into the next: one of the characters that meet is neither letter
nor number, or there is a boundary between them. -/
def Apart (before behind : List Char) : Prop :=
  ∀ c ∈ before.getLast?, ∀ d ∈ behind.head?,
    isAlphanumeric c = true → isAlphanumeric d = true → isBoundary c d = true

theorem apart_nil (before : List Char) : Apart before [] := by simp [Apart]

theorem nil_apart (behind : List Char) : Apart [] behind := by simp [Apart]

theorem apart_cons_of_not {d : Char} (hd : isAlphanumeric d = false) (before behind : List Char) :
    Apart before (d :: behind) := by simp [Apart, hd]

theorem apart_append_iff (hne : before ≠ []) (front behind : List Char) :
    Apart (front ++ before) behind ↔ Apart before behind := by
  rw [Apart, Apart, List.getLast?_append_of_ne_nil front hne]

theorem apart_iff_append (hne : behind ≠ []) (before back : List Char) :
    Apart before (behind ++ back) ↔ Apart before behind := by
  rw [Apart, Apart, List.head?_append_of_ne_nil behind hne]

theorem Apart.of_append_left (h : Apart (front ++ before) behind) : Apart before behind := by
  by_cases hne : before = []
  · exact hne ▸ nil_apart behind
  · exact (apart_append_iff hne front behind).1 h

theorem Apart.of_append_right (h : Apart before (behind ++ back)) : Apart before behind := by
  by_cases hne : behind = []
  · exact hne ▸ apart_nil before
  · exact (apart_iff_append hne before back).1 h

theorem Apart.append_left (h : Apart before behind) (hfront : before = [] → Apart front behind) :
    Apart (front ++ before) behind := by
  by_cases hne : before = []
  · simpa [hne] using hfront hne
  · exact (apart_append_iff hne front behind).2 h

theorem Apart.append_right (h : Apart before behind) (hback : behind = [] → Apart before back) :
    Apart before (behind ++ back) := by
  by_cases hne : behind = []
  · simpa [hne] using hback hne
  · exact (apart_iff_append hne before back).2 h

/-- A text falls into words: what is neither letter nor number is passed over, and a word ends
only where it cannot go on. -/
inductive Segmented : List Char → List (List Char) → Prop where
  | nil : Segmented [] []
  | skip {c : Char} {text : List Char} {words : List (List Char)} (hc : isAlphanumeric c = false)
      (h : Segmented text words) : Segmented (c :: text) words
  | word {word text : List Char} {words : List (List Char)} (hne : word ≠ [])
      (hword : Unbroken word) (hapart : Apart word text) (h : Segmented text words) :
      Segmented (word ++ text) (word :: words)

variable {text word : List Char} {words others : List (List Char)}

theorem unbroken_nil : Unbroken [] := ⟨by simp, List.isChain_nil⟩

theorem unbroken_singleton {c : Char} (hc : isAlphanumeric c = true) : Unbroken [c] :=
  ⟨by simpa using hc, List.isChain_singleton c⟩

theorem unbroken_concat {c : Char} (h : Unbroken word) (hc : isAlphanumeric c = true)
    (hjoined : ∀ before ∈ word.getLast?, isBoundary before c = false) : Unbroken (word ++ [c]) := by
  refine ⟨fun d hd => ?_, h.whole.append (List.isChain_singleton c) (by simpa using hjoined)⟩
  rcases List.mem_append.1 hd with hd | hd
  · exact h.alphanumeric d hd
  · exact List.mem_singleton.1 hd ▸ hc

/-- The word that was begun is unbroken at every step, and ends where the text breaks it. -/
theorem segmented_splitAfter (begun text : List Char) (hbegun : Unbroken begun.reverse) :
    Segmented (begun.reverse ++ text) (splitAfter begun text) := by
  -- along the text, for whatever word is begun when its rest is reached
  induction text generalizing begun with
  | nil =>
    cases begun with
    | nil => exact .nil
    | cons c begun => exact .word (by simp) hbegun (apart_nil _) .nil
  | cons c text ih =>
    by_cases hc : isAlphanumeric c = true
    · have hfresh : Segmented ([c] ++ text) (splitAfter [c] text) :=
        ih [c] (unbroken_singleton hc)
      cases begun with
      | nil =>
        have hsplit : splitAfter [] (c :: text) = splitAfter [c] text := by simp [splitAfter, hc]
        rw [hsplit]
        exact hfresh
      | cons before begun =>
        by_cases hboundary : isBoundary before c = true
        · have hsplit : splitAfter (before :: begun) (c :: text) =
              (before :: begun).reverse :: splitAfter [c] text := by
            simp [splitAfter, hc, hboundary, close]
          rw [hsplit]
          exact .word (by simp) hbegun (by simp [Apart, hboundary]) hfresh
        · have hsplit : splitAfter (before :: begun) (c :: text) =
              splitAfter (c :: before :: begun) text := by simp [splitAfter, hc, hboundary]
          have hlonger : Unbroken (c :: before :: begun).reverse := by
            rw [List.reverse_cons]
            exact unbroken_concat hbegun hc (by simpa using hboundary)
          rw [hsplit]
          simpa using ih _ hlonger
    · have hmark : isAlphanumeric c = false := Bool.eq_false_iff.2 hc
      have hrest : Segmented text (split text) := ih [] unbroken_nil
      rw [splitAfter_mark hmark]
      cases begun with
      | nil => exact .skip hmark hrest
      | cons before begun =>
        exact .word (by simp) hbegun (apart_cons_of_not hmark _ _) (.skip hmark hrest)

theorem segmented_split (text : List Char) : Segmented text (split text) :=
  segmented_splitAfter [] text unbroken_nil

theorem split_cons_of_not {c : Char} (hc : isAlphanumeric c = false) (text : List Char) :
    split (c :: text) = split text := splitAfter_mark hc [] text

theorem split_append_of_apart (hne : word ≠ []) (h : Unbroken word) (hapart : Apart word behind) :
    split (word ++ behind) = word :: split behind := by
  cases behind with
  | nil =>
    rw [List.append_nil, split_unbroken hne h]
    rfl
  | cons d behind =>
    by_cases hd : isAlphanumeric d = true
    · obtain ⟨front, c, rfl⟩ : ∃ front c, word = front ++ [c] :=
        ⟨_, _, (List.dropLast_append_getLast hne).symm⟩
      have hboundary : isBoundary c d = true :=
        hapart c (by simp) d rfl (h.alphanumeric c (by simp)) hd
      rw [split, splitAfter_unbroken hne h, List.reverse_append]
      simp [splitAfter, hd, hboundary, close, split]
    · have hmark : isAlphanumeric d = false := Bool.eq_false_iff.2 hd
      rw [split_append_mark hne h hmark, split_cons_of_not hmark]

theorem Segmented.split_eq (h : Segmented text words) : split text = words := by
  induction h with
  | nil => rfl
  | skip hc _ ih => rw [split_cons_of_not hc, ih]
  | word hne hword hapart _ ih => rw [split_append_of_apart hne hword hapart, ih]

theorem Segmented.append (h : Segmented before words) (hbehind : Segmented behind others)
    (hapart : Apart before behind) : Segmented (before ++ behind) (words ++ others) := by
  induction h with
  | nil => exact hbehind
  | @skip c text words hc _ ih =>
    have hrest : Apart ([c] ++ text) behind := hapart
    exact .skip hc (ih hrest.of_append_left)
  | @word word text words hne hword hends _ ih =>
    rw [List.append_assoc]
    refine .word hne hword (hends.append_right fun htext => ?_) (ih hapart.of_append_left)
    subst htext
    simpa using hapart

/-- Texts that are apart are divided each on its own. -/
theorem split_append (hapart : Apart before behind) :
    split (before ++ behind) = split before ++ split behind :=
  ((segmented_split before).append (segmented_split behind) hapart).split_eq

theorem Segmented.flatten (h : Segmented text words) :
    words.flatten = text.filter isAlphanumeric := by
  induction h with
  | nil => rfl
  | skip hc _ ih => simpa [hc] using ih
  | word _ hword _ _ ih =>
    rw [List.flatten_cons, ih, List.filter_append, List.filter_eq_self.2 hword.alphanumeric]

/-- The words have the letters and numbers of the text, in their order. -/
theorem flatten_split (text : List Char) : (split text).flatten = text.filter isAlphanumeric :=
  (segmented_split text).flatten

/-- A part of a text is a block: a run that no boundary divides and that goes on to neither
side. -/
structure Block (before word behind : List Char) : Prop where
  ne_nil : word ≠ []
  unbroken : Unbroken word
  begins : Apart before word
  ends : Apart word behind

theorem Block.split_eq (h : Block before word behind) :
    split (before ++ word ++ behind) = split before ++ word :: split behind := by
  have hends : Apart (before ++ word) behind := (apart_append_iff h.ne_nil _ _).2 h.ends
  rw [split_append hends, split_append h.begins, split_unbroken h.ne_nil h.unbroken,
    List.append_assoc, List.singleton_append]

/-- A block stays one behind a text from which nothing goes on into it. -/
theorem Block.append_left (h : Block before word behind)
    (hfront : before = [] → Apart front word) : Block (front ++ before) word behind :=
  ⟨h.ne_nil, h.unbroken, h.begins.append_left hfront, h.ends⟩

/-- Every word is a block, and the words in front of it are those of the text in front of it. -/
theorem Segmented.exists_block (h : Segmented text words) {leading trailing : List (List Char)}
    (hwords : words = leading ++ word :: trailing) :
    ∃ before behind, text = before ++ word ++ behind ∧ Block before word behind ∧
      split before = leading ∧ split behind = trailing := by
  induction h generalizing leading with
  | nil => exact absurd hwords (by simp)
  | @skip c text words hc _ ih =>
    obtain ⟨before, behind, rfl, hblock, hleading, htrailing⟩ := ih hwords
    have hbegins : Block ([c] ++ before) word behind :=
      hblock.append_left fun _ => by simp [Apart, hc]
    exact ⟨c :: before, behind, rfl, hbegins, (split_cons_of_not hc before).trans hleading,
      htrailing⟩
  | @word first text words hne hfirst hends htext ih =>
    cases leading with
    | nil =>
      obtain ⟨rfl, rfl⟩ := List.cons.inj hwords
      exact ⟨[], text, rfl, ⟨hne, hfirst, nil_apart _, hends⟩, rfl, htext.split_eq⟩
    | cons other leading =>
      -- the word stands in the rest, and the first word is put in front of what is before it
      obtain ⟨rfl, hrest⟩ := List.cons.inj hwords
      obtain ⟨before, behind, rfl, hblock, hleading, htrailing⟩ := ih hrest
      refine ⟨first ++ before, behind, by simp, hblock.append_left fun hbefore => ?_, ?_, htrailing⟩
      · subst hbefore
        exact hends.of_append_right
      · rw [split_append_of_apart hne hfirst hends.of_append_right.of_append_right, hleading]

/-- The words of a text are its blocks, in the order in which they stand. -/
theorem split_eq_append_cons_iff {leading trailing : List (List Char)} :
    split text = leading ++ word :: trailing ↔ ∃ before behind, text = before ++ word ++ behind ∧
      Block before word behind ∧ split before = leading ∧ split behind = trailing := by
  constructor
  · exact (segmented_split text).exists_block
  · rintro ⟨before, behind, rfl, hblock, rfl, rfl⟩
    exact hblock.split_eq

theorem exists_block_of_mem (h : word ∈ split text) :
    ∃ before behind, text = before ++ word ++ behind ∧ Block before word behind := by
  obtain ⟨leading, trailing, hsplit⟩ := List.append_of_mem h
  obtain ⟨before, behind, htext, hblock, -, -⟩ := split_eq_append_cons_iff.1 hsplit
  exact ⟨before, behind, htext, hblock⟩

theorem split_eq_nil_iff : split text = [] ↔ ∀ c ∈ text, isAlphanumeric c = false := by
  constructor
  · intro h
    have hnone := flatten_split text
    rw [h, List.flatten_nil, eq_comm, List.filter_eq_nil_iff] at hnone
    simpa using hnone
  · intro h
    induction text with
    | nil => rfl
    | cons c text ih =>
      rw [split_cons_of_not (h c List.mem_cons_self)]
      exact ih fun d hd => h d (List.mem_cons_of_mem _ hd)

/-- What stands between two words: something that is neither letter nor number, or nothing, and
then there is a boundary between them. -/
theorem exists_gap {leading trailing : List (List Char)} {first second : List Char}
    (h : split text = leading ++ first :: second :: trailing) :
    ∃ before gap behind, text = before ++ first ++ (gap ++ second ++ behind) ∧
      split before = leading ∧ split behind = trailing ∧ (∀ c ∈ gap, isAlphanumeric c = false) ∧
      (gap = [] → ∃ c ∈ first.getLast?, ∃ d ∈ second.head?, isBoundary c d = true) := by
  obtain ⟨before, rest, rfl, hfirst, hleading, hrest⟩ := split_eq_append_cons_iff.1 h
  obtain ⟨gap, behind, rfl, hsecond, hgap, htrailing⟩ :=
    split_eq_append_cons_iff.1 (show split rest = [] ++ second :: trailing from hrest)
  refine ⟨before, gap, behind, rfl, hleading, htrailing, split_eq_nil_iff.1 hgap, fun hnone => ?_⟩
  subst hnone
  have hapart : Apart first second := hfirst.ends.of_append_right
  obtain ⟨c, hc⟩ := Option.isSome_iff_exists.1 (List.getLast?_isSome.2 hfirst.ne_nil)
  obtain ⟨d, hd⟩ := Option.isSome_iff_exists.1 (List.isSome_head?.2 hsecond.ne_nil)
  refine ⟨c, hc, d, hd, hapart c hc d hd ?_ ?_⟩
  · exact hfirst.unbroken.alphanumeric c (List.mem_of_getLast? hc)
  · exact hsecond.unbroken.alphanumeric d (List.mem_of_head? hd)

/-- The words of a text are, in order, its blocks of letters and numbers that no boundary divides
and that are as long as they can be. None is empty, together they have all letters and numbers of
the text in their order, and two that follow each other are parted by something else or by a
boundary. -/
theorem split_exact (text : List Char) :
    (∀ leading word trailing, split text = leading ++ word :: trailing ↔
      ∃ before behind, text = before ++ word ++ behind ∧ Block before word behind ∧
        split before = leading ∧ split behind = trailing) ∧
    (∀ word ∈ split text, word ≠ [] ∧ (∀ c ∈ word, isAlphanumeric c = true) ∧
      word.IsChain fun before c => isBoundary before c = false) ∧
    (split text).flatten = text.filter isAlphanumeric ∧
    ∀ leading first second trailing, split text = leading ++ first :: second :: trailing →
      ∃ before gap behind, text = before ++ first ++ (gap ++ second ++ behind) ∧
        split before = leading ∧ split behind = trailing ∧
        (∀ c ∈ gap, isAlphanumeric c = false) ∧
        (gap = [] → ∃ c ∈ first.getLast?, ∃ d ∈ second.head?, isBoundary c d = true) := by
  refine ⟨fun _ _ _ => split_eq_append_cons_iff, fun word hword => ?_, flatten_split text,
    fun _ _ _ _ => exists_gap⟩
  obtain ⟨before, behind, -, hblock⟩ := exists_block_of_mem hword
  exact ⟨hblock.ne_nil, hblock.unbroken.alphanumeric, hblock.unbroken.whole⟩

/-- A boundary behind a letter, one behind a digit, and two marks between words. -/
theorem split_exact_label :
    split "aNo2B--x".toList = [['a'], ['N', 'o', '2'], ['B'], ['x']] ∧
    ['N', 'o', '2'].IsChain (fun before c => isBoundary before c = false) ∧
    ∃ before gap behind, "aNo2B--x".toList = before ++ ['N', 'o', '2'] ++ (gap ++ ['B'] ++ behind) ∧
      split before = [['a']] ∧ split behind = [['x']] ∧
      (∀ c ∈ gap, isAlphanumeric c = false) ∧
      (gap = [] → ∃ c ∈ ['N', 'o', '2'].getLast?, ∃ d ∈ ['B'].head?, isBoundary c d = true) := by
  have hsplit : split "aNo2B--x".toList = [['a'], ['N', 'o', '2'], ['B'], ['x']] := by decide
  obtain ⟨-, hwords, -, hgaps⟩ := split_exact "aNo2B--x".toList
  have hmem : ['N', 'o', '2'] ∈ split "aNo2B--x".toList := hsplit ▸ by simp
  exact ⟨hsplit, (hwords _ hmem).2.2, hgaps [['a']] _ _ [['x']] hsplit⟩

end Reshape.Words
