import Mathlib.Data.List.DropRight
import Mathlib.Data.List.TakeWhile
import Reshape.Text.Basic

namespace Reshape

namespace Text

variable {p : Char → Bool}

theorem le_iff_toNat {c d : Char} : c ≤ d ↔ c.toNat ≤ d.toNat := Iff.rfl

theorem isAlphanumeric_of_isAscii {c : Char} (h : isAscii c = true) :
    isAlphanumeric c = isAsciiAlphanumeric c := by
  rw [isAlphanumeric, isAlphabetic, isNumeric, if_pos h, if_pos h, isAsciiAlphanumeric]

theorem span_append {w s : List Char} (hw : ∀ x ∈ w, p x = true)
    (hs : ∀ c ∈ s.head?, p c = false) :
    (w ++ s).takeWhile p = w ∧ (w ++ s).dropWhile p = s := by
  rw [List.takeWhile_append_of_pos hw, List.dropWhile_append_of_pos hw]
  cases s with
  | nil => simp
  | cons c s =>
    have hc : p c = false := hs c rfl
    simp [hc]

theorem occursIn_iff {mark cs : List Char} : occursIn mark cs = true ↔ mark <:+: cs := by
  induction cs with
  | nil => simp [occursIn]
  | cons c cs ih =>
    rw [occursIn, Bool.or_eq_true, ih, List.infix_cons_iff, Option.isSome_iff_exists]
    simp only [after?_eq_some]
    exact or_congr_left (exists_congr fun rest => eq_comm)

theorem trim_eq_nil_iff {cs : List Char} : trim cs = [] ↔ ∀ c ∈ cs, isBlank c = true := by
  unfold trim trimBy trimEndBy
  rw [List.reverse_eq_nil_iff, List.dropWhile_eq_nil_iff]
  simp only [List.mem_reverse]
  constructor
  · intro h
    -- the rest behind the blanks in front starts with no blank, so there is none
    have hrest : cs.dropWhile isBlank = [] := by
      cases hd : cs.dropWhile isBlank with
      | nil => rfl
      | cons c rest =>
        have hc : isBlank c = true := h c (hd ▸ List.mem_cons_self)
        have hhead := List.head?_dropWhile_not isBlank cs
        simp [hd, hc] at hhead
    exact List.dropWhile_eq_nil_iff.1 hrest
  · intro h c hc
    exact h c ((List.dropWhile_sublist isBlank).subset hc)

/-- Only what stands before a character that does not satisfy `p` is dropped. -/
theorem dropWhile_append_cons {c : Char} (hc : p c = false) (before behind : List Char) :
    (before ++ c :: behind).dropWhile p = before.dropWhile p ++ c :: behind := by
  induction before with
  | nil => simp [hc]
  | cons b before ih =>
    rw [List.cons_append, List.dropWhile_cons, List.dropWhile_cons, ih]
    split <;> rfl

theorem trimEndBy_append_cons {c : Char} (hc : p c = false) (before behind : List Char) :
    trimEndBy p (before ++ c :: behind) = before ++ c :: trimEndBy p behind := by
  have hreverse : (before ++ c :: behind).reverse = behind.reverse ++ c :: before.reverse := by
    simp
  unfold trimEndBy
  rw [hreverse, dropWhile_append_cons hc]
  simp

/-- What stands between two characters that are not blank is not touched. -/
theorem trim_append_cons {c d : Char} (hc : isBlank c = false) (hd : isBlank d = false)
    (before between behind : List Char) :
    trim (before ++ c :: (between ++ d :: behind)) =
      before.dropWhile isBlank ++ c :: (between ++ d :: trimEnd behind) := by
  unfold trim trimBy trimEnd
  rw [dropWhile_append_cons hc, ← List.cons_append, ← List.append_assoc,
    trimEndBy_append_cons hd, List.append_assoc, List.cons_append]

def EndsVisible (cs : List Char) : Prop := ∀ c ∈ cs.getLast?, isBlank c = false

theorem endsVisible_nil : EndsVisible [] := by simp [EndsVisible]

theorem endsVisible_concat {c : Char} (hc : isBlank c = false) (cs : List Char) :
    EndsVisible (cs ++ [c]) := by
  simpa [EndsVisible] using hc

theorem EndsVisible.append {cs : List Char} (h : EndsVisible cs) (hne : cs ≠ [])
    (before : List Char) : EndsVisible (before ++ cs) := by
  intro c hc
  rw [List.getLast?_append] at hc
  cases hlast : cs.getLast? with
  | none => exact absurd (List.getLast?_eq_none_iff.1 hlast) hne
  | some d => exact h c (by simpa [hlast] using hc)

theorem endsVisible_trimEnd (cs : List Char) : EndsVisible (trimEnd cs) := by
  intro c hc
  have hhead := List.head?_dropWhile_not isBlank cs.reverse
  unfold trimEnd trimEndBy at hc
  rw [List.getLast?_reverse, Option.mem_def] at hc
  simpa [hc] using hhead

theorem endsVisible_trim (cs : List Char) : EndsVisible (trim cs) :=
  endsVisible_trimEnd (cs.dropWhile isBlank)

theorem EndsVisible.trimEnd_eq {cs : List Char} (h : EndsVisible cs) : trimEnd cs = cs := by
  rcases List.eq_nil_or_concat cs with rfl | ⟨before, c, hcs⟩
  · rfl
  · rw [List.concat_eq_append] at hcs
    subst hcs
    have hc : isBlank c = false := h c (by simp)
    exact trimEndBy_append_cons hc before []

theorem trimEndBy_idempotent (p : Char → Bool) (cs : List Char) :
    trimEndBy p (trimEndBy p cs) = trimEndBy p cs := List.rdropWhile_idempotent p cs

/-- What is trimmed at its end starts as it did. -/
theorem dropWhile_trimEndBy {cs : List Char} (h : cs.dropWhile p = cs) :
    (trimEndBy p cs).dropWhile p = trimEndBy p cs := by
  obtain ⟨behind, hcs⟩ : trimEndBy p cs <+: cs := List.rdropWhile_prefix p cs
  cases hkept : trimEndBy p cs with
  | nil => rfl
  | cons c kept =>
    rw [hkept, List.cons_append] at hcs
    have hc : ¬p c = true := by
      rw [← hcs, List.dropWhile_eq_self_iff] at h
      exact h (by simp)
    rw [List.dropWhile_cons_of_neg hc]

theorem trimBy_idempotent (p : Char → Bool) (cs : List Char) :
    trimBy p (trimBy p cs) = trimBy p cs := by
  have hstart : (trimBy p cs).dropWhile p = trimBy p cs :=
    dropWhile_trimEndBy (List.dropWhile_idempotent p cs)
  rw [trimBy, hstart]
  exact trimEndBy_idempotent p _

theorem splitBy_ne_nil (s : List Char) : splitBy p s ≠ [] := by
  cases s with
  | nil => simp [splitBy]
  | cons c cs =>
    unfold splitBy
    split
    · simp
    · split <;> simp

theorem not_of_mem_splitBy {s part : List Char} (h : part ∈ splitBy p s) :
    ∀ c ∈ part, p c = false := by
  induction s generalizing part with
  | nil =>
    simp only [splitBy, List.mem_singleton] at h
    simp [h]
  | cons c cs ih =>
    unfold splitBy at h
    split at h
    · rcases List.mem_cons.1 h with rfl | h
      · simp
      · exact ih h
    · next hc =>
      split at h
      · next hn => exact absurd hn (splitBy_ne_nil cs)
      · next first parts hparts =>
        rcases List.mem_cons.1 h with rfl | h
        · intro x hx
          rcases List.mem_cons.1 hx with rfl | hx
          · simpa using hc
          · exact ih (hparts ▸ List.mem_cons_self) x hx
        · exact ih (hparts ▸ List.mem_cons_of_mem _ h)

theorem joinWith_cons_of_ne_nil {mark part : List Char} {parts : List (List Char)}
    (h : parts ≠ []) : joinWith mark (part :: parts) = part ++ mark ++ joinWith mark parts := by
  cases parts with
  | nil => exact absurd rfl h
  | cons => rfl

theorem joinWith_append {mark : List Char} {parts others : List (List Char)} (h : parts ≠ [])
    (ho : others ≠ []) :
    joinWith mark (parts ++ others) = joinWith mark parts ++ mark ++ joinWith mark others := by
  induction parts with
  | nil => exact absurd rfl h
  | cons part parts ih =>
    by_cases hparts : parts = []
    · subst hparts
      exact joinWith_cons_of_ne_nil ho
    · have hsome : parts ++ others ≠ [] := List.append_ne_nil_of_left_ne_nil hparts _
      rw [List.cons_append, joinWith_cons_of_ne_nil hsome, joinWith_cons_of_ne_nil hparts,
        ih hparts]
      simp only [List.append_assoc]

theorem endsVisible_joinWith {mark : List Char} {parts : List (List Char)} (hne : parts ≠ [])
    (h : ∀ part ∈ parts, part ≠ [] ∧ EndsVisible part) :
    joinWith mark parts ≠ [] ∧ EndsVisible (joinWith mark parts) := by
  induction parts with
  | nil => exact absurd rfl hne
  | cons part parts ih =>
    by_cases hparts : parts = []
    · subst hparts
      exact h part List.mem_cons_self
    · obtain ⟨hsome, hends⟩ := ih hparts fun other ho => h other (List.mem_cons_of_mem _ ho)
      rw [joinWith_cons_of_ne_nil hparts]
      exact ⟨by simp [hsome], hends.append hsome _⟩

theorem joinWith_cons_cons (mark : List Char) (c : Char) (part : List Char)
    (parts : List (List Char)) :
    joinWith mark ((c :: part) :: parts) = c :: joinWith mark (part :: parts) := by
  cases parts with
  | nil => rfl
  | cons => simp [joinWith]

theorem joinWith_splitBy (mark : Char) (s : List Char) :
    joinWith [mark] (splitBy (· = mark) s) = s := by
  induction s with
  | nil => rfl
  | cons c cs ih =>
    unfold splitBy
    by_cases hc : c = mark
    · rw [if_pos (by simpa using hc), joinWith_cons_of_ne_nil (splitBy_ne_nil cs), ih, hc]
      rfl
    · rw [if_neg (by simpa using hc)]
      split
      · next hn => exact absurd hn (splitBy_ne_nil cs)
      · next part parts hparts =>
        rw [joinWith_cons_cons, ← hparts, ih]

theorem splitBy_of_forall {part : List Char} (h : ∀ c ∈ part, p c = false) :
    splitBy p part = [part] := by
  induction part with
  | nil => rfl
  | cons c part ih =>
    have hc : p c = false := h c List.mem_cons_self
    rw [splitBy, hc, ih fun x hx => h x (List.mem_cons_of_mem _ hx)]
    rfl

theorem splitBy_append_mark {mark : Char} (hm : p mark = true) (s t : List Char) :
    splitBy p (s ++ mark :: t) = splitBy p s ++ splitBy p t := by
  induction s with
  | nil => simp [splitBy, hm]
  | cons c s ih =>
    obtain ⟨part, parts, hparts⟩ := List.exists_cons_of_ne_nil (splitBy_ne_nil (p := p) s)
    by_cases hc : p c = true
    · simp [splitBy, hc, ih]
    · simp [splitBy, hc, ih, hparts]

theorem splitBy_append {part : List Char} (h : ∀ c ∈ part, p c = false) (mark : Char)
    (hm : p mark = true) (s : List Char) :
    splitBy p (part ++ mark :: s) = part :: splitBy p s := by
  rw [splitBy_append_mark hm, splitBy_of_forall h, List.singleton_append]

theorem decide_eq_false_of_not_mem {mark : Char} {part : List Char} (h : mark ∉ part) :
    ∀ c ∈ part, decide (c = mark) = false := by
  intro c hc
  have hne : c ≠ mark := fun he => h (he ▸ hc)
  simpa using hne

theorem splitBy_joinWith {mark : Char} {parts : List (List Char)} (hne : parts ≠ [])
    (h : ∀ part ∈ parts, mark ∉ part) : splitBy (· = mark) (joinWith [mark] parts) = parts := by
  have hall : ∀ part ∈ parts, ∀ c ∈ part, decide (c = mark) = false :=
    fun part hp => decide_eq_false_of_not_mem (h part hp)
  clear h
  induction parts with
  | nil => exact absurd rfl hne
  | cons part parts ih =>
    have hpart := hall part List.mem_cons_self
    by_cases hparts : parts = []
    · subst hparts
      exact splitBy_of_forall hpart
    · rw [joinWith_cons_of_ne_nil hparts, List.append_assoc, List.singleton_append,
        splitBy_append hpart mark (by simp),
        ih hparts fun part hp => hall part (List.mem_cons_of_mem _ hp)]

theorem byteSize_append (s t : List Char) : byteSize (s ++ t) = byteSize s + byteSize t := by
  induction s with
  | nil => simp [byteSize]
  | cons c s ih => simp [byteSize, ih, Nat.add_assoc]

theorem utf8ByteSize_ofList (s : List Char) : (String.ofList s).utf8ByteSize = byteSize s := by
  induction s with
  | nil => simp [byteSize]
  | cons c s ih =>
    rw [byteSize, ← ih, ← List.singleton_append, String.ofList_append, String.utf8ByteSize_append]
    simp

theorem dropReturn_append_return (line : List Char) : dropReturn (line ++ ['\r']) = line := by
  simp [dropReturn]

theorem dropReturn_of_not_mem {line : List Char} (h : '\r' ∉ line) : dropReturn line = line := by
  unfold dropReturn
  split
  · next rest hreverse =>
    have hmem : '\r' ∈ line.reverse := hreverse ▸ List.mem_cons_self
    exact absurd (List.mem_reverse.1 hmem) h
  · rfl

theorem mem_of_mem_dropReturn {line : List Char} {c : Char} (h : c ∈ dropReturn line) :
    c ∈ line := by
  unfold dropReturn at h
  split at h
  · next rest hreverse =>
    have hmem : c ∈ line.reverse := hreverse ▸ List.mem_cons_of_mem _ (List.mem_reverse.1 h)
    exact List.mem_reverse.1 hmem
  · exact h

theorem lines_append_cons {line : List Char} (h : '\n' ∉ line) (s : List Char) :
    lines (line ++ '\n' :: s) = dropReturn line :: lines s := by
  have hparts := splitBy_append (decide_eq_false_of_not_mem h) '\n' (by simp) s
  have hrest := splitBy_ne_nil (p := (· = '\n')) s
  unfold lines
  rw [hparts]
  simp only [List.getLast?_cons_of_ne_nil hrest, List.dropLast_cons_of_ne_nil hrest]
  split <;> simp_all

theorem lines_of_not_mem {line : List Char} (h : '\n' ∉ line) :
    lines line = if line = [] then [] else [line] := by
  unfold lines
  rw [splitBy_of_forall (decide_eq_false_of_not_mem h)]
  cases line <;> rfl

theorem lines_ne_nil {s : List Char} (h : s ≠ []) : lines s ≠ [] := by
  by_cases hbreak : '\n' ∈ s
  · obtain ⟨line, rest, rfl, hline⟩ := List.eq_append_cons_of_mem hbreak
    rw [lines_append_cons hline]
    exact List.cons_ne_nil _ _
  · rw [lines_of_not_mem hbreak, if_neg h]
    exact List.cons_ne_nil _ _

/-- A line break that is not the end of a text makes two lines of it. -/
theorem one_lt_length_lines {s : List Char} (h : '\n' ∈ s) (hlast : s.getLast? ≠ some '\n') :
    1 < (lines s).length := by
  obtain ⟨line, rest, rfl, hline⟩ := List.eq_append_cons_of_mem h
  have hrest : rest ≠ [] := by
    rintro rfl
    simp at hlast
  have hlines := List.length_pos_iff.2 (lines_ne_nil hrest)
  rw [lines_append_cons hline, List.length_cons]
  omega

end Text

end Reshape
