import Reshape.Proofs.Text

namespace Reshape.Text

variable {mark : List Char}

/-- A text divided at the occurrences of a mark that a search from the left finds: it goes on
behind the first one, and there is none in what is left. -/
inductive Divided (mark : List Char) : List Char → List (List Char) → Prop where
  | whole {s : List Char} (h : ¬mark <:+: s) : Divided mark s [s]
  | first {before behind : List Char} {parts : List (List Char)}
      (h : ∀ n < before.length, ¬mark <+: (before ++ mark ++ behind).drop n)
      (hrest : Divided mark behind parts) :
      Divided mark (before ++ mark ++ behind) (before :: parts)

namespace Divided

variable {s : List Char} {parts others : List (List Char)}

theorem ne_nil (h : Divided mark s parts) : parts ≠ [] := by
  cases h <;> exact List.cons_ne_nil _ _

/-- No character of the text is lost, and none is there twice. -/
theorem joinWith_eq (h : Divided mark s parts) : joinWith mark parts = s := by
  induction h with
  | whole => rfl
  | first _ hrest ih => rw [joinWith_cons_of_ne_nil hrest.ne_nil, ih]

/-- A mark in front is the first occurrence. -/
theorem occurs {behind : List Char} (hrest : Divided mark behind parts) :
    Divided mark (mark ++ behind) ([] :: parts) :=
  @first mark [] behind parts (by simp) hrest

/-- A character at which the mark does not stand belongs to the first part. -/
theorem keep {c : Char} (h : Divided mark s parts) (hc : ¬mark <+: c :: s) :
    Divided mark (c :: s) (splitAround.keep c parts) := by
  cases h with
  | whole hs => exact .whole fun hinfix => (List.infix_cons_iff.1 hinfix).elim hc hs
  | @first before behind parts hbefore hrest =>
    refine @first mark (c :: before) behind parts (fun n hn => ?_) hrest
    cases n with
    | zero => exact hc
    | succ n => exact hbefore n (Nat.lt_of_succ_lt_succ hn)

theorem inversion (h : Divided mark s parts) :
    ¬mark <:+: s ∧ parts = [s] ∨ ∃ before behind rest, s = before ++ mark ++ behind ∧
      (∀ n < before.length, ¬mark <+: s.drop n) ∧ Divided mark behind rest ∧
        parts = before :: rest := by
  cases h with
  | whole h => exact .inl ⟨h, rfl⟩
  | first h hrest => exact .inr ⟨_, _, _, rfl, h, hrest, rfl⟩

theorem not_longer {before behind other rest : List Char}
    (hs : before ++ mark ++ behind = other ++ mark ++ rest)
    (h : ∀ n < other.length, ¬mark <+: (other ++ mark ++ rest).drop n) :
    other.length ≤ before.length := by
  by_contra hlonger
  refine h before.length (by omega) ?_
  rw [← hs, List.append_assoc, List.drop_left]
  exact List.prefix_append mark behind

theorem unique (h : Divided mark s parts) (hother : Divided mark s others) : parts = others := by
  induction h generalizing others with
  | whole hnone =>
    obtain ⟨-, rfl⟩ | ⟨before, behind, rest, rfl, -⟩ := hother.inversion
    · rfl
    · exact absurd ⟨before, behind, rfl⟩ hnone
  | @first before behind parts hbefore _ ih =>
    obtain ⟨hnone, -⟩ | ⟨other, rest, otherParts, hs, hfirst, hrest, rfl⟩ := hother.inversion
    · exact absurd ⟨before, behind, rfl⟩ hnone
    · -- neither first occurrence stands in front of the other
      have hlength : before.length = other.length :=
        Nat.le_antisymm (not_longer hs.symm hbefore) (not_longer hs (hs ▸ hfirst))
      rw [List.append_assoc, List.append_assoc] at hs
      obtain ⟨rfl, hbehind⟩ := List.append_inj hs hlength
      obtain rfl := List.append_cancel_left hbehind
      rw [ih hrest]

end Divided

theorem not_prefix_of_after? {cs : List Char} (h : after? mark cs = none) : ¬mark <+: cs := by
  rintro ⟨rest, rfl⟩
  exact absurd (h.symm.trans (after?_eq_some.2 rfl)) (by simp)

variable {m c : Char} {cs rest : List Char}

theorem not_prefix_of_ne (hc : c ≠ m) : ¬m :: mark <+: c :: rest :=
  fun hprefix => hc (List.cons_prefix_cons.1 hprefix).1.symm

theorem not_prefix_cons (h : after? mark rest = none) : ¬m :: mark <+: m :: rest :=
  fun hprefix => not_prefix_of_after? h (List.cons_prefix_cons.1 hprefix).2

theorem divided_splitAround (m : Char) (mark cs : List Char) :
    Divided (m :: mark) cs (splitAround m mark cs) := by
  fun_induction splitAround m mark cs with
  | case1 => exact .whole (by simp)
  | case2 rest behind hbehind ih =>
    obtain rfl := after?_eq_some.1 hbehind
    exact ih.occurs
  | case3 rest hnone ih => exact ih.keep (not_prefix_cons hnone)
  | case4 c rest hc ih => exact ih.keep (not_prefix_of_ne hc)

theorem splitAround_eq_iff {parts : List (List Char)} :
    splitAround m mark cs = parts ↔ Divided (m :: mark) cs parts := by
  constructor
  · rintro rfl
    exact divided_splitAround m mark cs
  · exact (divided_splitAround m mark cs).unique

theorem splitAround_mark (m : Char) (mark behind : List Char) :
    splitAround m mark (m :: (mark ++ behind)) = [] :: splitAround m mark behind :=
  splitAround_eq_iff.2 (divided_splitAround m mark behind).occurs

theorem splitAround_cons (h : ¬m :: mark <+: c :: rest) :
    splitAround m mark (c :: rest) = splitAround.keep c (splitAround m mark rest) :=
  splitAround_eq_iff.2 ((divided_splitAround m mark rest).keep h)

theorem joinWith_nil_mark (parts : List (List Char)) : joinWith [] parts = parts.flatten := by
  induction parts with
  | nil => rfl
  | cons part parts ih =>
    by_cases hparts : parts = []
    · simp [hparts, joinWith]
    · rw [joinWith_cons_of_ne_nil hparts, ih, List.append_nil, List.flatten_cons]

/-- Whatever the mark is, the empty one included, the parts around it are those of the text. -/
theorem joinWith_splitOn (mark cs : List Char) : joinWith mark (splitOn mark cs) = cs := by
  cases mark with
  | nil =>
    have hsingle : (cs.map fun c => [c]).flatten = cs := by
      rw [← List.flatMap_def, List.flatMap_singleton']
    rw [splitOn, joinWith_nil_mark]
    simp [hsingle]
  | cons m mark => exact (divided_splitAround m mark cs).joinWith_eq

theorem joinWith_keep {parts : List (List Char)} (h : parts ≠ []) (mark : List Char) (c : Char) :
    joinWith mark (splitAround.keep c parts) = c :: joinWith mark parts := by
  cases parts with
  | nil => exact absurd rfl h
  | cons part parts => exact joinWith_cons_cons mark c part parts

/-- Replacing goes through the text as dividing does, with the other text in the place where a part
ends. -/
theorem replaceEach_eq (m : Char) (mark other cs : List Char) :
    replaceEach m mark other cs = joinWith other (splitAround m mark cs) := by
  have hsome : ∀ s, splitAround m mark s ≠ [] := fun s => (divided_splitAround m mark s).ne_nil
  fun_induction replaceEach m mark other cs with
  | case1 => rw [splitAround]; rfl
  | case2 rest behind hbehind ih =>
    obtain rfl := after?_eq_some.1 hbehind
    rw [splitAround_mark, joinWith_cons_of_ne_nil (hsome behind), ih, List.nil_append]
  | case3 rest hnone ih =>
    rw [splitAround_cons (not_prefix_cons hnone), joinWith_keep (hsome rest), ih]
  | case4 c rest hc ih =>
    rw [splitAround_cons (not_prefix_of_ne hc), joinWith_keep (hsome rest), ih]

end Reshape.Text
