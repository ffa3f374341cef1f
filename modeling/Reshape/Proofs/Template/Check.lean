import Reshape.Filter.Builtin
import Reshape.Proofs.Sorted
import Reshape.Proofs.Template.Known

namespace Reshape.Template

open Grammar (filters_eq filters_of_bar chain_eq head_sound)

def firstUnknown? (known : String → Bool) (names : List String) : Option String :=
  names.find? fun name => !known name

/-- What a reader that takes any name comes to, and what one that knows some names comes to. -/
inductive Checked {α : Type} (known : String → Bool) (names : α → List String) :
    Except Rejection α → Except Rejection α → Prop
  | accepted {a : α} (h : firstUnknown? known (names a) = none) :
    Checked known names (.ok a) (.ok a)
  | refused {a : α} {name : String} (h : firstUnknown? known (names a) = some name) :
    Checked known names (.ok a) (.error (.unknownFilter name))
  | fault (rejection : Rejection) : Checked known names (.error rejection) (.error rejection)
  /-- A name that is not known stands before the fault. -/
  | early (rejection : Rejection) {name : String} (h : known name = false) :
    Checked known names (.error rejection) (.error (.unknownFilter name))

variable {known : String → Bool}

theorem firstUnknown?_append (names others : List String) :
    firstUnknown? known (names ++ others) =
      (firstUnknown? known names).or (firstUnknown? known others) :=
  List.find?_append

theorem eq_false_of_firstUnknown? {names : List String} {name : String}
    (h : firstUnknown? known names = some name) : known name = false := by
  simpa using List.find?_some h

theorem Expr.allKnown_iff {e : Expr} :
    e.AllKnown known ↔ firstUnknown? known e.filterNames = none := by
  simp [AllKnown, firstUnknown?]

namespace Checked

variable {α β : Type} {names : α → List String}

theorem of_ok {a : α} {checked : Except Rejection α} (h : Checked known names (.ok a) checked) :
    (firstUnknown? known (names a) = none ∧ checked = .ok a) ∨
      ∃ name, firstUnknown? known (names a) = some name ∧
        checked = .error (.unknownFilter name) := by
  cases h with
  | accepted h => exact .inl ⟨h, rfl⟩
  | refused h => exact .inr ⟨_, h, rfl⟩

theorem of_error {rejection : Rejection} {checked : Except Rejection α}
    (h : Checked known names (.error rejection) checked) :
    checked = .error rejection ∨
      ∃ name, known name = false ∧ checked = .error (.unknownFilter name) := by
  cases h with
  | fault => exact .inl rfl
  | early _ h => exact .inr ⟨_, h, rfl⟩

/-- A name that is refused early is the first of all names that are read behind it. -/
theorem of_before {before : List String} {name : String} {plain : Except Rejection α}
    (h : firstUnknown? known before = some name)
    (hnames : ∀ a, plain = .ok a → ∃ more, names a = before ++ more) :
    Checked known names plain (.error (.unknownFilter name)) := by
  cases plain with
  | error rejection => exact .early rejection (eq_false_of_firstUnknown? h)
  | ok a =>
    obtain ⟨more, hmore⟩ := hnames a rfl
    refine .refused ?_
    rw [hmore, firstUnknown?_append, h, Option.some_or]

/-- Names that are known may stand before those that are checked. -/
theorem map {plain checked : Except Rejection α} (h : Checked known names plain checked)
    {f : α → β} {names' : β → List String} {before : List String}
    (hbefore : firstUnknown? known before = none)
    (hnames : ∀ a, names' (f a) = before ++ names a) :
    Checked known names' (plain.map f) (checked.map f) := by
  have hfirst : ∀ a, firstUnknown? known (names' (f a)) = firstUnknown? known (names a) := by
    intro a
    rw [hnames, firstUnknown?_append, hbefore, Option.none_or]
  cases h with
  | accepted h => exact .accepted ((hfirst _).trans h)
  | refused h => exact .refused ((hfirst _).trans h)
  | fault rejection => exact .fault rejection
  | early rejection h => exact .early rejection h

end Checked

def foundNames (found : Expr × List Char) : List String := found.1.filterNames

theorem filterNames_of_filterStep {bar s rest : List Char} {inner e : Expr}
    (h : filterStep known bar inner s = .ok (e, rest)) :
    ∃ more, e.filterNames = inner.filterNames ++ more := by
  unfold filterStep at h
  split at h
  · exact absurd h (by simp)
  · split at h
    · exact absurd h (by simp)
    · simp only at h
      split at h
      · split at h
        · obtain ⟨rfl, -⟩ := Prod.mk.inj (Except.ok.inj h)
          exact ⟨[], rfl⟩
        · exact absurd h (by simp)
      · split at h
        · obtain ⟨rfl, -⟩ := Prod.mk.inj (Except.ok.inj h)
          exact ⟨_, rfl⟩
        · exact absurd h (by simp)

theorem filterNames_of_filters {s rest : List Char} {inner e : Expr}
    (h : filters known inner s = .ok (e, rest)) :
    ∃ more, e.filterNames = inner.filterNames ++ more := by
  fun_induction filters known inner s with
  | case1 => exact absurd h (by simp)
  | case2 inner s afterBar hs e' rest' hf ih =>
    obtain ⟨names, hnames⟩ := filterNames_of_filterStep hf
    obtain ⟨more, hmore⟩ := ih h
    exact ⟨names ++ more, by rw [hmore, hnames, List.append_assoc]⟩
  | case3 inner s =>
    obtain ⟨rfl, -⟩ := Prod.mk.inj (Except.ok.inj h)
    exact ⟨[], (List.append_nil _).symm⟩

/-- A name is looked up behind its arguments, when all else of the filter is read. -/
theorem filterStep_checked {inner : Expr}
    (hinner : firstUnknown? known inner.filterNames = none) (bar s : List Char) :
    Checked known foundNames (filterStep anyName bar inner s) (filterStep known bar inner s) := by
  unfold filterStep
  cases name? s with
  | none => exact .fault _
  | some found =>
    obtain ⟨name, afterName⟩ := found
    simp only
    cases arguments afterName with
    | error fault => exact .fault _
    | ok found =>
      obtain ⟨values, rest⟩ := found
      simp only
      -- `default` is no filter, so it is never looked up
      by_cases hdefault : String.ofList name = "default"
      · rw [if_pos hdefault, if_pos hdefault]
        match values with
        | [value] => exact .accepted (by simpa [foundNames, Expr.filterNames] using hinner)
        | [] => exact .fault _
        | _ :: _ :: _ => exact .fault _
      · have hany : anyName (String.ofList name) = true := rfl
        rw [if_neg hdefault, if_neg hdefault, if_pos hany]
        have hnames : ∀ e, foundNames (Expr.filter inner (String.ofList name) values, e) =
            inner.filterNames ++ [String.ofList name] := fun _ => rfl
        by_cases hknown : known (String.ofList name) = true
        · rw [if_pos hknown]
          refine .accepted ?_
          rw [hnames, firstUnknown?_append, hinner]
          simp [firstUnknown?, hknown]
        · rw [if_neg hknown]
          refine .refused ?_
          rw [hnames, firstUnknown?_append, hinner]
          simp [firstUnknown?, hknown]

theorem filters_checked {inner : Expr} (hinner : firstUnknown? known inner.filterNames = none)
    (s : List Char) :
    Checked known foundNames (filters anyName inner s) (filters known inner s) := by
  fun_induction filters anyName inner s with
  | case1 inner s afterBar hs rejection hf =>
    have hstep := filterStep_checked hinner ('|' :: afterBar) (skipBlanks afterBar)
    rw [hf] at hstep
    rcases hstep.of_error with hchecked | ⟨name, hname, hchecked⟩
    · simp only [filters_eq, hs, hchecked]
      exact .fault _
    · simp only [filters_eq, hs, hchecked]
      exact .early _ hname
  | case2 inner s afterBar hs e rest hf ih =>
    have hstep := filterStep_checked hinner ('|' :: afterBar) (skipBlanks afterBar)
    rw [hf] at hstep
    rcases hstep.of_ok with ⟨he, hchecked⟩ | ⟨name, hname, hchecked⟩
    · rw [filters_of_bar hs hchecked]
      exact ih he
    · simp only [filters_eq known, hs, hchecked]
      exact .of_before hname fun _ hrest => filterNames_of_filters hrest
  | case3 inner s hs =>
    rw [filters_eq]
    split
    · next hbar => exact absurd hbar (hs _)
    · exact .accepted hinner

theorem filterNames_of_head {block s rest : List Char} {inFallback : Bool} {e : Expr}
    (h : head block inFallback (skipBlanks s) = .ok (e, rest)) : e.filterNames = [] := by
  obtain ⟨used, -, hprimary⟩ := head_sound h
  cases hprimary <;> rfl

theorem filters_checked_of_head (known : String → Bool) {block s rest : List Char}
    {inFallback : Bool} {e : Expr} {plain : Except Rejection (Expr × List Char)}
    (h : head block inFallback (skipBlanks s) = .ok (e, rest))
    (hplain : filters anyName e rest = plain) :
    Checked known foundNames plain (filters known e rest) := by
  subst hplain
  exact filters_checked (by rw [filterNames_of_head h]; rfl) rest

theorem chain_checked (known : String → Bool) (block : List Char) (inFallback : Bool)
    (s : List Char) : Checked known foundNames (chain anyName block inFallback s)
      (chain known block inFallback s) := by
  -- along the reader that takes any name: the other one reads the same or stops earlier
  fun_induction chain anyName block inFallback s with
  | case1 inFallback s fault hh =>
    rw [chain_eq, hh]
    exact .fault _
  | case2 inFallback s first afterHead hh rejection hf =>
    rw [chain_eq, hh]
    rcases (filters_checked_of_head known hh hf).of_error with hc | ⟨name, hname, hc⟩
    · simp only [hc]
      exact .fault _
    · simp only [hc]
      exact .early _ hname
  | case3 inFallback s first afterHead hh e afterMark hf hend =>
    rw [chain_eq, hh]
    rcases (filters_checked_of_head known hh hf).of_ok with ⟨he, hc⟩ | ⟨name, hname, hc⟩
    · simp only [hc, if_pos hend]
      exact .fault _
    · simp only [hc]
      exact .early _ (eq_false_of_firstUnknown? hname)
  | case4 inFallback s first afterHead hh e afterMark hf hend ih =>
    rw [chain_eq known block inFallback, hh]
    rcases (filters_checked_of_head known hh hf).of_ok with ⟨he, hc⟩ | ⟨name, hname, hc⟩
    · simp only [hc, if_neg hend]
      exact ih.map he fun _ => rfl
    · simp only [hc]
      refine .of_before hname fun found hfound => ?_
      obtain ⟨other, -, rfl⟩ := Outcome.map_eq_ok.1 hfound
      exact ⟨_, rfl⟩
  | case5 inFallback s first afterHead hh e rest hmark hf =>
    rw [chain_eq, hh]
    rcases (filters_checked_of_head known hh hf).of_ok with ⟨he, hc⟩ | ⟨name, hname, hc⟩
    · simp only [hc]
      exact .accepted he
    · simp only [hc]
      exact .refused hname

theorem blockBody_checked (known : String → Bool) (block s : List Char) :
    Checked known foundNames (blockBody anyName block s) (blockBody known block s) := by
  have hchain := chain_checked known block false (skipBlanks s)
  unfold blockBody
  split
  · exact .fault _
  · exact .fault _
  · cases hplain : chain anyName block false (skipBlanks s) with
    | error rejection =>
      rw [hplain] at hchain
      rcases hchain.of_error with hc | ⟨name, hname, hc⟩
      · rw [hc]
        exact .fault _
      · rw [hc]
        exact .early _ hname
    | ok found =>
      rw [hplain] at hchain
      obtain ⟨e, rest⟩ := found
      rcases hchain.of_ok with ⟨he, hc⟩ | ⟨name, hname, hc⟩
      · rw [hc]
        simp only
        split
        · exact .accepted he
        · exact .fault _
        · exact .fault _
      · rw [hc]
        simp only
        split
        · exact .refused hname
        · exact .early _ (eq_false_of_firstUnknown? hname)
        · exact .early _ (eq_false_of_firstUnknown? hname)

theorem partFilterNames_textPart_append (text : List Char) (parts : List Expr) :
    Expr.partFilterNames (textPart text ++ parts) = Expr.partFilterNames parts := by
  unfold textPart
  split <;> rfl

theorem parts_eq (known : String → Bool) (s : List Char) :
    parts known s = match (freeText s).2 with
      | open1 :: open2 :: inside => match blockBody known (open1 :: open2 :: inside) inside with
        | .error rejection => .error rejection
        | .ok (e, rest) =>
          (parts known rest).map fun others => textPart (freeText s).1 ++ e :: others
      | _ => .ok (textPart (freeText s).1) := by
  rw [parts]
  split
  · next hs =>
    split
    · next hb => simp only [hs, hb]
    · next hb => simp only [hs, hb]
  · next hn =>
    split
    · next hs => exact absurd hs (hn _ _ _)
    · rfl

theorem parts_checked (known : String → Bool) (s : List Char) :
    Checked known Expr.partFilterNames (parts anyName s) (parts known s) := by
  fun_induction parts anyName s with
  | case1 s open1 open2 inside hs rejection hb =>
    -- free text names no filters, so the block decides
    have hblock := blockBody_checked known (open1 :: open2 :: inside) inside
    rw [hb] at hblock
    rw [parts_eq, hs]
    rcases hblock.of_error with hc | ⟨name, hname, hc⟩
    · simp only [hc]
      exact .fault _
    · simp only [hc]
      exact .early _ hname
  | case2 s open1 open2 inside hs e rest hb ih =>
    have hblock := blockBody_checked known (open1 :: open2 :: inside) inside
    have hnames : ∀ others, Expr.partFilterNames (textPart (freeText s).1 ++ e :: others) =
        e.filterNames ++ Expr.partFilterNames others :=
      fun others => partFilterNames_textPart_append _ _
    rw [hb] at hblock
    rw [parts_eq known s, hs]
    rcases hblock.of_ok with ⟨he, hc⟩ | ⟨name, hname, hc⟩
    · simp only [hc]
      exact ih.map he hnames
    · simp only [hc]
      refine .of_before hname fun found hfound => ?_
      obtain ⟨others, -, rfl⟩ := Outcome.map_eq_ok.1 hfound
      exact ⟨_, hnames others⟩
  | case3 s hn =>
    rw [parts_eq]
    split
    · next hs => exact absurd hs (hn _ _ _)
    · refine .accepted ?_
      rw [← List.append_nil (textPart _), partFilterNames_textPart_append]
      rfl

theorem filterNames_ofParts (parts : List Expr) :
    (ofParts parts).filterNames = Expr.partFilterNames parts := by
  match parts with
  | [] => rfl
  | [part] => exact (List.append_nil _).symm
  | _ :: _ :: _ => rfl

theorem parse_checked (known : String → Bool) (text : List Char) :
    Checked known Expr.filterNames (parse anyName text) (parse known text) := by
  have hnone : firstUnknown? known [] = none := rfl
  exact (parts_checked known text).map hnone filterNames_ofParts

/-- A text that is read is read by whoever knows the filters of its tree, and refused by anyone
else for the first of them that is not known. -/
theorem readKnown_of_read {text : String} {e : Expr} (h : read text = .ok e) :
    readKnown known text = match firstUnknown? known e.filterNames with
      | none => .ok e
      | some name => .error (.unknownFilter name none) := by
  have hchecked := parse_checked known text.toList
  unfold read readKnown at h
  rw [Outcome.mapError_eq_ok.1 h] at hchecked
  unfold readKnown
  rcases hchecked.of_ok with ⟨he, hc⟩ | ⟨name, hname, hc⟩
  · rw [hc, he]
    rfl
  · rw [hc, hname]
    rfl

theorem readKnown_of_read_error {text : String} {error : BuildError}
    (h : read text = .error error) : readKnown known text = .error error ∨
      ∃ name, known name = false ∧ readKnown known text = .error (.unknownFilter name none) := by
  have hchecked := parse_checked known text.toList
  unfold read readKnown at h
  obtain ⟨rejection, hplain, rfl⟩ := Outcome.mapError_eq_error.1 h
  rw [hplain] at hchecked
  unfold readKnown
  rcases hchecked.of_error with hc | ⟨name, hname, hc⟩
  · exact .inl (by rw [hc]; rfl)
  · exact .inr ⟨name, hname, by rw [hc]; rfl⟩

theorem readKnown_eq_ok_iff {text : String} {e : Expr} :
    readKnown known text = .ok e ↔ read text = .ok e ∧ e.AllKnown known := by
  cases hread : read text with
  | error error =>
    have herror : readKnown known text = .error error ∨ ∃ name, known name = false ∧
        readKnown known text = .error (.unknownFilter name none) := readKnown_of_read_error hread
    rcases herror with h | ⟨name, -, h⟩ <;> simp [h]
  | ok e' =>
    rw [readKnown_of_read hread, Expr.allKnown_iff]
    cases hfirst : firstUnknown? known e'.filterNames with
    | none =>
      constructor
      · rintro ⟨⟩
        exact ⟨rfl, hfirst⟩
      · rintro ⟨⟨⟩, -⟩
        rfl
    | some name =>
      constructor
      · exact fun h => absurd h (by simp)
      · rintro ⟨⟨⟩, hnone⟩
        exact absurd (hnone.symm.trans hfirst) (by simp)

/-- No filter of a tree that is read is called like the fall-back. -/
theorem default_not_mem_filterNames {text : String} {e : Expr} (h : read text = .ok e) :
    "default" ∉ e.filterNames := by
  intro hmem
  have hother : e.AllKnown fun name => name ≠ "default" :=
    (Grammar.readKnown_eq_ok.1 h).allKnown fun name hname _ => by simpa using hname
  exact absurd rfl (of_decide_eq_true (hother "default" hmem))

theorem contains_insertAll {registry : Filter.Registry} {name : String}
    (h : registry.contains name = true) (filters : List (String × Filter)) :
    (registry.insertAll filters).contains name = true :=
  Sorted.mem_keys.1 (Sorted.mem_keys_insertAll.2 (.inr (Sorted.mem_keys.2 h)))

/-- Reading with a registry is reading without one and then looking the names up: the first name of
the tree that the registry does not have is told. Of a text with a fault either that is told or a
name that the registry does not have. What a registry accepts, a larger one accepts. -/
theorem readWith_is_read_then_check (registry : Filter.Registry) (text : String) :
    (∀ e, read text = .ok e → "default" ∉ e.filterNames ∧
      readWith registry text = match e.filterNames.find? fun name => !registry.contains name with
        | none => .ok e
        | some name => .error (.unknownFilter name none)) ∧
    (∀ error, read text = .error error → readWith registry text = .error error ∨
      ∃ name, registry.contains name = false ∧
        readWith registry text = .error (.unknownFilter name none)) ∧
    ∀ (filters : List (String × Filter)) (e : Expr), readWith registry text = .ok e →
      readWith (registry.insertAll filters) text = .ok e := by
  refine ⟨fun e h => ⟨default_not_mem_filterNames h, readKnown_of_read h⟩,
    fun error h => readKnown_of_read_error h, fun filters e h => ?_⟩
  obtain ⟨hread, hknown⟩ := readKnown_eq_ok_iff.1 h
  exact readKnown_eq_ok_iff.2
    ⟨hread, fun name hname => contains_insertAll (hknown name hname) filters⟩

/-- A template with two filters that are not built in, the first of them in a fall-back. -/
def mixed : String := "{{ a | trim ?? b | shout }}-{{ c | hush }}"

/-- A template that breaks off behind such a filter. -/
def brokenOff : String := "{{ a | shout }}\x7b\x7b b"

theorem readWith_is_read_then_check_mixed :
    (∃ e, read mixed = .ok e ∧ e.filterNames = ["trim", "shout", "hush"] ∧
      "default" ∉ e.filterNames ∧
      readWith .builtin mixed = .error (.unknownFilter "shout" none)) ∧
    (∃ error, read brokenOff = .error error ∧
      (readWith .builtin brokenOff = .error error ∨ ∃ name,
        Filter.Registry.contains .builtin name = false ∧
          readWith .builtin brokenOff = .error (.unknownFilter name none))) ∧
    ∃ e, readWith .builtin "{{ a | trim }}" = .ok e ∧
      readWith (Filter.Registry.insertAll .builtin [("shout", fun value _ => .ok value)])
        "{{ a | trim }}" = .ok e := by
  have hnames : (read mixed).map Expr.filterNames = .ok ["trim", "shout", "hush"] := by
    decide +kernel
  have hfirst : (["trim", "shout", "hush"].find? fun name =>
      !Filter.Registry.contains .builtin name) = some "shout" := by
    decide +kernel
  have hfault : (Outcome.fault? (read brokenOff)).isSome = true := by decide +kernel
  have htrim : (readWith .builtin "{{ a | trim }}").isOk = true := by decide +kernel
  obtain ⟨e, hread, he⟩ := Outcome.map_eq_ok.1 hnames
  obtain ⟨error, herror⟩ := Option.isSome_iff_exists.1 hfault
  obtain ⟨e', htrim⟩ := Outcome.exists_eq_ok_of_isOk htrim
  obtain ⟨hdefault, hchecked⟩ := (readWith_is_read_then_check .builtin mixed).1 e hread
  rw [he, hfirst] at hchecked
  exact ⟨⟨e, hread, he, hdefault, hchecked⟩,
    ⟨error, Outcome.fault?_eq_some.1 herror, (readWith_is_read_then_check _ _).2.1 error
      (Outcome.fault?_eq_some.1 herror)⟩,
    e', htrim, (readWith_is_read_then_check _ _).2.2 _ e' htrim⟩

end Reshape.Template
