import Reshape.Proofs.Outcome
import Reshape.Proofs.Template.Complete
import Reshape.Template.Checked

namespace Reshape.Template.Grammar

theorem Blank.append {b b' : List Char} (hb : Blank b) (hb' : Blank b') : Blank (b ++ b') := by
  intro c hc
  rcases List.mem_append.1 hc with hc | hc
  · exact hb c hc
  · exact hb' c hc

theorem blank_nil : Blank [] := by
  simp [Blank]

theorem blank_space : Blank [' '] := by
  simp [Blank, Text.isBlank]

theorem exists_blank (s : List Char) : ∃ b, Blank b ∧ s = b ++ skipBlanks s :=
  ⟨s.takeWhile Text.isBlank, fun _ hc => List.mem_takeWhile_imp hc,
    List.takeWhile_append_dropWhile.symm⟩

theorem word_sound {c : Char} {s : List Char} (hq : isQuote c = false)
    (hc : isWordChar c = true) :
    Word (word (c :: s)).1 ∧ c :: s = (word (c :: s)).1 ++ (word (c :: s)).2 := by
  refine ⟨?_, List.takeWhile_append_dropWhile.symm⟩
  have hall : ∀ x ∈ c :: s.takeWhile isWordChar, isWordChar x = true := by
    intro x hx
    rcases List.mem_cons.1 hx with rfl | hx
    · exact hc
    · exact List.mem_takeWhile_imp hx
  have hword : (word (c :: s)).1 = c :: s.takeWhile isWordChar := List.takeWhile_cons_of_pos hc
  exact hword ▸ .run hq hall

theorem name?_sound {s name rest : List Char} (h : name? s = some (name, rest)) :
    Name name ∧ s = name ++ rest := by
  unfold name? at h
  split at h
  · exact absurd h (by simp)
  · split at h
    · next hstart =>
      obtain ⟨rfl, rfl⟩ := Prod.mk.inj (Option.some.inj h)
      refine ⟨.run hstart fun x hx => List.mem_takeWhile_imp hx, ?_⟩
      rw [List.cons_append, List.takeWhile_append_dropWhile]
    · exact absurd h (by simp)

theorem quoted?_sound {quote : Char} {s value rest : List Char}
    (h : quoted? quote s = some (value, rest)) :
    ∃ used, s = used ++ rest ∧ Quoted quote used value := by
  fun_induction quoted? quote s generalizing value rest with
  | case1 => exact absurd h (by simp)
  | case2 c r ih =>
    obtain ⟨found, hf, he⟩ := Option.map_eq_some_iff.1 h
    obtain ⟨rfl, rfl⟩ := Prod.mk.inj he
    obtain ⟨used, rfl, hused⟩ := ih hf
    exact ⟨'\\' :: c :: used, rfl, .escaped c hused⟩
  | case3 r _ =>
    obtain ⟨rfl, rfl⟩ := Prod.mk.inj (Option.some.inj h)
    exact ⟨[quote], rfl, .close⟩
  | case4 c r hescape hne ih =>
    obtain ⟨found, hf, he⟩ := Option.map_eq_some_iff.1 h
    obtain ⟨rfl, rfl⟩ := Prod.mk.inj he
    obtain ⟨used, rfl, hused⟩ := ih hf
    -- a backslash would have escaped what is behind it, at least the closing quote
    have hslash : c ≠ '\\' := by
      intro hc
      cases hall : used ++ found.2 with
      | nil => rw [hall] at hf; exact absurd hf (by simp [quoted?])
      | cons d tail => exact hescape d tail hc hall
    exact ⟨c :: used, rfl, .plain hne hslash hused⟩

theorem quotedText_sound {quote : Char} {s value rest : List Char}
    (h : quotedText (quote :: s) = .ok (value, rest)) :
    ∃ used, s = used ++ rest ∧ Quoted quote used value := by
  simp only [quotedText] at h
  split at h
  · next hfound =>
    cases h
    exact quoted?_sound hfound
  · exact absurd h (by simp)

theorem argument_sound {colon s rest : List Char} {value : Json}
    (h : argument colon s = .ok (value, rest)) :
    ∃ used, s = used ++ rest ∧ Argument used value := by
  unfold argument at h
  split at h
  · exact absurd h (by simp)
  · next c tail =>
    by_cases hq : isQuote c = true
    · rw [if_pos hq] at h
      obtain ⟨found, hf, he⟩ := Outcome.map_eq_ok.1 h
      obtain ⟨rfl, rfl⟩ := Prod.mk.inj he
      obtain ⟨used, rfl, hused⟩ := quotedText_sound hf
      exact ⟨c :: used, rfl, .quoted hq hused⟩
    · rw [if_neg hq] at h
      split at h
      · next hc =>
        obtain ⟨hw, hsplit⟩ := word_sound (s := tail) (Bool.eq_false_iff.2 hq) hc
        obtain ⟨rfl, rfl⟩ := Prod.mk.inj (Except.ok.inj h)
        refine ⟨_, hsplit, ?_⟩
        cases hv : literal? (word (c :: tail)).1 with
        | some value => exact .literal hw hv
        | none => exact .word hw hv
      · exact absurd h (by simp)

theorem arguments_sound {s rest : List Char} {values : List Json}
    (h : arguments s = .ok (values, rest)) :
    ∃ used b, s = used ++ (b ++ rest) ∧ Blank b ∧ Arguments used values := by
  fun_induction arguments s generalizing values rest with
  | case1 => exact absurd h (by simp)
  | case2 s afterColon hs value rest' ha ih =>
    obtain ⟨found, hf, he⟩ := Outcome.map_eq_ok.1 h
    obtain ⟨rfl, rfl⟩ := Prod.mk.inj he
    obtain ⟨b₁, hb₁, hsplit₁⟩ := exists_blank s
    obtain ⟨b₂, hb₂, hsplit₂⟩ := exists_blank afterColon
    obtain ⟨used, hused, harg⟩ := argument_sound ha
    obtain ⟨more, b, rfl, hb, hmore⟩ := ih hf
    refine ⟨b₁ ++ ':' :: (b₂ ++ (used ++ more)), b, ?_, hb, .cons hb₁ hb₂ harg hmore⟩
    rw [hsplit₁, hs, hsplit₂, hused]
    simp
  | case3 s =>
    obtain ⟨rfl, rfl⟩ := Prod.mk.inj (Except.ok.inj h)
    obtain ⟨b, hb, hsplit⟩ := exists_blank s
    exact ⟨[], b, hsplit, hb, .nil⟩

theorem not_blank_of_skipBlanks {s tail : List Char} {c : Char}
    (h : skipBlanks s = c :: tail) : Text.isBlank c = false := by
  have hhead := List.head?_dropWhile_not Text.isBlank s
  rw [show s.dropWhile Text.isBlank = c :: tail from h] at hhead
  simpa using hhead

theorem head_sound {block s rest : List Char} {inFallback : Bool} {e : Expr}
    (h : head block inFallback (skipBlanks s) = .ok (e, rest)) :
    ∃ used, skipBlanks s = used ++ rest ∧ Primary inFallback used e := by
  cases hs : skipBlanks s with
  | nil => rw [hs] at h; exact absurd h (by simp [head])
  | cons c tail =>
    rw [hs] at h
    have hblank := not_blank_of_skipBlanks hs
    -- a quoted string, a structural character, or a word
    by_cases hq : isQuote c = true
    · simp only [head, hq, if_true] at h
      obtain ⟨found, hf, he⟩ := Outcome.map_eq_ok.1 h
      obtain ⟨rfl, rfl⟩ := Prod.mk.inj he
      obtain ⟨used, rfl, hused⟩ := quotedText_sound hf
      exact ⟨c :: used, rfl, .quoted hq hused⟩
    · have hq' : isQuote c = false := Bool.eq_false_iff.2 hq
      by_cases hstop : isStop c = true
      · simp [head, hq', hstop] at h
      · have hstop' : isStop c = false := Bool.eq_false_iff.2 hstop
        obtain ⟨hw, hsplit⟩ :=
          word_sound (s := tail) hq' (by simp [isWordChar, hblank, hstop'])
        simp only [head, hq', hstop'] at h
        simp only [Bool.false_eq_true, if_false] at h
        split at h
        · next value hv =>
          obtain ⟨rfl, rfl⟩ := Prod.mk.inj (Except.ok.inj h)
          have hf : inFallback = true := by
            by_cases hi : inFallback = true
            · exact hi
            · rw [if_neg hi] at hv
              exact absurd hv (by simp)
          rw [if_pos hf] at hv
          exact ⟨_, hsplit, .literal hf hw hv⟩
        · next hv =>
          split at h
          · next path hp =>
            obtain ⟨rfl, rfl⟩ := Prod.mk.inj (Except.ok.inj h)
            refine ⟨_, hsplit, .path (fun hf => ?_) hw (Path.parse_eq_ok.1 hp)⟩
            rwa [if_pos hf] at hv
          · exact absurd h (by simp)

variable {known : String → Bool}

theorem filterStep_sound {bar s rest : List Char} {inner e : Expr}
    (h : filterStep known bar inner s = .ok (e, rest)) {inFallback : Bool} {pre b b' : List Char}
    (hpre : Filtered known inFallback pre inner) (hb : Blank b) (hb' : Blank b') :
    ∃ used behind, s = used ++ (behind ++ rest) ∧ Blank behind ∧
      Filtered known inFallback (pre ++ (b ++ '|' :: (b' ++ used))) e := by
  unfold filterStep at h
  split at h
  · exact absurd h (by simp)
  · next name afterName hn =>
    obtain ⟨hname, rfl⟩ := name?_sound hn
    split at h
    · exact absurd h (by simp)
    · next values rest' ha =>
      obtain ⟨args, behind, rfl, hbehind, hargs⟩ := arguments_sound ha
      simp only at h
      split at h
      · next hdefault =>
        split at h
        · obtain ⟨rfl, rfl⟩ := Prod.mk.inj (Except.ok.inj h)
          have hchars : name = "default".toList := by rw [← hdefault, String.toList_ofList]
          subst hchars
          exact ⟨_, behind, by simp, hbehind, .fallback hpre hb hb' hargs⟩
        · exact absurd h (by simp)
      · next hdefault =>
        split at h
        · next hknown =>
          obtain ⟨rfl, rfl⟩ := Prod.mk.inj (Except.ok.inj h)
          exact ⟨_, behind, by simp, hbehind, .filter hpre hb hb' hname hdefault hknown hargs⟩
        · exact absurd h (by simp)

/-- `pre` is the text that was derived before the filters, `b` blanks between it and them. -/
theorem filters_sound {s rest : List Char} {inner e : Expr}
    (h : filters known inner s = .ok (e, rest)) {inFallback : Bool} {pre b : List Char}
    (hpre : Filtered known inFallback pre inner) (hb : Blank b) :
    ∃ used behind, b ++ s = used ++ (behind ++ rest) ∧ Blank behind ∧
      Filtered known inFallback (pre ++ used) e := by
  fun_induction filters known inner s generalizing pre b with
  | case1 => exact absurd h (by simp)
  | case2 inner s afterBar hs e' rest' hf ih =>
    obtain ⟨b₁, hb₁, hsplit₁⟩ := exists_blank s
    obtain ⟨b₂, hb₂, hsplit₂⟩ := exists_blank afterBar
    obtain ⟨used, behind, hused, hbehind, hstep⟩ :=
      filterStep_sound hf hpre (hb.append hb₁) hb₂
    obtain ⟨more, b', hmore, hb', hall⟩ := ih h hstep hbehind
    refine ⟨(b ++ b₁) ++ '|' :: (b₂ ++ used) ++ more, b', ?_, hb', by simpa using hall⟩
    rw [hsplit₁, hs, hsplit₂, hused, hmore]
    simp
  | case3 inner s =>
    obtain ⟨rfl, rfl⟩ := Prod.mk.inj (Except.ok.inj h)
    obtain ⟨b', hb', hsplit⟩ := exists_blank s
    refine ⟨[], b ++ b', ?_, hb.append hb', by simpa using hpre⟩
    rw [List.nil_append, List.append_assoc, ← hsplit]

theorem chain_sound {block s rest : List Char} {inFallback : Bool} {e : Expr}
    (h : chain known block inFallback s = .ok (e, rest)) :
    ∃ b used b', s = b ++ (used ++ (b' ++ rest)) ∧ Blank b ∧ Blank b' ∧
      Chain known inFallback used e := by
  fun_induction chain known block inFallback s generalizing e rest with
  | case1 => exact absurd h (by simp)
  | case2 => exact absurd h (by simp)
  | case3 => exact absurd h (by simp)
  | case4 inFallback s first afterHead hh e' afterMark hf _ ih =>
    -- a head with its filters, and a fall-back chain behind `??`
    obtain ⟨found, hc, he⟩ := Outcome.map_eq_ok.1 h
    obtain ⟨rfl, rfl⟩ := Prod.mk.inj he
    obtain ⟨b, hb, hsplit⟩ := exists_blank s
    obtain ⟨used, hused, hprimary⟩ := head_sound hh
    obtain ⟨more, b₁, hmore, hb₁, hfiltered⟩ := filters_sound hf (.primary hprimary) blank_nil
    obtain ⟨b₂, other, b', hother, hb₂, hb', hchain⟩ := ih hc
    refine ⟨b, _, b', ?_, hb, hb', .fallback hfiltered hb₁ hb₂ hchain⟩
    rw [hsplit, hused, show afterHead = _ from hmore, hother]
    simp
  | case5 inFallback s first afterHead hh e' rest' _ hf =>
    obtain ⟨rfl, rfl⟩ := Prod.mk.inj (Except.ok.inj h)
    obtain ⟨b, hb, hsplit⟩ := exists_blank s
    obtain ⟨used, hused, hprimary⟩ := head_sound hh
    obtain ⟨more, b', hmore, hb', hfiltered⟩ := filters_sound hf (.primary hprimary) blank_nil
    refine ⟨b, _, b', ?_, hb, hb', .last hfiltered⟩
    rw [hsplit, hused, show afterHead = _ from hmore]
    simp

theorem blockBody_sound {block s rest : List Char} {e : Expr}
    (h : blockBody known block s = .ok (e, rest)) :
    ∃ inside, s = inside ++ rest ∧ Block known inside e := by
  unfold blockBody at h
  split at h
  · exact absurd h (by simp)
  · exact absurd h (by simp)
  · split at h
    · exact absurd h (by simp)
    · next e' rest' hc =>
      obtain ⟨b, hb, hsplit⟩ := exists_blank s
      obtain ⟨b₁, used, b₂, hused, hb₁, hb₂, hchain⟩ := chain_sound hc
      obtain ⟨b₃, hb₃, hend⟩ := exists_blank rest'
      split at h
      · next hclose =>
        obtain ⟨rfl, rfl⟩ := Prod.mk.inj (Except.ok.inj h)
        refine ⟨_, ?_, .chain (hb.append hb₁) hchain (hb₂.append hb₃)⟩
        rw [hsplit, hused, hend, hclose]
        simp
      · exact absurd h (by simp)
      · exact absurd h (by simp)

theorem free_cons {c : Char} {s : List Char} (hs : Free s)
    (h : ¬(c = '{' ∧ s.head? = some '{')) : Free (c :: s) := by
  intro hin
  rcases List.infix_cons_iff.1 hin with hpre | hin
  · obtain ⟨tail, htail⟩ := hpre
    obtain ⟨rfl, rfl⟩ := List.cons.inj htail
    exact h ⟨rfl, rfl⟩
  · exact hs hin

/-- Free text ends with the text or at an opening that no other is before. -/
theorem freeText_sound (s : List Char) : s = (freeText s).1 ++ (freeText s).2 ∧
    (((freeText s).2 = [] ∧ Free (freeText s).1) ∨
      ∃ inside, (freeText s).2 = '{' :: '{' :: inside ∧ Free ((freeText s).1 ++ ['{'])) := by
  induction s with
  | nil => simp [freeText, Free]
  | cons c s ih =>
    obtain ⟨hsplit, hcases⟩ := ih
    unfold freeText
    by_cases hopen : c = '{' ∧ s.head? = some '{'
    · rw [if_pos hopen]
      obtain ⟨rfl, hs⟩ := hopen
      obtain ⟨inside, rfl⟩ := List.head?_eq_some_iff.1 hs
      exact ⟨rfl, .inr ⟨inside, rfl, by simp [Free, List.infix_cons_iff]⟩⟩
    · rw [if_neg hopen]
      refine ⟨congrArg (c :: ·) hsplit, ?_⟩
      rcases hcases with ⟨hnil, hfree⟩ | ⟨inside, hinside, hfree⟩
      · refine .inl ⟨hnil, free_cons hfree ?_⟩
        rw [hnil, List.append_nil] at hsplit
        rwa [← hsplit]
      · refine .inr ⟨inside, hinside, ?_⟩
        rw [List.cons_append]
        refine free_cons hfree ?_
        -- the free text with its brace starts as the whole text does
        have hhead : ((freeText s).1 ++ ['{']).head? = s.head? := by
          conv => rhs; rw [hsplit, hinside]
          rw [List.head?_append, List.head?_append]
          rfl
        rwa [hhead]

theorem parts_sound {s : List Char} {found : List Expr} (h : parts known s = .ok found) :
    Parts known s found := by
  fun_induction parts known s generalizing found with
  | case1 => exact absurd h (by simp)
  | case2 s open1 open2 inside hs e rest hb ih =>
    obtain ⟨others, ho, rfl⟩ := Outcome.map_eq_ok.1 h
    obtain ⟨hsplit, ⟨hnil, -⟩ | ⟨inside', hinside, hfree⟩⟩ := freeText_sound s
    · exact absurd (hs.symm.trans hnil) (by simp)
    · obtain ⟨rfl, htail⟩ := List.cons.inj (hs.symm.trans hinside)
      obtain ⟨rfl, rfl⟩ := List.cons.inj htail
      obtain ⟨used, rfl, hblock⟩ := blockBody_sound hb
      have hparts := Parts.block hfree hblock (ih ho)
      rwa [← hs, ← hsplit] at hparts
  | case3 s hn =>
    obtain rfl := Except.ok.inj h
    obtain ⟨hsplit, ⟨hnil, hfree⟩ | ⟨inside, hinside, -⟩⟩ := freeText_sound s
    · rw [hnil, List.append_nil] at hsplit
      conv => arg 2; rw [hsplit]
      exact .text hfree
    · exact absurd hinside (hn _ _ _)

theorem derives_of_parse {s : List Char} {e : Expr} (h : parse known s = .ok e) :
    Derives known s e := by
  obtain ⟨found, hfound, rfl⟩ := Outcome.map_eq_ok.1 h
  exact .parts (parts_sound hfound)

theorem readKnown_eq_ok {text : String} {e : Expr} :
    readKnown known text = .ok e ↔ Derives known text.toList e := by
  unfold readKnown
  rw [Outcome.mapError_eq_ok]
  exact ⟨derives_of_parse, parse_of_derives⟩

theorem derives_unique {s : List Char} {e e' : Expr} (h : Derives known s e)
    (h' : Derives known s e') : e = e' :=
  Except.ok.inj ((parse_of_derives h).symm.trans (parse_of_derives h'))

theorem Parts.read {s : List Char} {found : List Expr} (h : Parts anyName s found) :
    read (String.ofList s) = .ok (ofParts found) := by
  refine readKnown_eq_ok.2 ?_
  rw [String.toList_ofList]
  exact .parts h

theorem Filtered.chain {inFallback : Bool} {s other : List Char} {e e' : Expr}
    (h : Filtered known inFallback s e) (ho : Chain known true other e') :
    Chain known inFallback (s ++ ([' '] ++ '?' :: '?' :: ([' '] ++ other))) (.fallback e e') :=
  .fallback h blank_space blank_space ho

theorem Chain.block {s : List Char} {e : Expr} (h : Chain known false s e) :
    Block known ([' '] ++ (s ++ ([' '] ++ ['}', '}']))) e :=
  .chain blank_space h blank_space

theorem Block.derives {inside : List Char} {e : Expr} (h : Block known inside e) :
    Derives known ('{' :: '{' :: inside) e := by
  have hparts := Parts.block (s := []) free_brace h (.text free_nil)
  rw [List.append_nil] at hparts
  exact .parts hparts

/-- A text is read as a tree if and only if the grammar derives it with that tree, and no text is
derived with two. -/
theorem read_eq_ok_iff_derives : (∀ (text : String) (e : Expr),
      read text = .ok e ↔ Derives anyName text.toList e) ∧
    ∀ (s : List Char) (e e' : Expr), Derives anyName s e → Derives anyName s e' → e = e' :=
  ⟨fun _ _ => readKnown_eq_ok, fun _ _ _ => derives_unique⟩

/-- The block of one name, in which that name is the path and nothing else. -/
theorem read_eq_ok_iff_derives_name :
    read "{{ a }}" = .ok (.path ⟨[.key "a"]⟩) ∧
      ∀ e, Derives anyName "{{ a }}".toList e → e = .path ⟨[.key "a"]⟩ := by
  have hspells : Path.Spells ['a'] ⟨[.key "a"]⟩ := .single (by decide) (by decide)
  have hword : Word ['a'] := .of_all rfl rfl
  have hchain : Chain anyName false ['a'] (.path ⟨[.key "a"]⟩) :=
    .last (.primary (.path (by decide) hword hspells))
  have hderives : Derives anyName "{{ a }}".toList (.path ⟨[.key "a"]⟩) :=
    hchain.block.derives
  exact ⟨(read_eq_ok_iff_derives.1 _ _).2 hderives,
    fun e h => read_eq_ok_iff_derives.2 _ _ _ h hderives⟩

end Reshape.Template.Grammar
