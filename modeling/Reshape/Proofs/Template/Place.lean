import Reshape.Proofs.Template.Sound

namespace Reshape.Template

/-- What is to be found at the place of a fault and before it. -/
def Cause.StandsAt (before place : List Char) : Cause → Prop
  | .emptyBlock => ['{', '{'] <+: place
  | .unterminatedBlock => ['{', '{'] <+: place
  | .unterminatedString => ∃ quote ∈ place.head?, isQuote quote = true
  | .unexpected c => place.head? = some c
  | .expectedHead c => place.head? = some c
  | .missingFilterName => place.head? = some '|'
  | .missingArgument => place.head? = some ':'
  | .missingFallback => ['?', '?'] <+: place
  | .defaultArity => "default".toList <+: place
  -- the place divides a word, or is behind it
  | .path fault => ∃ front w w' rest, before = front ++ w ∧ place = w' ++ rest ∧
      Grammar.Word (w ++ w') ∧ (∀ c ∈ rest.head?, isWordChar c = false) ∧ fault.StandsAt w w'

/-- A fault that stands in a text where it says. -/
def Fault.PointsInto (text : List Char) (fault : Fault) : Prop :=
  ∃ before, text = before ++ fault.place ∧ fault.cause.StandsAt before fault.place

theorem Cause.StandsAt.append {cause : Cause} {before place : List Char}
    (h : cause.StandsAt before place) (front : List Char) :
    cause.StandsAt (front ++ before) place := by
  cases cause with
  | path fault =>
    obtain ⟨front', w, w', rest, rfl, rfl, hw, hrest, hfault⟩ := h
    exact ⟨front ++ front', w, w', rest, (List.append_assoc ..).symm, rfl, hw, hrest, hfault⟩
  | _ => exact h

theorem Fault.PointsInto.mono {s text : List Char} {fault : Fault} (h : fault.PointsInto s)
    (hs : s <:+ text) : fault.PointsInto text := by
  obtain ⟨before, hsplit, hstands⟩ := h
  obtain ⟨front, rfl⟩ := hs
  exact ⟨front ++ before, by rw [hsplit, List.append_assoc], hstands.append front⟩

/-- A fault that is told by what stands at its place alone. -/
theorem Fault.pointsInto_of_suffix {cause : Cause} {place text : List Char}
    (h : cause.StandsAt [] place) (hplace : place <:+ text) :
    Fault.PointsInto text ⟨cause, place⟩ :=
  Fault.PointsInto.mono ⟨[], rfl, h⟩ hplace

theorem skipBlanks_suffix (s : List Char) : skipBlanks s <:+ s :=
  List.dropWhile_suffix Text.isBlank

theorem suffix_of_skipBlanks {c : Char} {s rest : List Char} (h : skipBlanks s = c :: rest) :
    rest <:+ s :=
  (List.suffix_cons c rest).trans (h ▸ skipBlanks_suffix s)

theorem suffix_of_argument {colon s rest : List Char} {value : Json}
    (h : argument colon s = .ok (value, rest)) : rest <:+ s := by
  obtain ⟨used, rfl, -⟩ := Grammar.argument_sound h
  exact List.suffix_append used rest

theorem suffix_of_arguments {s rest : List Char} {values : List Json}
    (h : arguments s = .ok (values, rest)) : rest <:+ s := by
  obtain ⟨used, b, rfl, -⟩ := Grammar.arguments_sound h
  exact (List.suffix_append b rest).trans (List.suffix_append used _)

theorem suffix_of_filterStep {known : String → Bool} {bar s rest : List Char} {inner e : Expr}
    (h : filterStep known bar inner s = .ok (e, rest)) : rest <:+ s := by
  unfold filterStep at h
  split at h
  · exact absurd h (by simp)
  · next name afterName hn =>
    obtain ⟨-, rfl⟩ := Grammar.name?_sound hn
    refine .trans ?_ (List.suffix_append name afterName)
    split at h
    · exact absurd h (by simp)
    · next values rest' ha =>
      have hrest := suffix_of_arguments ha
      simp only at h
      split at h
      · split at h
        · cases h
          exact hrest
        · exact absurd h (by simp)
      · split at h
        · cases h
          exact hrest
        · exact absurd h (by simp)

theorem suffix_of_filters {known : String → Bool} {inner e : Expr} {s rest : List Char}
    (h : filters known inner s = .ok (e, rest)) : rest <:+ s := by
  fun_induction filters known inner s with
  | case1 => exact absurd h (by simp)
  | case2 inner s afterBar hs e' rest' hf ih =>
    exact (ih h).trans <| (suffix_of_filterStep hf).trans <|
      (skipBlanks_suffix afterBar).trans (suffix_of_skipBlanks hs)
  | case3 inner s =>
    cases h
    exact skipBlanks_suffix s

theorem suffix_of_head {block s rest : List Char} {inFallback : Bool} {e : Expr}
    (h : head block inFallback (skipBlanks s) = .ok (e, rest)) : rest <:+ s := by
  obtain ⟨used, hused, -⟩ := Grammar.head_sound h
  exact (hused ▸ List.suffix_append used rest).trans (skipBlanks_suffix s)

theorem suffix_of_chain {known : String → Bool} {block s rest : List Char} {inFallback : Bool}
    {e : Expr} (h : chain known block inFallback s = .ok (e, rest)) : rest <:+ s := by
  obtain ⟨b, used, b', rfl, -⟩ := Grammar.chain_sound h
  exact (List.suffix_append b' rest).trans <| (List.suffix_append used _).trans <|
    List.suffix_append b _

theorem suffix_of_blockBody {known : String → Bool} {block s rest : List Char} {e : Expr}
    (h : blockBody known block s = .ok (e, rest)) : rest <:+ s := by
  obtain ⟨inside, rfl, -⟩ := Grammar.blockBody_sound h
  exact List.suffix_append inside rest

theorem freeText_suffix (s : List Char) : (freeText s).2 <:+ s :=
  ⟨(freeText s).1, (Grammar.freeText_sound s).1.symm⟩

theorem pointsInto_of_quotedText {quote : Char} {s text : List Char} {fault : Fault}
    (h : quotedText (quote :: s) = .error fault) (hq : isQuote quote = true)
    (hs : quote :: s <:+ text) : fault.PointsInto text := by
  simp only [quotedText] at h
  split at h
  · exact absurd h (by simp)
  · cases h
    exact Fault.pointsInto_of_suffix ⟨quote, rfl, hq⟩ hs

theorem pointsInto_of_argument {colon s text : List Char} {fault : Fault}
    (h : argument colon s = .error fault) (hcolon : colon.head? = some ':')
    (hc : colon <:+ text) (hs : s <:+ text) : fault.PointsInto text := by
  have hmissing : Fault.PointsInto text ⟨.missingArgument, colon⟩ :=
    Fault.pointsInto_of_suffix hcolon hc
  unfold argument at h
  split at h
  · cases h
    exact hmissing
  · split at h
    · next hq => exact pointsInto_of_quotedText (Outcome.map_eq_error.1 h) hq hs
    · split at h
      · exact absurd h (by simp)
      · cases h
        exact hmissing

theorem pointsInto_of_arguments {s text : List Char} {fault : Fault}
    (h : arguments s = .error fault) (hs : s <:+ text) : fault.PointsInto text := by
  fun_induction arguments s with
  | case1 s afterColon hskip fault' ha =>
    cases h
    have hcolon := hskip ▸ skipBlanks_suffix s
    exact pointsInto_of_argument ha rfl (hcolon.trans hs)
      ((skipBlanks_suffix afterColon).trans ((suffix_of_skipBlanks hskip).trans hs))
  | case2 s afterColon hskip value rest ha ih =>
    exact ih (Outcome.map_eq_error.1 h) <| (suffix_of_argument ha).trans <|
      (skipBlanks_suffix afterColon).trans <| (suffix_of_skipBlanks hskip).trans hs
  | case3 => exact absurd h (by simp)

/-- A path that breaks does so in its word or at the end of it. -/
theorem pointsInto_of_path {c : Char} {s place text : List Char} {fault : Path.Fault}
    (h : Path.parse (word (c :: s)).1 = .error (fault, place)) (hq : isQuote c = false)
    (hc : isWordChar c = true) (hs : c :: s <:+ text) :
    Fault.PointsInto text ⟨.path fault, place ++ (word (c :: s)).2⟩ := by
  obtain ⟨before, hsplit, hstands⟩ := Path.standsAt_of_parse h
  obtain ⟨hw, hword⟩ := Grammar.word_sound (s := s) hq hc
  have hrest : ∀ x ∈ (word (c :: s)).2.head?, isWordChar x = false := by
    intro x hx
    have hhead := List.head?_dropWhile_not isWordChar (c :: s)
    rw [show ((c :: s).dropWhile isWordChar).head? = some x from hx] at hhead
    simpa using hhead
  have htext : c :: s = before ++ (place ++ (word (c :: s)).2) := by
    rw [← List.append_assoc, ← hsplit]
    exact hword
  exact Fault.PointsInto.mono
    ⟨before, htext, [], before, place, _, rfl, rfl, hsplit ▸ hw, hrest, hstands⟩ hs

theorem pointsInto_of_head {block s text : List Char} {inFallback : Bool} {fault : Fault}
    (h : head block inFallback (skipBlanks s) = .error fault) (hopen : ['{', '{'] <+: block)
    (hb : block <:+ text) (hs : s <:+ text) : fault.PointsInto text := by
  have hrest := (skipBlanks_suffix s).trans hs
  cases hskip : skipBlanks s with
  | nil =>
    rw [hskip] at h
    cases h
    exact Fault.pointsInto_of_suffix hopen hb
  | cons c tail =>
    rw [hskip] at h hrest
    -- a quoted string, a structural character, or a word
    by_cases hq : isQuote c = true
    · simp only [head, hq, if_true] at h
      exact pointsInto_of_quotedText (Outcome.map_eq_error.1 h) hq hrest
    · have hq' : isQuote c = false := Bool.eq_false_iff.2 hq
      by_cases hstop : isStop c = true
      · simp only [head, hq', hstop, Bool.false_eq_true, if_false, if_true] at h
        cases h
        exact Fault.pointsInto_of_suffix rfl hrest
      · have hstop' : isStop c = false := Bool.eq_false_iff.2 hstop
        have hc : isWordChar c = true := by
          simp [isWordChar, Grammar.not_blank_of_skipBlanks hskip, hstop']
        simp only [head, hq', hstop', Bool.false_eq_true, if_false] at h
        split at h
        · exact absurd h (by simp)
        · split at h
          · exact absurd h (by simp)
          · next hpath =>
            cases h
            exact pointsInto_of_path hpath hq' hc hrest

variable {known : String → Bool}

theorem pointsInto_of_filterStep {bar s text : List Char} {inner : Expr} {fault : Fault}
    (h : filterStep known bar inner s = .error (.fault fault)) (hbar : bar.head? = some '|')
    (hb : bar <:+ text) (hs : s <:+ text) : fault.PointsInto text := by
  unfold filterStep at h
  split at h
  · cases h
    exact Fault.pointsInto_of_suffix hbar hb
  · next name afterName hn =>
    obtain ⟨-, rfl⟩ := Grammar.name?_sound hn
    split at h
    · next ha =>
      cases h
      exact pointsInto_of_arguments ha ((List.suffix_append name afterName).trans hs)
    · simp only at h
      split at h
      · next hdefault =>
        have hname : name = "default".toList := by rw [← hdefault, String.toList_ofList]
        split at h
        · exact absurd h (by simp)
        · cases h
          exact Fault.pointsInto_of_suffix (hname ▸ List.prefix_append name afterName) hs
      · split at h <;> exact absurd h (by simp)

theorem pointsInto_of_filters {s text : List Char} {inner : Expr} {fault : Fault}
    (h : filters known inner s = .error (.fault fault)) (hs : s <:+ text) :
    fault.PointsInto text := by
  fun_induction filters known inner s with
  | case1 inner s afterBar hskip rejection hf =>
    cases h
    have hbar := hskip ▸ skipBlanks_suffix s
    exact pointsInto_of_filterStep hf rfl (hbar.trans hs)
      ((skipBlanks_suffix afterBar).trans ((suffix_of_skipBlanks hskip).trans hs))
  | case2 inner s afterBar hskip e rest hf ih =>
    exact ih h <| (suffix_of_filterStep hf).trans <| (skipBlanks_suffix afterBar).trans <|
      (suffix_of_skipBlanks hskip).trans hs
  | case3 => exact absurd h (by simp)

theorem pointsInto_of_chain {block s text : List Char} {inFallback : Bool} {fault : Fault}
    (h : chain known block inFallback s = .error (.fault fault)) (hopen : ['{', '{'] <+: block)
    (hb : block <:+ text) (hs : s <:+ text) : fault.PointsInto text := by
  fun_induction chain known block inFallback s with
  | case1 inFallback s fault' hh =>
    cases h
    exact pointsInto_of_head hh hopen hb hs
  | case2 inFallback s first afterHead hh rejection hf =>
    cases h
    exact pointsInto_of_filters hf ((suffix_of_head hh).trans hs)
  | case3 inFallback s first afterHead hh e afterMark hf =>
    cases h
    exact Fault.pointsInto_of_suffix (List.prefix_append ['?', '?'] afterMark)
      ((suffix_of_filters hf).trans ((suffix_of_head hh).trans hs))
  | case4 inFallback s first afterHead hh e afterMark hf _ ih =>
    have hmark : afterMark <:+ '?' :: '?' :: afterMark := List.suffix_append ['?', '?'] afterMark
    exact ih (Outcome.map_eq_error.1 h) <| hmark.trans <| (suffix_of_filters hf).trans <|
      (suffix_of_head hh).trans hs
  | case5 => exact absurd h (by simp)

theorem pointsInto_of_blockBody {block s text : List Char} {fault : Fault}
    (h : blockBody known block s = .error (.fault fault)) (hopen : ['{', '{'] <+: block)
    (hb : block <:+ text) (hs : s <:+ text) : fault.PointsInto text := by
  have hinside := (skipBlanks_suffix s).trans hs
  unfold blockBody at h
  split at h
  · cases h
    exact Fault.pointsInto_of_suffix hopen hb
  · cases h
    exact Fault.pointsInto_of_suffix hopen hb
  · split at h
    · next hc =>
      cases h
      exact pointsInto_of_chain hc hopen hb hinside
    · next rest hc =>
      have hrest := (skipBlanks_suffix rest).trans ((suffix_of_chain hc).trans hinside)
      split at h
      · exact absurd h (by simp)
      · cases h
        exact Fault.pointsInto_of_suffix hopen hb
      · next hskip =>
        cases h
        rw [hskip] at hrest
        exact Fault.pointsInto_of_suffix rfl hrest

theorem pointsInto_of_parts {s text : List Char} {fault : Fault}
    (h : parts known s = .error (.fault fault)) (hs : s <:+ text) : fault.PointsInto text := by
  fun_induction parts known s with
  | case1 s open1 open2 inside hfree rejection hb =>
    cases h
    have hblock := hfree ▸ freeText_suffix s
    obtain ⟨-, ⟨hnil, -⟩ | ⟨inside', hinside, -⟩⟩ := Grammar.freeText_sound s
    · exact absurd (hfree.symm.trans hnil) (by simp)
    · have hopen : ['{', '{'] <+: open1 :: open2 :: inside :=
        (hfree.symm.trans hinside) ▸ List.prefix_append ['{', '{'] inside'
      exact pointsInto_of_blockBody hb hopen (hblock.trans hs)
        ((List.suffix_append [open1, open2] inside).trans (hblock.trans hs))
  | case2 s open1 open2 inside hfree e rest hb ih =>
    have hblock := hfree ▸ freeText_suffix s
    exact ih (Outcome.map_eq_error.1 h) <| (suffix_of_blockBody hb).trans <|
      (List.suffix_append [open1, open2] inside).trans (hblock.trans hs)
  | case3 => exact absurd h (by simp)

/-- Every fault of a template stands in it, at what it names. -/
theorem pointsInto_of_parse {text : List Char} {fault : Fault}
    (h : parse known text = .error (.fault fault)) : fault.PointsInto text :=
  pointsInto_of_parts (Outcome.map_eq_error.1 h) (List.suffix_refl text)

end Reshape.Template
