import Mathlib.Data.List.DropRight
import Reshape.Proofs.Template.Grammar

namespace Reshape.Template.Grammar

theorem toNat_of_isNameChar {c : Char} (h : isNameChar c = true) :
    (48 ≤ c.toNat ∧ c.toNat ≤ 57) ∨ (65 ≤ c.toNat ∧ c.toNat ≤ 90) ∨
      (97 ≤ c.toNat ∧ c.toNat ≤ 122) ∨ c.toNat = 95 := by
  simp only [isNameChar, Text.isAsciiAlphanumeric, Text.isAsciiLetter, Text.isAsciiUpper,
    Text.isAsciiLower, Text.isAsciiDigit, Bool.or_eq_true, Bool.and_eq_true,
    decide_eq_true_eq, Text.le_iff_toNat] at h
  rcases h with ((h | h) | h) | rfl
  · exact .inr (.inl h)
  · exact .inr (.inr (.inl h))
  · exact .inl h
  · exact .inr (.inr (.inr rfl))

theorem isWordChar_of_isNameChar {c : Char} (h : isNameChar c = true) : isWordChar c = true := by
  have hn := toNat_of_isNameChar h
  have hne : ∀ d : Char, d.toNat ≠ c.toNat → c ≠ d := fun d hd he => hd (he ▸ rfl)
  -- blanks and structural characters have codes outside the ranges of names
  have hblank : Text.isBlank c = false := by
    have hspace : c ≠ ' ' := hne ' ' (by rw [show ' '.toNat = 32 from rfl]; omega)
    refine Bool.eq_false_iff.2 fun hb => ?_
    simp only [Text.isBlank, hspace, decide_false, Bool.or_eq_true, Bool.and_eq_true,
      decide_eq_true_eq, Bool.false_eq_true, false_or] at hb
    omega
  have hstop : isStop c = false := by
    have hbar : c ≠ '|' := hne '|' (by rw [show '|'.toNat = 124 from rfl]; omega)
    have hclose : c ≠ '}' := hne '}' (by rw [show '}'.toNat = 125 from rfl]; omega)
    have hmark : c ≠ '?' := hne '?' (by rw [show '?'.toNat = 63 from rfl]; omega)
    have hcolon : c ≠ ':' := hne ':' (by rw [show ':'.toNat = 58 from rfl]; omega)
    simp [isStop, hbar, hclose, hmark, hcolon]
  simp [isWordChar, hblank, hstop]

theorem isNameChar_of_isNameStart {c : Char} (h : isNameStart c = true) :
    isNameChar c = true := by
  simp only [isNameStart, isNameChar, Text.isAsciiAlphanumeric, Bool.or_eq_true] at h ⊢
  exact h.imp_left .inl

theorem isBlank_of_isWordChar {c : Char} (h : isWordChar c = true) : Text.isBlank c = false := by
  simp only [isWordChar, Bool.and_eq_true, Bool.not_eq_true'] at h
  exact h.1

theorem isStop_of_isWordChar {c : Char} (h : isWordChar c = true) : isStop c = false := by
  simp only [isWordChar, Bool.and_eq_true, Bool.not_eq_true'] at h
  exact h.2

theorem isBlank_of_isQuote {c : Char} (h : isQuote c = true) : Text.isBlank c = false := by
  simp only [isQuote, Bool.or_eq_true, decide_eq_true_eq] at h
  rcases h with rfl | rfl <;> decide

theorem skipBlanks_append {b : List Char} (hb : Blank b) (s : List Char) :
    skipBlanks (b ++ s) = skipBlanks s :=
  List.dropWhile_append_of_pos hb

theorem skipBlanks_cons {c : Char} (hc : Text.isBlank c = false) (s : List Char) :
    skipBlanks (c :: s) = c :: s := by
  simp [skipBlanks, hc]

theorem skipBlanks_skipBlanks (s : List Char) : skipBlanks (skipBlanks s) = skipBlanks s :=
  List.dropWhile_idempotent _ _

/-- The first character that is not blank, if there is one, satisfies `p`. -/
def Ahead (p : Char → Bool) (s : List Char) : Prop :=
  ∀ c ∈ (skipBlanks s).head?, p c = true

theorem Ahead.append {p : Char → Bool} {b : List Char} (hb : Blank b) {s : List Char}
    (h : Ahead p s) : Ahead p (b ++ s) := by
  rwa [Ahead, skipBlanks_append hb]

theorem Ahead.cons {p : Char → Bool} {c : Char} (hblank : Text.isBlank c = false)
    (hc : p c = true) (s : List Char) : Ahead p (c :: s) := by
  intro d hd
  rw [skipBlanks_cons hblank] at hd
  rwa [← Option.some.inj hd]

theorem Ahead.mono {p q : Char → Bool} (hpq : ∀ c, p c = true → q c = true) {s : List Char}
    (h : Ahead p s) : Ahead q s :=
  fun c hc => hpq c (h c hc)

theorem Ahead.ends {s : List Char} (h : Ahead isStop s) :
    ∀ c ∈ s.head?, isWordChar c = false := by
  intro c hc
  obtain ⟨rest, rfl⟩ := List.head?_eq_some_iff.1 hc
  by_cases hblank : Text.isBlank c = true
  · simp [isWordChar, hblank]
  · have hskip := skipBlanks_cons (Bool.eq_false_iff.2 hblank) rest
    have hstop : isStop c = true := h c (by rw [hskip]; rfl)
    simp [isWordChar, hstop]

theorem Word.of_all {c : Char} {s : List Char} (hstart : isQuote c = false)
    (hall : (c :: s).all isWordChar = true) : Word (c :: s) :=
  .run hstart (List.all_eq_true.1 hall)

theorem Word.of_path {w : List Char} {p : Path} (hp : Path.parse w = .ok p)
    (hchars : ∀ c ∈ w, isWordChar c = true) (hquote : ∀ c ∈ w.head?, isQuote c = false) :
    Word w := by
  cases w with
  | nil => exact absurd hp (by simp [Path.parse])
  | cons c tail => exact .run (hquote c rfl) hchars

theorem Name.of_all {c : Char} {s : List Char} (hstart : isNameStart c = true)
    (hall : s.all isNameChar = true) : Name (c :: s) :=
  .run hstart (List.all_eq_true.1 hall)

theorem word_append {w s : List Char} (hw : Word w) (hs : Ahead isStop s) :
    word (w ++ s) = (w, s) := by
  obtain ⟨hstart, hall⟩ := hw
  obtain ⟨htake, hdrop⟩ := Text.span_append hall hs.ends
  unfold word
  rw [htake, hdrop]

theorem name?_append {name s : List Char} (hname : Name name)
    (hs : ∀ c ∈ s.head?, isWordChar c = false) : name? (name ++ s) = some (name, s) := by
  obtain ⟨hstart, hall⟩ := hname
  have hends : ∀ c ∈ s.head?, isNameChar c = false := by
    intro c hc
    refine Bool.eq_false_iff.2 fun hn => ?_
    exact absurd (isWordChar_of_isNameChar hn) (by simp [hs c hc])
  obtain ⟨htake, hdrop⟩ := Text.span_append hall hends
  rw [List.cons_append, name?, if_pos hstart, htake, hdrop]

theorem quoted?_cons {c : Char} (hslash : c ≠ '\\') (quote : Char) (s : List Char) :
    quoted? quote (c :: s) =
      if c = quote then some ([], s)
      else (quoted? quote s).map fun found => (c :: found.1, found.2) := by
  rw [quoted?]
  intro _ _ he _
  exact hslash he

theorem quoted?_append {quote : Char} (hq : quote ≠ '\\') {s value : List Char}
    (h : Quoted quote s value) (rest : List Char) :
    quoted? quote (s ++ rest) = some (value, rest) := by
  induction h with
  | close => rw [List.cons_append, quoted?_cons hq, if_pos rfl, List.nil_append]
  | escaped c _ ih =>
    rw [List.cons_append, List.cons_append, quoted?, ih]
    rfl
  | plain hquote hslash _ ih =>
    rw [List.cons_append, quoted?_cons hslash, if_neg hquote, ih]
    rfl

theorem quotedText_append {quote : Char} (hq : isQuote quote = true) {s value : List Char}
    (h : Quoted quote s value) (rest : List Char) :
    quotedText (quote :: (s ++ rest)) = .ok (value, rest) := by
  have hslash : quote ≠ '\\' := by
    rintro rfl
    exact absurd hq (by decide)
  simp only [quotedText, quoted?_append hslash h]

theorem Argument.starts {s : List Char} {value : Json} (h : Argument s value) :
    ∃ c rest, s = c :: rest ∧ Text.isBlank c = false := by
  cases h with
  | quoted hq h => exact ⟨_, _, rfl, isBlank_of_isQuote hq⟩
  | literal hw hv =>
    obtain ⟨-, hall⟩ := hw
    exact ⟨_, _, rfl, isBlank_of_isWordChar (hall _ List.mem_cons_self)⟩
  | word hw hv =>
    obtain ⟨-, hall⟩ := hw
    exact ⟨_, _, rfl, isBlank_of_isWordChar (hall _ List.mem_cons_self)⟩

theorem argument_word {w : List Char} (hw : Word w) (colon : List Char) {rest : List Char}
    (hr : Ahead isStop rest) : argument colon (w ++ rest) =
      .ok ((literal? w).getD (.string (String.ofList w)), rest) := by
  have hword := word_append hw hr
  obtain ⟨hstart, hall⟩ := hw
  rw [List.cons_append] at hword ⊢
  simp only [argument, hstart, hall _ List.mem_cons_self, hword]
  rfl

theorem argument_append {s : List Char} {value : Json} (h : Argument s value)
    (colon : List Char) {rest : List Char} (hr : Ahead isStop rest) :
    argument colon (s ++ rest) = .ok (value, rest) := by
  cases h with
  | quoted hq h =>
    rw [List.cons_append]
    simp only [argument, hq, if_true, quotedText_append hq h]
    rfl
  | literal hw hv => rw [argument_word hw colon hr, hv, Option.getD_some]
  | word hw hv => rw [argument_word hw colon hr, hv, Option.getD_none]

def notColon (c : Char) : Bool := isStop c && c ≠ ':'

theorem isStop_of_notColon (c : Char) (h : notColon c = true) : isStop c = true := by
  simp only [notColon, Bool.and_eq_true] at h
  exact h.1

theorem Arguments.ahead {s : List Char} {values : List Json} (h : Arguments s values)
    {rest : List Char} (hr : Ahead notColon rest) : Ahead isStop (s ++ rest) := by
  cases h with
  | nil => exact hr.mono isStop_of_notColon
  | cons hb _ _ _ =>
    rw [List.append_assoc]
    exact .append hb (.cons (by decide) (by decide) _)

theorem arguments_append {s : List Char} {values : List Json} (h : Arguments s values)
    {rest : List Char} (hr : Ahead notColon rest) :
    arguments (s ++ rest) = .ok (values, skipBlanks rest) := by
  induction h with
  | nil =>
    rw [List.nil_append, arguments]
    split
    · next heq => exact absurd (hr ':' (by rw [heq]; rfl)) (by decide)
    · rfl
  | @cons b b' s behind value values hb hb' harg hmore ih =>
    have hahead := hmore.ahead hr
    -- blanks on both sides of the colon are skipped
    have hskip : skipBlanks ((b ++ ':' :: (b' ++ (s ++ behind))) ++ rest) =
        ':' :: (b' ++ (s ++ (behind ++ rest))) := by
      rw [List.append_assoc, skipBlanks_append hb]
      simp [skipBlanks_cons (show Text.isBlank ':' = false by decide)]
    have hstart : skipBlanks (b' ++ (s ++ (behind ++ rest))) = s ++ (behind ++ rest) := by
      obtain ⟨c, tail, rfl, hc⟩ := harg.starts
      rw [skipBlanks_append hb', List.cons_append, skipBlanks_cons hc]
    rw [arguments]
    split
    · next afterColon heq =>
      obtain ⟨-, rfl⟩ := List.cons.inj (hskip.symm.trans heq)
      rw [hstart]
      split
      · next herr => rw [argument_append harg _ hahead] at herr; exact absurd herr (by simp)
      · next hok =>
        rw [argument_append harg _ hahead] at hok
        obtain ⟨rfl, rfl⟩ := Prod.mk.inj (Except.ok.inj hok)
        rw [ih]
        rfl
    · next hn => exact absurd hskip (hn _)

def Starts (s : List Char) : Prop :=
  ∃ c rest, s = c :: rest ∧ Text.isBlank c = false ∧ isStop c = false

theorem Starts.append {s : List Char} (h : Starts s) (behind : List Char) :
    Starts (s ++ behind) := by
  obtain ⟨c, rest, rfl, hblank, hstop⟩ := h
  exact ⟨c, rest ++ behind, rfl, hblank, hstop⟩

theorem Starts.skipBlanks {s : List Char} (h : Starts s) : skipBlanks s = s := by
  obtain ⟨c, rest, rfl, hblank, -⟩ := h
  exact skipBlanks_cons hblank rest

theorem Primary.starts {inFallback : Bool} {s : List Char} {e : Expr}
    (h : Primary inFallback s e) : Starts s := by
  have hword : ∀ {w : List Char}, Word w → Starts w := by
    rintro _ ⟨-, hall⟩
    have hc := hall _ List.mem_cons_self
    exact ⟨_, _, rfl, isBlank_of_isWordChar hc, isStop_of_isWordChar hc⟩
  cases h with
  | @quoted quote s value hq h =>
    refine ⟨_, _, rfl, isBlank_of_isQuote hq, ?_⟩
    simp only [isQuote, Bool.or_eq_true, decide_eq_true_eq] at hq
    rcases hq with rfl | rfl <;> decide
  | literal _ hw _ => exact hword hw
  | path _ hw _ => exact hword hw

theorem Name.starts {s : List Char} (h : Name s) : Starts s := by
  obtain ⟨hstart, -⟩ := h
  have hchar : isNameChar _ = true := isNameChar_of_isNameStart hstart
  have hword := isWordChar_of_isNameChar hchar
  exact ⟨_, _, rfl, isBlank_of_isWordChar hword, isStop_of_isWordChar hword⟩

theorem Filtered.starts {known : String → Bool} {inFallback : Bool} {s : List Char} {e : Expr}
    (h : Filtered known inFallback s e) : Starts s := by
  induction h with
  | primary h => exact h.starts
  | filter _ _ _ _ _ _ _ ih => exact ih.append _
  | fallback _ _ _ _ ih => exact ih.append _

theorem Chain.starts {known : String → Bool} {inFallback : Bool} {s : List Char} {e : Expr}
    (h : Chain known inFallback s e) : Starts s := by
  cases h with
  | last h => exact h.starts
  | fallback h _ _ _ => exact h.starts.append _

theorem head_word {w : List Char} (hw : Word w) (block : List Char) (inFallback : Bool)
    {rest : List Char} (hr : Ahead isStop rest) : head block inFallback (w ++ rest) =
      match if inFallback then literal? w else none with
      | some value => .ok (.literal value, rest)
      | none => match Path.parse w with
        | .ok path => .ok (.path path, rest)
        | .error (cause, place) => .error ⟨.path cause, place ++ rest⟩ := by
  have hword := word_append hw hr
  obtain ⟨hstart, hall⟩ := hw
  have hstop := isStop_of_isWordChar (hall _ List.mem_cons_self)
  rw [List.cons_append] at hword ⊢
  simp only [head, hstart, hstop, hword]
  rfl

theorem head_append {inFallback : Bool} {s : List Char} {e : Expr} (h : Primary inFallback s e)
    (block : List Char) {rest : List Char} (hr : Ahead isStop rest) :
    head block inFallback (s ++ rest) = .ok (e, rest) := by
  cases h with
  | quoted hq h =>
    rw [List.cons_append]
    simp only [head, hq, if_true, quotedText_append hq h]
    rfl
  | literal hf hw hv => rw [head_word hw block _ hr, if_pos hf, hv]
  | path hf hw hp =>
    have hnone : (if inFallback then literal? s else none) = none := by
      by_cases hi : inFallback = true
      · rw [if_pos hi, hf hi]
      · rw [if_neg hi]
    rw [head_word hw block _ hr, hnone, Path.parse_eq_ok.2 hp]

theorem filterStep_filter (known : String → Bool) (bar : List Char) (e : Expr)
    {name args rest : List Char} {values : List Json} (hname : Name name)
    (hdefault : String.ofList name ≠ "default") (hknown : known (String.ofList name) = true)
    (hargs : Arguments args values) (hr : Ahead notColon rest) :
    filterStep known bar e (name ++ (args ++ rest)) =
      .ok (.filter e (String.ofList name) values, skipBlanks rest) := by
  rw [filterStep, name?_append hname (hargs.ahead hr).ends]
  simp only [arguments_append hargs hr, if_neg hdefault, if_pos hknown]

theorem filterStep_default (known : String → Bool) (bar : List Char) (e : Expr)
    {args rest : List Char} {value : Json} (hargs : Arguments args [value])
    (hr : Ahead notColon rest) :
    filterStep known bar e ("default".toList ++ (args ++ rest)) =
      .ok (.fallback e (.literal value), skipBlanks rest) := by
  have hname : Name "default".toList := .of_all rfl rfl
  rw [filterStep, name?_append hname (hargs.ahead hr).ends]
  simp only [arguments_append hargs hr]
  rfl

theorem filters_eq (known : String → Bool) (e : Expr) (s : List Char) :
    filters known e s = match skipBlanks s with
      | '|' :: afterBar => match filterStep known ('|' :: afterBar) e (skipBlanks afterBar) with
        | .error rejection => .error rejection
        | .ok (e', rest) => filters known e' rest
      | rest => .ok (e, rest) := by
  rw [filters]
  split
  · next afterBar hs =>
    split
    · next hstep => simp only [hs, hstep]
    · next hstep => simp only [hs, hstep]
  · next hn =>
    split
    · next hs => exact absurd hs (hn _)
    · rfl

theorem filters_of_bar {known : String → Bool} {e e' : Expr} {s afterBar rest : List Char}
    (hs : skipBlanks s = '|' :: afterBar)
    (h : filterStep known ('|' :: afterBar) e (skipBlanks afterBar) = .ok (e', rest)) :
    filters known e s = filters known e' rest := by
  simp only [filters_eq known e s, hs, h]

def notBar (c : Char) : Bool := c = '?' || c = '}'

theorem notColon_of_notBar (c : Char) (h : notBar c = true) : notColon c = true := by
  simp only [notBar, Bool.or_eq_true, decide_eq_true_eq] at h
  rcases h with rfl | rfl <;> decide

theorem filters_of_ahead (known : String → Bool) (e : Expr) {s : List Char}
    (hs : Ahead notBar s) : filters known e s = .ok (e, skipBlanks s) := by
  rw [filters_eq]
  split
  · next heq => exact absurd (hs '|' (by rw [heq]; rfl)) (by decide)
  · rfl

theorem filters_skipBlanks (known : String → Bool) (e : Expr) (s : List Char) :
    filters known e (skipBlanks s) = filters known e s := by
  rw [filters_eq, skipBlanks_skipBlanks, ← filters_eq]

/-- The reader comes to a bar with filters left to read, the grammar to the last filter with all
before it derived: whatever the reader makes of the head, behind the derived text it has the
derived tree. -/
theorem filters_append {known : String → Bool} {inFallback : Bool} {s : List Char} {e : Expr}
    (h : Filtered known inFallback s e) (block : List Char) {rest : List Char}
    (hr : Ahead notColon rest) : ∃ first behind,
      head block inFallback (s ++ rest) = .ok (first, behind) ∧
        filters known first behind = filters known e rest := by
  have hbar : ∀ {b s : List Char}, Blank b → Ahead notColon (b ++ '|' :: s) := fun hb =>
    .append hb (.cons (by decide) (by decide) _)
  have hskip : ∀ {b s : List Char}, Blank b → skipBlanks (b ++ '|' :: s) = '|' :: s := by
    intro b s hb
    rw [skipBlanks_append hb, skipBlanks_cons (by decide)]
  -- along the derivation, in which the last filter is outermost; `rest` then starts with its bar
  induction h generalizing rest with
  | primary h => exact ⟨_, _, head_append h block (hr.mono isStop_of_notColon), rfl⟩
  | @filter s b b' name args e values _ hb hb' hname hdefault hknown hargs ih =>
    obtain ⟨first, behind, hhead, hfilters⟩ :=
      ih (hbar (s := b' ++ (name ++ (args ++ rest))) hb)
    have hstep := filterStep_filter known ('|' :: (b' ++ (name ++ (args ++ rest)))) e hname
      hdefault hknown hargs hr
    have hstart : skipBlanks (b' ++ (name ++ (args ++ rest))) = name ++ (args ++ rest) := by
      rw [skipBlanks_append hb']
      exact hname.starts.append _ |>.skipBlanks
    refine ⟨first, behind, by simpa using hhead, ?_⟩
    rw [hfilters, filters_of_bar (hskip hb) (by rw [hstart]; exact hstep), filters_skipBlanks]
  | @fallback s b b' args e value _ hb hb' hargs ih =>
    obtain ⟨first, behind, hhead, hfilters⟩ :=
      ih (hbar (s := b' ++ ("default".toList ++ (args ++ rest))) hb)
    have hstep := filterStep_default known ('|' :: (b' ++ ("default".toList ++ (args ++ rest)))) e
      hargs hr
    have hstart : skipBlanks (b' ++ ("default".toList ++ (args ++ rest))) =
        "default".toList ++ (args ++ rest) := by
      rw [skipBlanks_append hb']
      rfl
    refine ⟨first, behind, by simpa using hhead, ?_⟩
    rw [hfilters, filters_of_bar (hskip hb) (by rw [hstart]; exact hstep), filters_skipBlanks]

theorem chain_eq (known : String → Bool) (block : List Char) (inFallback : Bool)
    (s : List Char) : chain known block inFallback s =
      match head block inFallback (skipBlanks s) with
      | .error fault => .error (.fault fault)
      | .ok (first, afterHead) => match filters known first afterHead with
        | .error rejection => .error rejection
        | .ok (e, '?' :: '?' :: afterMark) =>
          if atEnd (skipBlanks afterMark) then
            .error (.fault ⟨.missingFallback, '?' :: '?' :: afterMark⟩)
          else (chain known block true afterMark).map fun found => (.fallback e found.1, found.2)
        | .ok (e, rest) => .ok (e, rest) := by
  rw [chain]
  split
  · next hh => simp only [hh]
  · next hh =>
    split
    · next hf => simp only [hh, hf]
    · next hf => simp only [hh, hf]
    · next hn hf => simp only [hh, hf]

theorem atEnd_append {s : List Char} (h : Starts s) (rest : List Char) :
    atEnd (s ++ rest) = false := by
  obtain ⟨c, tail, rfl, -, hstop⟩ := h
  have hne : c ≠ '}' := by
    rintro rfl
    exact absurd hstop (by decide)
  rw [List.cons_append, atEnd]
  · rintro ⟨⟩
  · intro _ he
    exact hne (List.cons.inj he).1

def closes (c : Char) : Bool := c = '}'

theorem notBar_of_closes (c : Char) (h : closes c = true) : notBar c = true := by
  simp only [closes, decide_eq_true_eq] at h
  subst h
  decide

theorem chain_append {known : String → Bool} {inFallback : Bool} {s : List Char} {e : Expr}
    (h : Chain known inFallback s e) (block : List Char) {b rest : List Char} (hb : Blank b)
    (hr : Ahead closes rest) :
    chain known block inFallback (b ++ (s ++ rest)) = .ok (e, skipBlanks rest) := by
  induction h generalizing b with
  | @last inFallback s e h =>
    obtain ⟨first, behind, hhead, hfilters⟩ :=
      filters_append h block (hr.mono fun c hc => notColon_of_notBar c (notBar_of_closes c hc))
    have hend := filters_of_ahead known e (hr.mono notBar_of_closes)
    rw [chain_eq, skipBlanks_append hb, (h.starts.append _).skipBlanks, hhead]
    simp only [hfilters, hend]
    split
    · next heq => exact absurd heq (by simp)
    · next heq =>
      -- no mark of a fall-back lies ahead
      have hmark := (Prod.mk.inj (Except.ok.inj heq)).2
      exact absurd (hr '?' (by rw [hmark]; rfl)) (by decide)
    · next heq => exact heq.symm
  | @fallback inFallback s b₁ b₂ other e e' h hb₁ hb₂ hother ih =>
    have hahead : Ahead notBar (b₁ ++ '?' :: '?' :: (b₂ ++ (other ++ rest))) :=
      .append hb₁ (.cons (by decide) (by decide) _)
    obtain ⟨first, behind, hhead, hfilters⟩ :=
      filters_append h block (hahead.mono notColon_of_notBar)
    have hend := filters_of_ahead known e hahead
    have hmark : skipBlanks (b₁ ++ '?' :: '?' :: (b₂ ++ (other ++ rest))) =
        '?' :: '?' :: (b₂ ++ (other ++ rest)) := by
      rw [skipBlanks_append hb₁, skipBlanks_cons (by decide)]
    have hgoes : atEnd (skipBlanks (b₂ ++ (other ++ rest))) = false := by
      rw [skipBlanks_append hb₂, (hother.starts.append _).skipBlanks, atEnd_append hother.starts]
    have hbody : b ++ (s ++ (b₁ ++ '?' :: '?' :: (b₂ ++ other)) ++ rest) =
        b ++ (s ++ (b₁ ++ '?' :: '?' :: (b₂ ++ (other ++ rest)))) := by
      simp
    rw [hbody, chain_eq, skipBlanks_append hb, (h.starts.append _).skipBlanks, hhead]
    simp only [hfilters, hend, hmark, hgoes, ih hb₂]
    rfl

theorem blockBody_append {known : String → Bool} {inside : List Char} {e : Expr}
    (h : Block known inside e) (block rest : List Char) :
    blockBody known block (inside ++ rest) = .ok (e, rest) := by
  obtain @⟨b, s, b', e, hb, hchain, hb'⟩ := h
  have hclose : Ahead closes (b' ++ '}' :: '}' :: rest) :=
    .append hb' (.cons (by decide) (by decide) _)
  have hbody : b ++ (s ++ (b' ++ ['}', '}'])) ++ rest = b ++ (s ++ (b' ++ '}' :: '}' :: rest)) := by
    simp
  have hstart : skipBlanks (b ++ (s ++ (b' ++ '}' :: '}' :: rest))) =
      s ++ (b' ++ '}' :: '}' :: rest) := by
    rw [skipBlanks_append hb, (hchain.starts.append _).skipBlanks]
  have hread := chain_append hchain block (b := []) (by simp [Blank]) hclose
  have hend : skipBlanks (b' ++ '}' :: '}' :: rest) = '}' :: '}' :: rest := by
    rw [skipBlanks_append hb', skipBlanks_cons (by decide)]
  rw [List.nil_append, hend] at hread
  obtain ⟨c, tail, rfl, -, hstop⟩ := hchain.starts
  -- what a chain starts with is not the close of the block
  have hne : c ≠ '}' := by
    rintro rfl
    exact absurd hstop (by decide)
  rw [List.cons_append] at hstart hread
  rw [hbody, blockBody]
  simp only [List.cons_append, hstart]
  split
  · next heq => exact absurd heq (by simp)
  · next heq => exact absurd (List.cons.inj heq).1 hne
  · rw [hread]
    rfl

theorem Free.of_cons {c : Char} {s : List Char} (h : Free (c :: s)) : Free s :=
  fun hin => h (hin.trans (List.suffix_cons c s).isInfix)

theorem free_nil : Free [] := by
  simp [Free]

theorem free_brace : Free ['{'] := by
  simp [Free, List.infix_cons_iff]

theorem freeText_of_free {s : List Char} (h : Free s) : freeText s = (s, []) := by
  induction s with
  | nil => rfl
  | cons c s ih =>
    have hno : ¬(c = '{' ∧ s.head? = some '{') := by
      rintro ⟨rfl, hs⟩
      obtain ⟨rest, rfl⟩ : ∃ rest, s = '{' :: rest := List.head?_eq_some_iff.1 hs
      exact h (List.prefix_append ['{', '{'] rest).isInfix
    rw [freeText, if_neg hno, ih h.of_cons]

theorem freeText_append {s : List Char} (h : Free (s ++ ['{'])) (rest : List Char) :
    freeText (s ++ '{' :: '{' :: rest) = (s, '{' :: '{' :: rest) := by
  induction s with
  | nil => simp [freeText]
  | cons c s ih =>
    -- an opening before the end would be one in the free text and the brace
    have hno : ¬(c = '{' ∧ (s ++ '{' :: '{' :: rest).head? = some '{') := by
      rintro ⟨rfl, hs⟩
      have hs' : (s ++ ['{']).head? = some '{' := by
        cases s with
        | nil => rfl
        | cons d s => exact hs
      obtain ⟨tail, htail⟩ : ∃ tail, s ++ ['{'] = '{' :: tail := List.head?_eq_some_iff.1 hs'
      refine h ?_
      rw [List.cons_append, htail]
      exact (List.prefix_append ['{', '{'] tail).isInfix
    rw [List.cons_append, freeText, if_neg hno, ih (h.of_cons)]

theorem parts_of_block {known : String → Bool} {s inside : List Char} {e : Expr}
    (hs : Free (s ++ ['{'])) (h : Block known inside e) (rest : List Char) :
    parts known (s ++ '{' :: '{' :: (inside ++ rest)) =
      (parts known rest).map fun others => textPart s ++ e :: others := by
  rw [parts, freeText_append hs]
  split
  · next hopen =>
    obtain ⟨rfl, htail⟩ := List.cons.inj hopen
    obtain ⟨rfl, rfl⟩ := List.cons.inj htail
    have hread := blockBody_append h ('{' :: '{' :: (inside ++ rest)) rest
    split
    · next herr => rw [hread] at herr; exact absurd herr (by simp)
    · next hok =>
      rw [hread] at hok
      obtain ⟨rfl, rfl⟩ := Prod.mk.inj (Except.ok.inj hok)
      rfl
  · next hn => exact absurd rfl (hn _ _ _)

theorem parts_append {known : String → Bool} {s : List Char} {found : List Expr}
    (h : Parts known s found) : parts known s = .ok found := by
  induction h with
  | text hs => rw [parts, freeText_of_free hs]
  | block hs hblock _ ih =>
    rw [parts_of_block hs hblock, ih]
    rfl

theorem parse_of_derives {known : String → Bool} {s : List Char} {e : Expr}
    (h : Derives known s e) : parse known s = .ok e := by
  obtain ⟨h⟩ := h
  rw [parse, parts_append h]
  rfl

end Reshape.Template.Grammar
