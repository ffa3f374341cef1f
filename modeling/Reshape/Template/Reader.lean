import Reshape.Template.Expr
import Reshape.Template.Token

namespace Reshape.Template

inductive Rejection where
  | fault (fault : Fault)
  | unknownFilter (name : String)

/-- The head of a chain. In a fall-back a keyword or a number is a literal. -/
def head (block : List Char) (inFallback : Bool) (s : List Char) :
    Except Fault (Expr × List Char) :=
  match s with
  | [] => .error ⟨.unterminatedBlock, block⟩
  | c :: _ =>
    if isQuote c then
      (quotedText s).map fun found => (.literal (.string (String.ofList found.1)), found.2)
    else if isStop c then .error ⟨.expectedHead c, s⟩
    else
      let found := word s
      match if inFallback then literal? found.1 else none with
      | some value => .ok (.literal value, found.2)
      | none => match Path.parse found.1 with
        | .ok path => .ok (.path path, found.2)
        | .error (cause, place) => .error ⟨.path cause, place ++ found.2⟩

/-- The filter behind a bar, applied to what stands before it. `bar` is the text from the bar on.
The filter `default` is a fall-back. -/
def filterStep (known : String → Bool) (bar : List Char) (inner : Expr) (s : List Char) :
    Except Rejection (Expr × List Char) :=
  match name? s with
  | none => .error (.fault ⟨.missingFilterName, bar⟩)
  | some (name, afterName) => match arguments afterName with
    | .error fault => .error (.fault fault)
    | .ok (values, rest) =>
      let name := String.ofList name
      if name = "default" then
        match values with
        | [value] => .ok (.fallback inner (.literal value), rest)
        | _ => .error (.fault ⟨.defaultArity, s⟩)
      else if known name then .ok (.filter inner name values, rest)
      else .error (.unknownFilter name)

theorem length_of_head {block s rest : List Char} {inFallback : Bool} {e : Expr}
    (h : head block inFallback s = .ok (e, rest)) : rest.length ≤ s.length := by
  unfold head at h
  split at h
  · exact absurd h (by simp)
  · split at h
    · cases hq : quotedText _ with
      | error fault => rw [hq] at h; exact absurd h (by simp [Except.map])
      | ok found =>
        rw [hq] at h
        simp only [Except.map, Except.ok.injEq, Prod.mk.injEq] at h
        have := length_of_quotedText hq
        rw [← h.2]
        omega
    · split at h
      · exact absurd h (by simp)
      · next c r _ _ =>
        have hw := length_word_le (c :: r)
        simp only at h
        split at h
        · simp only [Except.ok.injEq, Prod.mk.injEq] at h
          rw [← h.2]
          exact hw
        · split at h
          · simp only [Except.ok.injEq, Prod.mk.injEq] at h
            rw [← h.2]
            exact hw
          · exact absurd h (by simp)

theorem length_of_name? {s name rest : List Char} (h : name? s = some (name, rest)) :
    rest.length < s.length := by
  unfold name? at h
  split at h
  · exact absurd h (by simp)
  · next c r =>
    split at h
    · obtain ⟨-, rfl⟩ := Prod.mk.inj (Option.some.inj h)
      have := (List.dropWhile_suffix (l := r) isNameChar).length_le
      simp only [List.length_cons]
      omega
    · exact absurd h (by simp)

theorem length_of_filterStep {known : String → Bool} {bar s rest : List Char} {inner e : Expr}
    (h : filterStep known bar inner s = .ok (e, rest)) : rest.length < s.length := by
  unfold filterStep at h
  split at h
  · exact absurd h (by simp)
  · next name afterName hn =>
    have := length_of_name? hn
    split at h
    · exact absurd h (by simp)
    · next values behind ha =>
      have := length_of_arguments ha
      simp only at h
      split at h
      · split at h
        · simp only [Except.ok.injEq, Prod.mk.injEq] at h
          rw [← h.2]
          omega
        · exact absurd h (by simp)
      · split at h
        · simp only [Except.ok.injEq, Prod.mk.injEq] at h
          rw [← h.2]
          omega
        · exact absurd h (by simp)

/-- Any number of filters behind bars, and the rest from its first character that is not blank. -/
def filters (known : String → Bool) (inner : Expr) (s : List Char) :
    Except Rejection (Expr × List Char) :=
  match _hs : skipBlanks s with
  | '|' :: afterBar =>
    match _hf : filterStep known ('|' :: afterBar) inner (skipBlanks afterBar) with
    | .error rejection => .error rejection
    | .ok (e, rest) => filters known e rest
  | rest => .ok (inner, rest)
termination_by s.length
decreasing_by
  have := length_of_filterStep _hf
  have := length_skipBlanks_le afterBar
  have h := length_skipBlanks_le s
  rw [_hs, List.length_cons] at h
  omega

theorem length_of_filters {known : String → Bool} {s rest : List Char} {inner e : Expr}
    (h : filters known inner s = .ok (e, rest)) : rest.length ≤ s.length := by
  fun_induction filters known inner s with
  | case1 => exact absurd h (by simp)
  | case2 inner s afterBar hs e' rest' hf ih =>
    have := ih h
    have := length_of_filterStep hf
    have := length_skipBlanks_le afterBar
    have hl := length_skipBlanks_le s
    rw [hs, List.length_cons] at hl
    omega
  | case3 inner s =>
    simp only [Except.ok.injEq, Prod.mk.injEq] at h
    rw [← h.2]
    exact length_skipBlanks_le s

/-- Whether a text is at an end where no fall-back can stand. -/
def atEnd : List Char → Bool
  | [] => true
  | '}' :: '}' :: _ => true
  | _ => false

/-- A head, its filters, and the fall-back chain behind `??`. `block` is the text from the
block's opening on. -/
def chain (known : String → Bool) (block : List Char) (inFallback : Bool) (s : List Char) :
    Except Rejection (Expr × List Char) :=
  match _hh : head block inFallback (skipBlanks s) with
  | .error fault => .error (.fault fault)
  | .ok (first, afterHead) => match _hf : filters known first afterHead with
    | .error rejection => .error rejection
    | .ok (e, '?' :: '?' :: afterMark) =>
      -- the fault is the mark's, while a head would blame the end that it meets
      if atEnd (skipBlanks afterMark) then
        .error (.fault ⟨.missingFallback, '?' :: '?' :: afterMark⟩)
      else (chain known block true afterMark).map fun found => (.fallback e found.1, found.2)
    | .ok (e, rest) => .ok (e, rest)
termination_by s.length
decreasing_by
  have := length_of_head _hh
  have := length_of_filters _hf
  have := length_skipBlanks_le s
  simp only [List.length_cons] at *
  omega

theorem length_of_chain {known : String → Bool} {block s rest : List Char} {inFallback : Bool}
    {e : Expr} (h : chain known block inFallback s = .ok (e, rest)) : rest.length ≤ s.length := by
  fun_induction chain known block inFallback s generalizing e rest with
  | case1 => exact absurd h (by simp)
  | case2 => exact absurd h (by simp)
  | case3 => exact absurd h (by simp)
  | case4 inFallback s first afterHead hh e' afterMark hf _ ih =>
    cases hc : chain known block true afterMark with
    | error rejection => rw [hc] at h; exact absurd h (by simp [Except.map])
    | ok found =>
      rw [hc] at h
      simp only [Except.map, Except.ok.injEq, Prod.mk.injEq] at h
      have := ih hc
      have := length_of_head hh
      have hl := length_of_filters hf
      have := length_skipBlanks_le s
      simp only [List.length_cons] at hl
      rw [← h.2]
      omega
  | case5 inFallback s first afterHead hh e' rest' _ hf =>
    simp only [Except.ok.injEq, Prod.mk.injEq] at h
    have := length_of_head hh
    have := length_of_filters hf
    have := length_skipBlanks_le s
    rw [← h.2]
    omega

/-- What a block holds. `block` is the text from its opening on, `s` the text behind that. -/
def blockBody (known : String → Bool) (block s : List Char) :
    Except Rejection (Expr × List Char) :=
  match skipBlanks s with
  | [] => .error (.fault ⟨.unterminatedBlock, block⟩)
  | '}' :: '}' :: _ => .error (.fault ⟨.emptyBlock, block⟩)
  | inside => match chain known block false inside with
    | .error rejection => .error rejection
    | .ok (e, rest) => match skipBlanks rest with
      | '}' :: '}' :: behind => .ok (e, behind)
      | [] => .error (.fault ⟨.unterminatedBlock, block⟩)
      | c :: behind => .error (.fault ⟨.unexpected c, c :: behind⟩)

theorem length_of_blockBody {known : String → Bool} {block s rest : List Char} {e : Expr}
    (h : blockBody known block s = .ok (e, rest)) : rest.length ≤ s.length := by
  unfold blockBody at h
  have hs := length_skipBlanks_le s
  split at h
  · exact absurd h (by simp)
  · exact absurd h (by simp)
  · split at h
    · exact absurd h (by simp)
    · next e' rest' hc =>
      have := length_of_chain hc
      have hr := length_skipBlanks_le rest'
      split at h
      · next hb =>
        simp only [Except.ok.injEq, Prod.mk.injEq] at h
        rw [hb] at hr
        simp only [List.length_cons] at hr
        rw [← h.2]
        omega
      · exact absurd h (by simp)
      · exact absurd h (by simp)

/-- The text before the first block, and the rest from its opening on. -/
def freeText : List Char → List Char × List Char
  | [] => ([], [])
  | c :: rest =>
    if c = '{' ∧ rest.head? = some '{' then ([], c :: rest)
    else (c :: (freeText rest).1, (freeText rest).2)

theorem length_freeText_le (s : List Char) : (freeText s).2.length ≤ s.length := by
  induction s with
  | nil => simp [freeText]
  | cons c rest ih =>
    unfold freeText
    split
    · exact Nat.le_refl _
    · simp only [List.length_cons]
      omega

def textPart (text : List Char) : List Expr :=
  if text.isEmpty then [] else [.literal (.string (String.ofList text))]

def parts (known : String → Bool) (s : List Char) : Except Rejection (List Expr) :=
  match _hs : (freeText s).2 with
  | open1 :: open2 :: inside =>
    match _hb : blockBody known (open1 :: open2 :: inside) inside with
    | .error rejection => .error rejection
    | .ok (e, rest) =>
      (parts known rest).map fun others => textPart (freeText s).1 ++ e :: others
  | _ => .ok (textPart (freeText s).1)
termination_by s.length
decreasing_by
  have := length_of_blockBody _hb
  have h := length_freeText_le s
  rw [_hs] at h
  simp only [List.length_cons] at h
  omega

/-- One part is the template itself; no part is empty text. -/
def ofParts : List Expr → Expr
  | [] => .literal (.string "")
  | [part] => part
  | parts => .concat parts

def parse (known : String → Bool) (text : List Char) : Except Rejection Expr :=
  (parts known text).map ofParts

def anyName : String → Bool := fun _ => true

end Reshape.Template
