import Reshape.Template.Fault

namespace Reshape.Template

def skipBlanks (s : List Char) : List Char := s.dropWhile Text.isBlank

/-- Characters that end a word besides blanks. -/
def isStop (c : Char) : Bool := c = '|' || c = '}' || c = '?' || c = ':'

def isWordChar (c : Char) : Bool := !Text.isBlank c && !isStop c

def isQuote (c : Char) : Bool := c = '\'' || c = '"'

def word (s : List Char) : List Char × List Char :=
  (s.takeWhile isWordChar, s.dropWhile isWordChar)

/-- The text up to the closing quote, and the rest behind it. A backslash makes the next character
stand for itself. -/
def quoted? (quote : Char) : List Char → Option (List Char × List Char)
  | [] => none
  | '\\' :: c :: rest => (quoted? quote rest).map fun found => (c :: found.1, found.2)
  | c :: rest =>
    if c = quote then some ([], rest)
    else (quoted? quote rest).map fun found => (c :: found.1, found.2)

def isNameStart (c : Char) : Bool := Text.isAsciiLetter c || c = '_'

def isNameChar (c : Char) : Bool := Text.isAsciiAlphanumeric c || c = '_'

def name? : List Char → Option (List Char × List Char)
  | [] => none
  | c :: rest =>
    if isNameStart c then some (c :: rest.takeWhile isNameChar, rest.dropWhile isNameChar)
    else none

def literal? (text : List Char) : Option Json :=
  if text = "true".toList then some (.bool true)
  else if text = "false".toList then some (.bool false)
  else if text = "null".toList then some .null
  else match (readInt64? text).or (readUInt64? text) with
    | some n => some (.ofInt n)
    | none => match text with
      | [] => none
      | c :: _ =>
        -- `inf` and `nan` are words here, though float literals elsewhere
        if Text.isAsciiDigit c || c = '-' || c = '.' then
          ((Binary64.read? text).filter Binary64.isFinite).map Json.ofFloat
        else none

/-- A string in quotes at the front of a text; the fault is at its opening quote. -/
def quotedText (s : List Char) : Except Fault (List Char × List Char) :=
  match s with
  | [] => .error ⟨.unterminatedString, s⟩
  | quote :: rest => match quoted? quote rest with
    | some found => .ok found
    | none => .error ⟨.unterminatedString, s⟩

/-- The argument behind the colon that `colon` starts with. -/
def argument (colon s : List Char) : Except Fault (Json × List Char) :=
  match s with
  | [] => .error ⟨.missingArgument, colon⟩
  | c :: _ =>
    if isQuote c then (quotedText s).map fun found => (.string (String.ofList found.1), found.2)
    else if isWordChar c then
      let found := word s
      .ok ((literal? found.1).getD (.string (String.ofList found.1)), found.2)
    else .error ⟨.missingArgument, colon⟩

theorem length_skipBlanks_le (s : List Char) : (skipBlanks s).length ≤ s.length :=
  (List.dropWhile_suffix _).length_le

theorem length_of_quoted? {quote : Char} {s body rest : List Char}
    (h : quoted? quote s = some (body, rest)) : rest.length < s.length := by
  fun_induction quoted? quote s generalizing body rest with
  | case1 => exact absurd h (by simp)
  | case2 c r ih =>
    obtain ⟨found, hf, hr⟩ := Option.map_eq_some_iff.1 h
    obtain ⟨-, rfl⟩ := Prod.mk.inj hr
    have := ih hf
    simp only [List.length_cons]
    omega
  | case3 r _ =>
    obtain ⟨-, rfl⟩ := Prod.mk.inj (Option.some.inj h)
    simp
  | case4 c r _ _ ih =>
    obtain ⟨found, hf, hr⟩ := Option.map_eq_some_iff.1 h
    obtain ⟨-, rfl⟩ := Prod.mk.inj hr
    have := ih hf
    simp only [List.length_cons]
    omega

theorem length_of_quotedText {s body rest : List Char}
    (h : quotedText s = .ok (body, rest)) : rest.length < s.length := by
  unfold quotedText at h
  split at h
  · exact absurd h (by simp)
  · split at h
    · next hq =>
      cases h
      have := length_of_quoted? hq
      simp only [List.length_cons]
      omega
    · exact absurd h (by simp)

theorem length_word_le (s : List Char) : (word s).2.length ≤ s.length :=
  (List.dropWhile_suffix _).length_le

theorem length_of_argument {colon s rest : List Char} {value : Json}
    (h : argument colon s = .ok (value, rest)) : rest.length ≤ s.length := by
  unfold argument at h
  split at h
  · exact absurd h (by simp)
  · split at h
    · cases hq : quotedText _ with
      | error e => rw [hq] at h; exact absurd h (by simp [Except.map])
      | ok found =>
        rw [hq] at h
        simp only [Except.map, Except.ok.injEq, Prod.mk.injEq] at h
        have := length_of_quotedText hq
        rw [← h.2]
        omega
    · split at h
      · simp only [Except.ok.injEq, Prod.mk.injEq] at h
        rw [← h.2]
        exact length_word_le _
      · exact absurd h (by simp)

/-- Colons, each with an argument behind it, and the rest from its first character on that is not
blank. -/
def arguments (s : List Char) : Except Fault (List Json × List Char) :=
  match _hs : skipBlanks s with
  | ':' :: afterColon => match _ha : argument (':' :: afterColon) (skipBlanks afterColon) with
    | .error fault => .error fault
    | .ok (value, rest) => (arguments rest).map fun found => (value :: found.1, found.2)
  | rest => .ok ([], rest)
termination_by s.length
decreasing_by
  have := length_of_argument _ha
  have := length_skipBlanks_le afterColon
  have h := length_skipBlanks_le s
  rw [_hs, List.length_cons] at h
  omega

theorem length_of_arguments {s rest : List Char} {values : List Json}
    (h : arguments s = .ok (values, rest)) : rest.length ≤ s.length := by
  fun_induction arguments s generalizing values rest with
  | case1 => exact absurd h (by simp)
  | case2 s afterColon hs value rest' ha ih =>
    cases hr : arguments rest' with
    | error e => rw [hr] at h; exact absurd h (by simp [Except.map])
    | ok found =>
      rw [hr] at h
      simp only [Except.map, Except.ok.injEq, Prod.mk.injEq] at h
      have := ih hr
      have := length_of_argument ha
      have := length_skipBlanks_le afterColon
      have hl := length_skipBlanks_le s
      rw [hs, List.length_cons] at hl
      rw [← h.2]
      omega
  | case3 s =>
    simp only [Except.ok.injEq, Prod.mk.injEq] at h
    rw [← h.2]
    exact length_skipBlanks_le s

end Reshape.Template
