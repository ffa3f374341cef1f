import Reshape.Json.Value
import Reshape.Number.Text

namespace Reshape.Json

/-- The only white space that JSON text may have. -/
def isSpace (c : Char) : Bool := c = ' ' || c = '\t' || c = '\n' || c = '\r'

def skipSpace (s : List Char) : List Char := s.dropWhile isSpace

theorem length_skipSpace_le (s : List Char) : (skipSpace s).length ≤ s.length :=
  (List.dropWhile_suffix _).length_le

def hexValue? (c : Char) : Option Nat :=
  if '0' ≤ c ∧ c ≤ '9' then some (c.toNat - 48)
  else if 'a' ≤ c ∧ c ≤ 'f' then some (c.toNat - 87)
  else if 'A' ≤ c ∧ c ≤ 'F' then some (c.toNat - 55)
  else none

def hexFour? : List Char → Option (Nat × List Char)
  | a :: b :: c :: d :: rest => do
    let a ← hexValue? a
    let b ← hexValue? b
    let c ← hexValue? c
    let d ← hexValue? d
    return (((a * 16 + b) * 16 + c) * 16 + d, rest)
  | _ => none

/-- The character of a `\u` escape whose digits come next. A character beyond 16 bits is spelled
by two escapes, high half first; neither half may stand alone. -/
def unicodeEscape? (s : List Char) : Option (Char × List Char) :=
  match hexFour? s with
  | none => none
  | some (code, rest) =>
    if code < 0xd800 ∨ 0xe000 ≤ code then some (Char.ofNat code, rest)
    else if 0xdc00 ≤ code then none
    else match rest with
      | '\\' :: 'u' :: more => match hexFour? more with
        | some (low, rest) =>
          if 0xdc00 ≤ low ∧ low < 0xe000 then
            some (Char.ofNat (0x10000 + (code - 0xd800) * 1024 + (low - 0xdc00)), rest)
          else none
        | none => none
      | _ => none

def simpleEscape? (c : Char) : Option Char :=
  if c = '"' ∨ c = '\\' ∨ c = '/' then some c
  else if c = 'b' then some (Char.ofNat 8)
  else if c = 'f' then some (Char.ofNat 12)
  else if c = 'n' then some '\n'
  else if c = 'r' then some '\r'
  else if c = 't' then some '\t'
  else none

def escape? : List Char → Option (Char × List Char)
  | [] => none
  | c :: rest =>
    if c = 'u' then unicodeEscape? rest else (simpleEscape? c).map fun d => (d, rest)

theorem length_of_hexFour? {s rest : List Char} {n : Nat} (h : hexFour? s = some (n, rest)) :
    rest.length < s.length := by
  unfold hexFour? at h
  split at h
  · simp only [Option.bind_eq_bind, Option.bind_eq_some_iff, Option.pure_def,
      Option.some.injEq, Prod.mk.injEq] at h
    obtain ⟨_, _, _, _, _, _, _, _, _, rfl⟩ := h
    simp only [List.length_cons]
    omega
  · exact absurd h (by simp)

theorem length_of_unicodeEscape? {s rest : List Char} {c : Char}
    (h : unicodeEscape? s = some (c, rest)) : rest.length < s.length := by
  unfold unicodeEscape? at h
  split at h
  · exact absurd h (by simp)
  · next code first hf =>
    have hfirst := length_of_hexFour? hf
    split at h
    · obtain ⟨-, rfl⟩ := Prod.mk.inj (Option.some.inj h)
      exact hfirst
    · split at h
      · exact absurd h (by simp)
      · split at h
        · split at h
          · next low second hs =>
            have hsecond := length_of_hexFour? hs
            split at h
            · obtain ⟨-, rfl⟩ := Prod.mk.inj (Option.some.inj h)
              simp only [List.length_cons] at hfirst
              omega
            · exact absurd h (by simp)
          · exact absurd h (by simp)
        · exact absurd h (by simp)

theorem length_of_escape? {s rest : List Char} {c : Char} (h : escape? s = some (c, rest)) :
    rest.length < s.length := by
  unfold escape? at h
  split at h
  · exact absurd h (by simp)
  · split at h
    · have := length_of_unicodeEscape? h
      simp only [List.length_cons]
      omega
    · obtain ⟨d, -, hd⟩ := Option.map_eq_some_iff.1 h
      obtain ⟨-, rfl⟩ := Prod.mk.inj hd
      simp

def stringBody? (s : List Char) : Option (List Char × List Char) :=
  match s with
  | [] => none
  | c :: rest =>
    if c = '"' then some ([], rest)
    else if c = '\\' then
      match _h : escape? rest with
      | none => none
      | some (d, behind) => (stringBody? behind).map fun found => (d :: found.1, found.2)
    else if c.toNat < 32 then none
    else (stringBody? rest).map fun found => (c :: found.1, found.2)
termination_by s.length
decreasing_by
  · have := length_of_escape? _h
    simp_wf
    omega
  · simp_wf

theorem length_of_stringBody? {s body rest : List Char} (h : stringBody? s = some (body, rest)) :
    rest.length < s.length := by
  fun_induction stringBody? s generalizing body rest with
  | case1 => exact absurd h (by simp)
  | case2 =>
    obtain ⟨-, rfl⟩ := Prod.mk.inj (Option.some.inj h)
    simp
  | case3 => exact absurd h (by simp)
  | case4 r d r' he _ ih =>
    obtain ⟨found, hf, hd⟩ := Option.map_eq_some_iff.1 h
    obtain ⟨-, rfl⟩ := Prod.mk.inj hd
    have := ih hf
    have := length_of_escape? he
    simp only [List.length_cons]
    omega
  | case5 => exact absurd h (by simp)
  | case6 c r _ _ _ ih =>
    obtain ⟨found, hf, hd⟩ := Option.map_eq_some_iff.1 h
    obtain ⟨-, rfl⟩ := Prod.mk.inj hd
    have := ih hf
    simp only [List.length_cons]
    omega

structure Literal where
  negative : Bool
  whole : List Char
  fraction : Option (List Char)
  exponent : Option Int

def digits? (s : List Char) : Option (List Char × List Char) :=
  let run := s.takeWhile Text.isAsciiDigit
  if run.isEmpty then none else some (run, s.dropWhile Text.isAsciiDigit)

def fraction? : List Char → Option (Option (List Char) × List Char)
  | '.' :: rest => (digits? rest).map fun found => (some found.1, found.2)
  | s => some (none, s)

def dropSign : List Char → Bool × List Char
  | '-' :: rest => (true, rest)
  | '+' :: rest => (false, rest)
  | s => (false, s)

def exponent? : List Char → Option (Option Int × List Char)
  | [] => some (none, [])
  | e :: rest =>
    if e = 'e' ∨ e = 'E' then
      let signed := dropSign rest
      (digits? signed.2).map fun found =>
        let size : Int := digitsValue found.1
        (some (if signed.1 then -size else size), found.2)
    else some (none, e :: rest)

def dropMinus : List Char → Bool × List Char
  | '-' :: rest => (true, rest)
  | s => (false, s)

/-- A number literal and the text behind it. A leading zero stands alone. -/
def literal? (s : List Char) : Option (Literal × List Char) :=
  let signed := dropMinus s
  match digits? signed.2 with
  | none => none
  | some (whole, s) =>
    if whole.length > 1 ∧ whole.head? = some '0' then none
    else match fraction? s with
      | none => none
      | some (fraction, s) => (exponent? s).map fun found =>
          (⟨signed.1, whole, fraction, found.1⟩, found.2)

theorem length_of_digits? {s run rest : List Char} (h : digits? s = some (run, rest)) :
    rest.length < s.length := by
  unfold digits? at h
  simp only [List.isEmpty_iff] at h
  split at h
  · exact absurd h (by simp)
  · next hne =>
    obtain ⟨-, rfl⟩ := Prod.mk.inj (Option.some.inj h)
    have := congrArg List.length (List.takeWhile_append_dropWhile (p := Text.isAsciiDigit) (l := s))
    rw [List.length_append] at this
    have := List.length_pos_iff.2 hne
    omega

theorem length_of_fraction? {s rest : List Char} {run : Option (List Char)}
    (h : fraction? s = some (run, rest)) : rest.length ≤ s.length := by
  unfold fraction? at h
  split at h
  · obtain ⟨found, hf, hr⟩ := Option.map_eq_some_iff.1 h
    obtain ⟨-, rfl⟩ := Prod.mk.inj hr
    have := length_of_digits? hf
    simp only [List.length_cons]
    omega
  · obtain ⟨-, rfl⟩ := Prod.mk.inj (Option.some.inj h)
    exact Nat.le_refl _

theorem length_dropSign_le (s : List Char) : (dropSign s).2.length ≤ s.length := by
  unfold dropSign
  split <;> simp

theorem length_of_exponent? {s rest : List Char} {e : Option Int}
    (h : exponent? s = some (e, rest)) : rest.length ≤ s.length := by
  unfold exponent? at h
  split at h
  · obtain ⟨-, rfl⟩ := Prod.mk.inj (Option.some.inj h)
    exact Nat.le_refl _
  · next r =>
    split at h
    · obtain ⟨found, hf, hr⟩ := Option.map_eq_some_iff.1 h
      obtain ⟨-, rfl⟩ := Prod.mk.inj hr
      have := length_of_digits? hf
      have := length_dropSign_le r
      simp only [List.length_cons] at *
      omega
    · obtain ⟨-, rfl⟩ := Prod.mk.inj (Option.some.inj h)
      exact Nat.le_refl _

theorem length_dropMinus_le (s : List Char) : (dropMinus s).2.length ≤ s.length := by
  unfold dropMinus
  split <;> simp

theorem length_of_literal? {s rest : List Char} {l : Literal} (h : literal? s = some (l, rest)) :
    rest.length < s.length := by
  have := length_dropMinus_le s
  simp only [literal?] at h
  split at h
  · exact absurd h (by simp)
  · next whole afterWhole hw =>
    have := length_of_digits? hw
    split at h
    · exact absurd h (by simp)
    · split at h
      · exact absurd h (by simp)
      · next fraction afterFraction hf =>
        have := length_of_fraction? hf
        obtain ⟨found, he, hr⟩ := Option.map_eq_some_iff.1 h
        obtain ⟨-, rfl⟩ := Prod.mk.inj hr
        have := length_of_exponent? he
        omega

/-- Appends digits to a number while 64 bits hold it, and counts the digits left over. -/
def gather (significand : Nat) : List Char → Nat × Nat
  | [] => (significand, 0)
  | c :: rest =>
    let next := significand * 10 + (c.toNat - 48)
    if next ≤ maxUInt64 then gather next rest else (significand, rest.length + 1)

/-- Powers of ten up to the largest that is a finite float. -/
def powerOfTen (n : Nat) : Binary64 := Binary64.ofNat (Nat.pow 10 n)

/-- Divides by a power of ten, in steps of `10 ^ 308`. -/
def divideByTens (f : Binary64) (n : Nat) : Binary64 :=
  if n ≤ 308 then f.div (powerOfTen n)
  else if f.isZero then f
  else divideByTens (f.div (powerOfTen 308)) (n - 308)
termination_by n

/-- A float literal's value: its leading digits as a whole number, rounded, then multiplied or
divided by a power of ten and rounded again. -/
def scaled? (significand : Nat) (exponent : Int) : Option Binary64 :=
  let f := Binary64.ofNat significand
  if exponent < 0 then some (divideByTens f (-exponent).toNat)
  else if f.isZero then some f
  else if 308 < exponent then none
  else
    let g := f.mul (powerOfTen exponent.toNat)
    if g.isInfinite then none else some g

/-- The number of a literal; none when it lies beyond the largest float. -/
def Literal.number? (l : Literal) : Option Number :=
  let (significand, dropped) := gather 0 l.whole
  let signed (f : Binary64) : Number := .float (if l.negative then f.neg else f)
  match l.fraction, l.exponent with
  | none, none =>
    if dropped > 0 then (scaled? significand dropped).map signed
    else if !l.negative then some (.whole significand)
    else if 0 < significand ∧ minInt64 ≤ -significand then some (.whole (-significand))
    -- minus zero, and numbers below those of 64 bits
    else some (signed (Binary64.ofNat significand))
  | fraction, exponent =>
    let fraction := fraction.getD []
    let (significand, lost) := gather significand fraction
    -- every decimal that was taken in moves the point by one place
    (scaled? significand (dropped - (fraction.length - lost : Nat) + exponent.getD 0)).map signed

abbrev Rest (s : List Char) := { rest : List Char // rest.length < s.length }

def number? (s : List Char) : Option (Number × Rest s) :=
  match h : literal? s with
  | none => none
  | some (l, rest) => l.number?.map fun n => (n, ⟨rest, length_of_literal? h⟩)

mutual

/-- A value at the front of a text that does not start with white space; `depth` levels may still
be opened. -/
def value? (depth : Nat) (s : List Char) : Option (Json × Rest s) :=
  match s with
  | 'n' :: 'u' :: 'l' :: 'l' :: rest => some (.null, ⟨rest, by simp; omega⟩)
  | 't' :: 'r' :: 'u' :: 'e' :: rest => some (.bool true, ⟨rest, by simp; omega⟩)
  | 'f' :: 'a' :: 'l' :: 's' :: 'e' :: rest => some (.bool false, ⟨rest, by simp; omega⟩)
  | '"' :: rest =>
    match h : stringBody? rest with
    | none => none
    | some (body, behind) =>
      some (.string (String.ofList body), ⟨behind, by have := length_of_stringBody? h; simp; omega⟩)
  | '[' :: rest =>
    -- what is read next is shorter, with white space or without
    have _shorter : (skipSpace rest).length < ('[' :: rest).length := by
      have := length_skipSpace_le rest
      simp
      omega
    match depth with
    | 0 => none
    | depth + 1 =>
      match h : skipSpace rest with
      | ']' :: behind => some (.array [], ⟨behind, by rw [h] at _shorter; simp at *; omega⟩)
      | _ => (items? depth (skipSpace rest)).map fun (items, ⟨behind, hb⟩) =>
          (.array items, ⟨behind, by omega⟩)
  | '{' :: rest =>
    have _shorter : (skipSpace rest).length < ('{' :: rest).length := by
      have := length_skipSpace_le rest
      simp
      omega
    match depth with
    | 0 => none
    | depth + 1 =>
      match h : skipSpace rest with
      | '}' :: behind => some (.object [], ⟨behind, by rw [h] at _shorter; simp at *; omega⟩)
      | _ => (members? depth (skipSpace rest)).map fun (members, ⟨behind, hb⟩) =>
          (.object members, ⟨behind, by omega⟩)
  | s => (number? s).map fun (n, rest) => (.number n, rest)
termination_by 2 * s.length
decreasing_by
  all_goals
    simp only [List.length_cons] at *
    omega

def items? (depth : Nat) (s : List Char) : Option (List Json × Rest s) :=
  match value? depth s with
  | none => none
  | some (item, ⟨rest, hr⟩) =>
    have _hs := length_skipSpace_le rest
    match h : skipSpace rest with
    | ']' :: behind => some ([item], ⟨behind, by rw [h] at _hs; simp at _hs; omega⟩)
    | ',' :: more =>
      have _hm : (skipSpace more).length < s.length := by
        have := length_skipSpace_le more
        rw [h] at _hs
        simp at _hs
        omega
      (items? depth (skipSpace more)).map fun (items, ⟨behind, hb⟩) =>
        (item :: items, ⟨behind, by omega⟩)
    | _ => none
termination_by 2 * s.length + 1
decreasing_by
  all_goals omega

def members? (depth : Nat) (s : List Char) : Option (List (String × Json) × Rest s) :=
  match s with
  | '"' :: rest =>
    match h : stringBody? rest with
    | none => none
    | some (body, afterKey) =>
      have _hk := length_of_stringBody? h
      have _ha := length_skipSpace_le afterKey
      match hc : skipSpace afterKey with
      | ':' :: beforeValue =>
        have _hv : (skipSpace beforeValue).length < ('"' :: rest).length := by
          have := length_skipSpace_le beforeValue
          rw [hc] at _ha
          simp at *
          omega
        match value? depth (skipSpace beforeValue) with
        | none => none
        | some (value, ⟨afterValue, hr⟩) =>
          have _hs := length_skipSpace_le afterValue
          match h : skipSpace afterValue with
          | '}' :: behind =>
            some ([(String.ofList body, value)], ⟨behind, by rw [h] at _hs; simp at *; omega⟩)
          | ',' :: more =>
            have _hm : (skipSpace more).length < ('"' :: rest).length := by
              have := length_skipSpace_le more
              rw [h] at _hs
              simp at *
              omega
            (members? depth (skipSpace more)).map fun (members, ⟨behind, hb⟩) =>
              ((String.ofList body, value) :: members, ⟨behind, by omega⟩)
          | _ => none
      | _ => none
  | _ => none
termination_by 2 * s.length + 1
decreasing_by
  all_goals
    simp only [List.length_cons] at *
    omega

end

def maxDepth : Nat := 127

/-- Reads a text that holds one value; repeated keys are kept as they stand. -/
def readTree? (text : String) : Option Json :=
  match value? maxDepth (skipSpace text.toList) with
  | some (value, ⟨rest, _⟩) => if (skipSpace rest).isEmpty then some value else none
  | none => none

def read? (text : String) : Option Json := (readTree? text).map merged

end Reshape.Json
