import Reshape.Text.Basic

namespace Reshape.Toml

def isSpace (c : Char) : Bool := c = ' ' || c = '\t'

def skipSpaces (s : List Char) : List Char := s.dropWhile isSpace

/-- Characters that comments and strings may hold. -/
def isVisible (c : Char) : Bool := c = '\t' || (0x20 ≤ c.toNat && c.toNat ≠ 0x7f)

def lineEnd? : List Char → Option (List Char)
  | '\n' :: rest => some rest
  | '\r' :: '\n' :: rest => some rest
  | _ => none

def skipComment : List Char → List Char
  | '#' :: rest => rest.dropWhile isVisible
  | s => s

/-- What follows the blanks, the comment and the end of a line. -/
def restOfLine? (s : List Char) : Option (List Char) :=
  match skipComment (skipSpaces s) with
  | [] => some []
  | s => lineEnd? s

def skipGaps (s : List Char) : List Char :=
  match skipSpaces s with
  | [] => []
  | next => match restOfLine? next with
    | some rest => if rest.length < s.length then skipGaps rest else next
    | none => next
termination_by s.length

def hexValue? (c : Char) : Option Nat :=
  if '0' ≤ c ∧ c ≤ '9' then some (c.toNat - 48)
  else if 'a' ≤ c ∧ c ≤ 'f' then some (c.toNat - 87)
  else if 'A' ≤ c ∧ c ≤ 'F' then some (c.toNat - 55)
  else none

def numbered? (width : Nat) (s : List Char) : Option (Char × List Char) := do
  let digits := s.take width
  if digits.length < width then none
  let code ← digits.foldlM (fun n c => (hexValue? c).map (n * 16 + ·)) 0
  if code.isValidChar then some (Char.ofNat code, s.drop width) else none

def escape? : List Char → Option (Char × List Char)
  | 'b' :: rest => some (Char.ofNat 8, rest)
  | 't' :: rest => some ('\t', rest)
  | 'n' :: rest => some ('\n', rest)
  | 'f' :: rest => some (Char.ofNat 12, rest)
  | 'r' :: rest => some ('\r', rest)
  | '"' :: rest => some ('"', rest)
  | '\\' :: rest => some ('\\', rest)
  | 'u' :: rest => numbered? 4 rest
  | 'U' :: rest => numbered? 8 rest
  | _ => none

def basicBody? (s : List Char) : Option (List Char × List Char) :=
  match s with
  | [] => none
  | '"' :: rest => some ([], rest)
  | '\\' :: rest => match escape? rest with
    | some (c, behind) =>
      if behind.length ≤ rest.length then
        (basicBody? behind).map fun (body, after) => (c :: body, after)
      else none
    | none => none
  | c :: rest =>
    if isVisible c then (basicBody? rest).map fun (body, after) => (c :: body, after) else none
termination_by s.length

def literalBody? : List Char → Option (List Char × List Char)
  | [] => none
  | '\'' :: rest => some ([], rest)
  | c :: rest =>
    if isVisible c then (literalBody? rest).map fun (body, after) => (c :: body, after) else none

/-- What follows the three quotes that close a string of several lines, and the quotes in front of
them that belong to it; none if there are fewer than three. -/
def closing? (quote : Char) (s : List Char) : Option (List Char × List Char) :=
  let run := (s.takeWhile (· = quote)).length
  if run < 3 then none
  else
    let inner := min (run - 3) 2
    some (List.replicate inner quote, s.drop (inner + 3))

/-- What follows the blanks and line ends that a backslash at the end of a line hides. -/
def skipFold (s : List Char) : List Char :=
  s.dropWhile fun c => isSpace c || c = '\n' || c = '\r'

def longBody? (quote : Char) (s : List Char) : Option (List Char × List Char) :=
  match s with
  | [] => none
  | c :: rest =>
    let keep (d : Char) (behind : List Char) : Option (List Char × List Char) :=
      if behind.length ≤ rest.length then
        (longBody? quote behind).map fun (body, after) => (d :: body, after)
      else none
    match closing? quote s, lineEnd? s with
    | some found, _ => some found
    | none, some behind => keep '\n' behind
    | none, none =>
      if c = '\\' && quote = '"' then
        match lineEnd? (skipSpaces rest) with
        | some behind =>
          if (skipFold behind).length ≤ rest.length then longBody? quote (skipFold behind)
          else none
        | none => (escape? rest).bind fun (d, behind) => keep d behind
      else if isVisible c then keep c rest
      else none
termination_by s.length

/-- The line end that a string of several lines may start with does not belong to it. -/
def dropLineEnd (s : List Char) : List Char := (lineEnd? s).getD s

def string? : List Char → Option (List Char × List Char)
  | '"' :: '"' :: '"' :: rest => longBody? '"' (dropLineEnd rest)
  | '\'' :: '\'' :: '\'' :: rest => longBody? '\'' (dropLineEnd rest)
  | '"' :: rest => basicBody? rest
  | '\'' :: rest => literalBody? rest
  | _ => none

def isKeyChar (c : Char) : Bool :=
  ('a' ≤ c && c ≤ 'z') || ('A' ≤ c && c ≤ 'Z') || ('0' ≤ c && c ≤ '9') || c = '_' || c = '-'

def keyPart? (s : List Char) : Option (String × List Char) :=
  let found := match s with
    | '"' :: rest => basicBody? rest
    | '\'' :: rest => literalBody? rest
    | _ =>
      let run := s.takeWhile isKeyChar
      if run.isEmpty then none else some (run, s.dropWhile isKeyChar)
  found.map fun (body, rest) => (String.ofList body, rest)

def key? (s : List Char) : Option (List String × List Char) :=
  match keyPart? s with
  | none => none
  | some (part, rest) => match skipSpaces rest with
    | '.' :: more =>
      let next := skipSpaces more
      if next.length < s.length then
        (key? next).map fun (parts, behind) => (part :: parts, behind)
      else none
    | behind => some ([part], behind)
termination_by s.length

end Reshape.Toml
