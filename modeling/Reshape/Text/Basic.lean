import Reshape.Text.Case

namespace Reshape.Text

/-- The length in bytes of a text's UTF-8 form. -/
def byteSize : List Char → Nat
  | [] => 0
  | c :: cs => c.utf8Size + byteSize cs

def trimStart (cs : List Char) : List Char := cs.dropWhile isBlank

def trimEndBy (p : Char → Bool) (cs : List Char) : List Char := (cs.reverse.dropWhile p).reverse

def trimBy (p : Char → Bool) (cs : List Char) : List Char := trimEndBy p (cs.dropWhile p)

def trimEnd (cs : List Char) : List Char := trimEndBy isBlank cs

def trim (cs : List Char) : List Char := trimBy isBlank cs

/-- What follows `mark` when the text starts with it. -/
def after? : List Char → List Char → Option (List Char)
  | [], cs => some cs
  | _ :: _, [] => none
  | m :: mark, c :: cs => if m = c then after? mark cs else none

theorem after?_eq_some {mark cs rest : List Char} :
    after? mark cs = some rest ↔ cs = mark ++ rest := by
  induction mark generalizing cs with
  | nil => simp [after?, eq_comm]
  | cons m mark ih =>
    cases cs with
    | nil => simp [after?]
    | cons c cs =>
      by_cases h : m = c
      · subst h; simp [after?, ih]
      · simp [after?, h]; intro h'; exact absurd h'.symm h

theorem length_le_of_after? {mark cs rest : List Char} (h : after? mark cs = some rest) :
    rest.length ≤ cs.length := by
  rw [after?_eq_some.1 h, List.length_append]
  omega

/-- The parts of a text between the leftmost, non-overlapping occurrences of the mark
`m :: mark`. -/
def splitAround (m : Char) (mark cs : List Char) : List (List Char) :=
  match cs with
  | [] => [[]]
  | c :: rest =>
    if c = m then
      match _h : after? mark rest with
      | some behind => [] :: splitAround m mark behind
      | none => keep c (splitAround m mark rest)
    else keep c (splitAround m mark rest)
termination_by cs.length
decreasing_by
  · exact Nat.lt_succ_of_le (length_le_of_after? _h)
  · exact Nat.lt_succ_self _
  · exact Nat.lt_succ_self _
where
  keep (c : Char) : List (List Char) → List (List Char)
    | [] => [[c]]
    | part :: parts => (c :: part) :: parts

/-- A text with another in the place of the leftmost, non-overlapping occurrences of the mark
`m :: mark`. -/
def replaceEach (m : Char) (mark other cs : List Char) : List Char :=
  match cs with
  | [] => []
  | c :: rest =>
    if c = m then
      match _h : after? mark rest with
      | some behind => other ++ replaceEach m mark other behind
      | none => c :: replaceEach m mark other rest
    else c :: replaceEach m mark other rest
termination_by cs.length
decreasing_by
  · exact Nat.lt_succ_of_le (length_le_of_after? _h)
  · exact Nat.lt_succ_self _
  · exact Nat.lt_succ_self _

/-- The parts of a text between the occurrences of a mark. An empty mark stands before, between
and behind all characters. -/
def splitOn (mark cs : List Char) : List (List Char) :=
  match mark with
  | [] => [] :: (cs.map ([·]) ++ [[]])
  | m :: mark => splitAround m mark cs

def joinWith (mark : List Char) : List (List Char) → List Char
  | [] => []
  | [part] => part
  | part :: parts => part ++ mark ++ joinWith mark parts

def occursIn (mark : List Char) : List Char → Bool
  | [] => mark.isEmpty
  | c :: cs => (after? mark (c :: cs)).isSome || occursIn mark cs

def splitAt? (mark : Char) : List Char → Option (List Char × List Char)
  | [] => none
  | c :: cs =>
    if c = mark then some ([], cs)
    else (splitAt? mark cs).map fun (before, behind) => (c :: before, behind)

/-- The parts of a text divided at every character that satisfies `p`; always at least one. -/
def splitBy (p : Char → Bool) : List Char → List (List Char)
  | [] => [[]]
  | c :: cs =>
    if p c then [] :: splitBy p cs
    else match splitBy p cs with
      | [] => [[c]]
      | part :: parts => (c :: part) :: parts

/-- A line without the carriage return it may end in. -/
def dropReturn (line : List Char) : List Char :=
  match line.reverse with
  | '\r' :: rest => rest.reverse
  | _ => line

/-- The lines of a text. Line ends are `\n` or `\r\n`; the last line needs none. -/
def lines (cs : List Char) : List (List Char) :=
  let parts := splitBy (· = '\n') cs
  match parts.getLast? with
  | some [] => parts.dropLast.map dropReturn
  | some last => parts.dropLast.map dropReturn ++ [last]
  | none => []

end Reshape.Text
