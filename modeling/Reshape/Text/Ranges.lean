namespace Reshape.Text

/-- Ranges of codes, both ends included, disjoint and in ascending order. -/
structure Ranges where
  spans : Array (Nat × Nat)
  deriving Inhabited

namespace Ranges

def hexValue (c : Char) : Nat :=
  if '0' ≤ c ∧ c ≤ '9' then c.toNat - '0'.toNat
  else if 'a' ≤ c ∧ c ≤ 'f' then c.toNat - 'a'.toNat + 10
  else 0

def wordsOf (text : String) : List (List Char) :=
  let (words, last) := text.toList.foldr (fun c (words, word) =>
    if c = ' ' || c = '\n' then (word :: words, []) else (words, c :: word)) ([], [])
  (last :: words).filter (!·.isEmpty)

def hexNumber (word : List Char) : Nat := word.foldl (fun n c => n * 16 + hexValue c) 0

/-- A code, or two with a hyphen between them. -/
def spanOf (word : List Char) : Nat × Nat :=
  let first := word.takeWhile (· ≠ '-')
  match word.dropWhile (· ≠ '-') with
  | _ :: last => (hexNumber first, hexNumber last)
  | [] => (hexNumber first, hexNumber first)

/-- Reads a written set: `"30-39 5f"` is the digits and the underscore. -/
def ofHex (text : String) : Ranges := ⟨((wordsOf text).map spanOf).toArray⟩

/-- Halves the part `[lo, hi)` of the table until it finds the range that may hold the code. -/
def search (spans : Array (Nat × Nat)) (code lo hi : Nat) : Bool :=
  if lo < hi then
    let mid := (lo + hi) / 2
    match spans[mid]? with
    | none => false
    | some (first, last) =>
      if code < first then search spans code lo mid
      else if last < code then search spans code (mid + 1) hi
      else true
  else false
termination_by hi - lo

def contains (r : Ranges) (code : Nat) : Bool :=
  search r.spans code 0 r.spans.size

end Ranges

end Reshape.Text
