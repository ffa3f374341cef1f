import Reshape.Text.CaseTable
import Reshape.Text.Property

namespace Reshape.Text

def shifted? (code : Nat) : List CaseRun → Option Nat
  | [] => none
  | run :: runs =>
    if run.first ≤ code ∧ code ≤ run.last ∧ (code - run.first) % run.step = 0 then
      some (code + run.distance).toNat
    else shifted? code runs

/-- The upper case of one character: one to three characters. -/
def upperChar (c : Char) : List Char :=
  if isAscii c then [if isAsciiLower c then Char.ofNat (c.toNat - 32) else c]
  else match Table.upperSequences.lookup c.toNat with
    | some codes => codes.map Char.ofNat
    | none => [match shifted? c.toNat Table.upperRuns with | some n => Char.ofNat n | none => c]

/-- The lower case of one character, taken alone: one character, or two for a dotted capital I. -/
def lowerChar (c : Char) : List Char :=
  if isAscii c then [if isAsciiUpper c then Char.ofNat (c.toNat + 32) else c]
  else if c.toNat = 0x130 then ['i', Char.ofNat 0x307]
  else [match shifted? c.toNat Table.lowerRuns with | some n => Char.ofNat n | none => c]

/-- Past what case ignores there is a cased character. -/
def reachesCased (cs : List Char) : Bool :=
  match cs.dropWhile isCaseIgnorable with
  | [] => false
  | c :: _ => isCased c

/-- Lower case of the rest of a text, given what stands before it in reverse. A capital sigma
that ends a word becomes a final sigma. -/
def lowerAfter (before : List Char) : List Char → List Char
  | [] => []
  | c :: rest =>
    (if c.toNat = 0x3a3 then
      [Char.ofNat (if reachesCased before && !reachesCased rest then 0x3c2 else 0x3c3)]
    else lowerChar c) ++ lowerAfter (c :: before) rest

def lower (cs : List Char) : List Char := lowerAfter [] cs

def upper (cs : List Char) : List Char := cs.flatMap upperChar

def asciiLowerChar (c : Char) : Char :=
  if isAsciiUpper c then Char.ofNat (c.toNat + 32) else c

def asciiLower (cs : List Char) : List Char := cs.map asciiLowerChar

end Reshape.Text
