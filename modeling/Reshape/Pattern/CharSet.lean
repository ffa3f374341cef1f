import Reshape.Text.Category
import Reshape.Text.Fold

namespace Reshape.Pattern

/-- A set of characters, by ranges of their codes with both ends included. -/
structure CharSet where
  spans : List (Nat × Nat)

namespace CharSet

def covers (spans : List (Nat × Nat)) (code : Nat) : Bool :=
  spans.any fun (first, last) => first ≤ code && code ≤ last

def contains (s : CharSet) (c : Char) : Bool := covers s.spans c.toNat

def sorted (spans : List (Nat × Nat)) : List (Nat × Nat) :=
  spans.mergeSort fun a b => a.1 ≤ b.1

/-- Makes one range of ranges that overlap or touch, in a list in ascending order. -/
def joined : List (Nat × Nat) → List (Nat × Nat)
  | (first, last) :: (first', last') :: rest =>
    if first' ≤ last + 1 then joined ((first, max last last') :: rest)
    else (first, last) :: joined ((first', last') :: rest)
  | spans => spans
termination_by spans => spans.length

/-- The codes from `code` on that a list in ascending order leaves out. -/
def gaps (code : Nat) : List (Nat × Nat) → List (Nat × Nat)
  | [] => if code ≤ 0x10ffff then [(code, 0x10ffff)] else []
  | (first, last) :: rest =>
    (if code < first then [(code, first - 1)] else []) ++ gaps (max code (last + 1)) rest

def unions (sets : List CharSet) : CharSet := ⟨joined (sorted (sets.flatMap spans))⟩

def either (a b : CharSet) : CharSet := unions [a, b]

def not (a : CharSet) : CharSet := ⟨gaps 0 (sorted a.spans)⟩

def both (a b : CharSet) : CharSet := not (either (not a) (not b))

def without (a b : CharSet) : CharSet := both a (not b)

/-- What is in one of two sets but not in both. -/
def apart (a b : CharSet) : CharSet := either (without a b) (without b a)

def empty : CharSet := ⟨[]⟩

def all : CharSet := not empty

/-- The characters from one to another, both included. -/
def span (first last : Char) : CharSet := ⟨[(first.toNat, last.toNat)]⟩

def single (c : Char) : CharSet := span c c

def ofCodes (codes : List Nat) : CharSet := unions (codes.map fun code => ⟨[(code, code)]⟩)

def oneOf (text : String) : CharSet := ofCodes (text.toList.map Char.toNat)

def ranges (r : Text.Ranges) : CharSet := ⟨r.spans.toList⟩

def asciiFoldClasses : List (List Nat) :=
  (List.range 26).map fun i => ['A'.toNat + i, 'a'.toNat + i]

/-- Adds what differs from a member in case alone: in the case of ASCII letters, or of all. -/
def caseless (ascii : Bool) (a : CharSet) : CharSet :=
  let classes := if ascii then asciiFoldClasses else Text.foldClasses
  let met := classes.filter fun codes => codes.any fun code => a.contains (Char.ofNat code)
  unions (a :: met.map ofCodes)

/-- The characters below a code that have a property. -/
def holding (p : Char → Bool) (bound : Nat) : CharSet :=
  ofCodes ((List.range bound).filter fun code => p (Char.ofNat code))

/-- A property whose table leaves out the characters of ASCII. -/
def tabled (p : Char → Bool) (table : Text.Ranges) : CharSet :=
  either (holding p 0x80) (ranges table)

def ascii : CharSet := holding Text.isAscii 0x80

def asciiDigit : CharSet := holding Text.isAsciiDigit 0x80

/-- Tabulator, line feed, vertical tabulator, form feed, carriage return and blank. -/
def asciiBlank : CharSet := either (span '\t' '\r') (single ' ')

def asciiWord : CharSet := either (holding Text.isAsciiAlphanumeric 0x80) (single '_')

def digit : CharSet := ranges Text.Category.decimalNumber

def blank : CharSet := holding Text.isBlank 0x3001

def alphabetic : CharSet := tabled Text.isAlphabetic Text.Table.alphabetic

def mark : CharSet := unions [
  ranges Text.Category.nonspacingMark,
  ranges Text.Category.spacingMark,
  ranges Text.Category.enclosingMark]

def joiner : CharSet := span (Char.ofNat 0x200c) (Char.ofNat 0x200d)

/-- What words are made of: letters, marks, decimal digits, connectors and joiners. -/
def word : CharSet := unions [
  alphabetic,
  mark,
  digit,
  ranges Text.Category.connectorPunctuation,
  joiner]

end CharSet

end Reshape.Pattern
