import Reshape.Text.Basic

namespace Reshape.Yaml

def nextLine : Char := Char.ofNat 0x85

def lineSeparator : Char := Char.ofNat 0x2028

def paragraphSeparator : Char := Char.ofNat 0x2029

def byteOrderMark : Char := Char.ofNat 0xfeff

/-- Line ends of all spellings become one newline, apart from the two separators, which end lines
but stay as they are. -/
def plainLines : List Char → List Char
  | [] => []
  | '\r' :: '\n' :: rest => '\n' :: plainLines rest
  | c :: rest => (if c = '\r' || c = nextLine then '\n' else c) :: plainLines rest

/-- Characters that may stand in a text; other controls and non-characters may not. -/
def isAllowed (c : Char) : Bool :=
  c = '\t' || c = '\n' || c = '\r' || (0x20 ≤ c.toNat && c.toNat ≤ 0x7e) || c = nextLine ||
    (0xa0 ≤ c.toNat && c.toNat ≤ 0xfffd) || 0x10000 ≤ c.toNat

/-- Whether a character ends a line, once `plainLines` has been applied. -/
def isBreak (c : Char) : Bool := c = '\n' || c = lineSeparator || c = paragraphSeparator

def isBlank (c : Char) : Bool := c = ' ' || c = '\t'

/-- Whether a text is at its end, at a blank or at the end of a line. -/
def atSpace : List Char → Bool
  | [] => true
  | c :: _ => isBlank c || isBreak c

def isNameChar (c : Char) : Bool := Text.isAsciiAlphanumeric c || c = '_' || c = '-'

def atDocumentMark : List Char → Bool
  | '-' :: '-' :: '-' :: rest => atSpace rest
  | '.' :: '.' :: '.' :: rest => atSpace rest
  | _ => false

/-- A place in a text; lines and columns count from zero. -/
structure Mark where
  line : Nat
  column : Nat
  /-- How many characters stand before it. -/
  index : Nat
  deriving Inhabited

namespace Mark

def start : Mark := ⟨0, 0, 0⟩

def next (m : Mark) (c : Char) : Mark :=
  if isBreak c then ⟨m.line + 1, 0, m.index + 1⟩ else ⟨m.line, m.column + 1, m.index + 1⟩

def past (m : Mark) (cs : List Char) : Mark := cs.foldl next m

end Mark

/-- What is left of a text, and where that starts. -/
structure Cursor where
  rest : List Char
  mark : Mark

namespace Cursor

def skip (n : Nat) (c : Cursor) : Cursor := ⟨c.rest.drop n, c.mark.past (c.rest.take n)⟩

def skipWhile (p : Char → Bool) (c : Cursor) : Cursor :=
  ⟨c.rest.dropWhile p, c.mark.past (c.rest.takeWhile p)⟩

end Cursor

end Reshape.Yaml
