import Reshape.Json.Value
import Reshape.Yaml.Plain

namespace Reshape.Yaml

/-- A positive exponent has no sign: `1e20`. -/
def floatLayout : FloatLayout := ⟨false⟩

def isLineEnd (c : Char) : Bool :=
  c = '\n' || c = '\r' || c.toNat = 0x85 || c.toNat = 0x2028 || c.toNat = 0x2029

def isShown (c : Char) : Bool :=
  c = '\n' || (0x20 ≤ c.toNat && c.toNat ≤ 0x7e) ||
    (0xa0 ≤ c.toNat && c.toNat ≠ 0xfeff && c.toNat ≠ 0xfffe && c.toNat ≠ 0xffff)

def isGap (c : Char) : Bool := c = ' ' || c = '\t' || isLineEnd c

def gapNext (cs : List Char) : Bool := cs.head?.all isGap

/-- Whether the first character of a plain scalar would be read as something else. -/
def misleadsFirst (c : Char) (rest : List Char) : Bool :=
  [',', '[', ']', '\x7b', '\x7d', '#', '&', '*', '!', '|', '>', '\'', '"', '%', '@',
    Char.ofNat 0x60].contains c ||
    ((c = '?' || c = ':' || c = '-') && gapNext rest)

/-- Whether a colon or a number sign behind the first character would be read as something else.
`gap` says whether a gap stands in front. -/
def misleadsBehind (gap : Bool) : List Char → Bool
  | [] => false
  | c :: rest =>
    (c = ':' && gapNext rest) || (c = '#' && gap) || misleadsBehind (isGap c) rest

/-- Whether a plain scalar would be read as something else. -/
def misleads : List Char → Bool
  | [] => false
  | c :: rest =>
    ['-', '-', '-'].isPrefixOf (c :: rest) || ['.', '.', '.'].isPrefixOf (c :: rest) ||
      misleadsFirst c rest || misleadsBehind (isGap c) rest

def hasPair (p q : Char → Bool) : List Char → Bool
  | a :: b :: rest => (p a && q b) || hasPair p q (b :: rest)
  | _ => false

def isBlankChar (c : Char) : Bool := c = ' '

/-- Blanks and line ends at the ends of a text, or any line end, are lost in a plain scalar. -/
def allowsPlain (cs : List Char) : Bool :=
  !(misleads cs || cs.any isLineEnd || !cs.all isShown ||
    cs.head?.any isBlankChar || cs.getLast?.any isBlankChar)

/-- Blanks beside line ends are lost between single quotes. -/
def allowsQuotes (cs : List Char) : Bool :=
  cs.all isShown && !hasPair isLineEnd isBlankChar cs && !hasPair isBlankChar isLineEnd cs

/-- Blanks at the end of a line would not be seen in a block. -/
def allowsBlock (cs : List Char) : Bool :=
  cs.all isShown && !cs.getLast?.any isBlankChar && !hasPair isBlankChar isLineEnd cs

/-- Whether a plain scalar of this text would not be text. -/
def isAmbiguous (s : String) : Bool :=
  match Scalar.ofPlain s with
  | .text _ => isZeroLed s.toList
  | _ => true

inductive Quoting where
  | plain
  | single
  | double
  | block
  deriving DecidableEq

/-- How a string is written. There are no blocks in a key that stands on one line with its
value. -/
def Quoting.ofString (lineKey : Bool) (s : String) : Quoting :=
  let cs := s.toList
  if cs.contains '\n' then if allowsBlock cs && !lineKey then .block else .double
  else if allowsPlain cs && !isAmbiguous s then .plain
  else if allowsQuotes cs && !(lineKey && cs.any isLineEnd) then .single
  else .double

def upperHex (width n : Nat) : List Char :=
  let digits := (Nat.toDigits 16 n).map Char.toUpper
  List.replicate (width - digits.length) '0' ++ digits

def escapeLetters : List (Nat × Char) :=
  [(0x00, '0'), (0x07, 'a'), (0x08, 'b'), (0x09, 't'), (0x0a, 'n'), (0x0b, 'v'), (0x0c, 'f'),
    (0x0d, 'r'), (0x1b, 'e'), (0x22, '"'), (0x5c, '\\'), (0x85, 'N'), (0xa0, '_'),
    (0x2028, 'L'), (0x2029, 'P')]

def escaped (c : Char) : List Char :=
  match escapeLetters.lookup c.toNat with
  | some letter => ['\\', letter]
  | none =>
    if c.toNat ≤ 0xff then '\\' :: 'x' :: upperHex 2 c.toNat
    else if c.toNat ≤ 0xffff then '\\' :: 'u' :: upperHex 4 c.toNat
    else '\\' :: 'U' :: upperHex 8 c.toNat

def doubleQuoted (cs : List Char) : List Char :=
  '"' :: (cs.flatMap fun c =>
    if !isShown c || isLineEnd c || c = '"' || c = '\\' then escaped c else [c]) ++ ['"']

/-- Lines of a block or of quoted text: line ends are kept, and what follows them is indented.
`fresh` says whether a line has just begun. -/
def indented (depth : Nat) (fresh : Bool) : List Char → List Char
  | [] => []
  | c :: cs =>
    if isLineEnd c then c :: indented depth true cs
    else (if fresh then List.replicate depth ' ' else []) ++ c :: indented depth false cs

def singleQuoted (depth : Nat) (cs : List Char) : List Char :=
  let doubled := cs.flatMap fun c => if c = '\'' then ['\'', '\''] else [c]
  '\'' :: indented depth false doubled ++
    (if cs.getLast?.any isLineEnd then List.replicate depth ' ' else []) ++ ['\'']

/-- What a block says about line ends at its end: none, one, or more. -/
def blockEnd (cs : List Char) : List Char :=
  match cs.reverse with
  | last :: rest =>
    if !isLineEnd last then ['-'] else if rest.head?.all isLineEnd then ['+'] else []
  | [] => ['-']

/-- A block says how deep it is where its first line starts with a blank. -/
def blockDepth (cs : List Char) : List Char :=
  if cs.head?.any fun c => c = ' ' || isLineEnd c then ['2'] else []

def block (depth : Nat) (cs : List Char) : List Char :=
  '|' :: (blockDepth cs ++ blockEnd cs ++ '\n' :: indented depth true cs)

def stringChars (lineKey : Bool) (depth : Nat) (s : String) : List Char :=
  match Quoting.ofString lineKey s with
  | .plain => s.toList
  | .single => singleQuoted depth s.toList
  | .double => doubleQuoted s.toList
  | .block => block depth s.toList

def numberChars : Json.Number → List Char
  | .whole n => integerText n
  | .float f => f.write floatLayout

/-- Keys that share a line with what belongs to them: short ones of one line. -/
def isLineKey (key : String) : Bool := !key.toList.any isLineEnd && key.utf8ByteSize ≤ 128

inductive Lead where
  /-- The start of the document. -/
  | start
  /-- The dash of an item, or the mark of a long key or of its value. -/
  | mark
  /-- A key and its colon. -/
  | key
  deriving DecidableEq

/-- A new line, unless one has just begun. -/
def endLine (cs : List Char) : List Char :=
  if cs.getLast?.all isLineEnd then cs else cs ++ ['\n']

def Lead.space : Lead → List Char
  | .start => []
  | _ => [' ']

/-- What comes between a lead at `depth` and a collection that is `inner` deep. -/
def Lead.opening (lead : Lead) (inner : Nat) : List Char :=
  match lead with
  | .start => []
  | .mark => [' ']
  | .key => '\n' :: List.replicate inner ' '

def Lead.mappingDepth (lead : Lead) (depth : Nat) : Nat :=
  match lead with
  | .start => 0
  | _ => depth + 2

/-- Sequences in mappings stand as deep as their keys. -/
def Lead.sequenceDepth (lead : Lead) (depth : Nat) : Nat :=
  match lead with
  | .start => 0
  | .mark => depth + 2
  | .key => depth

def Lead.scalarDepth (lead : Lead) (depth : Nat) : Nat :=
  match lead with
  | .start => 2
  | _ => depth + 2

def keyChars (depth : Nat) (key : String) : List Char :=
  if isLineKey key then stringChars true (depth + 2) key ++ [':']
  else
    endLine ('?' :: ' ' :: stringChars false (depth + 2) key) ++
      List.replicate depth ' ' ++ [':']

def Lead.ofKey (key : String) : Lead := if isLineKey key then .key else .mark

mutual

/-- The text of a value behind its lead, in a collection that is `depth` deep. -/
def chars (lead : Lead) (depth : Nat) : Json → List Char
  | .null => lead.space ++ "null".toList
  | .bool b => lead.space ++ (if b then "true" else "false").toList
  | .number n => lead.space ++ numberChars n
  | .string s => lead.space ++ stringChars false (lead.scalarDepth depth) s
  | .array [] => lead.space ++ ['[', ']']
  | .array (item :: items) =>
    let inner := lead.sequenceDepth depth
    lead.opening inner ++ itemChars inner (item :: items)
  | .object [] => lead.space ++ ['\x7b', '\x7d']
  | .object (member :: members) =>
    let inner := lead.mappingDepth depth
    lead.opening inner ++ memberChars inner (member :: members)

def itemChars (depth : Nat) : List Json → List Char
  | [] => []
  | [item] => '-' :: chars .mark depth item
  | item :: items =>
    endLine ('-' :: chars .mark depth item) ++ List.replicate depth ' ' ++ itemChars depth items

def memberChars (depth : Nat) : List (String × Json) → List Char
  | [] => []
  | [(key, value)] => keyChars depth key ++ chars (.ofKey key) depth value
  | (key, value) :: members =>
    endLine (keyChars depth key ++ chars (.ofKey key) depth value) ++
      List.replicate depth ' ' ++ memberChars depth members

end

def write (value : Json) : String := String.ofList (endLine (chars .start 0 value))

end Reshape.Yaml
