import Reshape.Pattern.Expr

namespace Reshape.Pattern

/-- Ranges of bytes, one for each byte of an encoded character. -/
abbrev ByteRanges := List (Nat × Nat)

/-- The bytes of the codes from one to another, as ranges: `more` bytes follow the first one, whose
mark comes on top of its digits. Codes that fill a block of those with the same first byte take one
list for the whole block. -/
def encoded (mark : Nat) : Nat → Nat → Nat → List ByteRanges
  | 0, first, last => [[(mark + first, mark + last)]]
  | more + 1, first, last =>
    let block := 64 ^ (more + 1)
    let low := first / block
    let high := last / block
    let within (digit first last : Nat) : List ByteRanges :=
      (encoded 0x80 more first last).map ((mark + digit, mark + digit) :: ·)
    if low = high then within low (first % block) (last % block)
    else
      let filled := if first % block = 0 then low else low + 1
      let full := if last % block = block - 1 then high + 1 else high
      (if filled = low then [] else within low (first % block) (block - 1)) ++
        (if filled < full then
          [(mark + filled, mark + full - 1) :: List.replicate (more + 1) (0x80, 0xbf)]
        else []) ++
        (if full = high then within high 0 (last % block) else [])

/-- Codes by the length of their encoding: the first and the last one, how many bytes follow the
first byte, and its mark. No character has a code between `0xd7ff` and `0xe000`. -/
def encodings : List (Nat × Nat × Nat × Nat) := [
  (0, 0x7f, 0, 0),
  (0x80, 0x7ff, 1, 0xc0),
  (0x800, 0xd7ff, 2, 0xe0),
  (0xe000, 0xffff, 2, 0xe0),
  (0x10000, 0x10ffff, 3, 0xf0)]

def CharSet.encoded (s : CharSet) : List ByteRanges :=
  s.spans.flatMap fun (first, last) => encodings.flatMap fun (least, greatest, more, mark) =>
    if max first least ≤ min last greatest then
      Pattern.encoded mark more (max first least) (min last greatest)
    else []

def common : ByteRanges → ByteRanges → Nat
  | a :: as, b :: bs => if a = b then common as bs + 1 else 0
  | _, _ => 0

/-- How many states read a list of byte ranges, the states for a common start being the same. -/
def states (before : ByteRanges) : List ByteRanges → Nat
  | [] => 0
  | r :: rest => r.length - common before r + states r rest

def stateBytes : Nat := 32

/-- A state with several ways to go on, each of which has a number of four bytes. -/
def forkBytes (ways : Nat) : Nat := stateBytes + 4 * ways

/-- What a set takes in an automaton that reads text backwards, which is the larger one of the two
that are made of a pattern. A single character is read byte by byte; ASCII characters take one
state and eight bytes a range; all others are ways to go on that meet again in one state. -/
def CharSet.bytes (s : CharSet) : Nat :=
  match s.spans with
  | [] => 2 * stateBytes
  | [(first, last)] =>
    if first = last then (Char.ofNat first).utf8Size * stateBytes
    else if last < 0x80 then 2 * stateBytes
    else wide
  | spans => if spans.all (·.2 < 0x80) then 2 * stateBytes + 8 * spans.length else wide
where
  wide : Nat := states [] s.encoded * stateBytes + stateBytes + forkBytes s.encoded.length

namespace Expr

mutual

def bytes : Expr → Nat
  | empty | look _ => stateBytes
  | set s => s.bytes
  | group none inner => bytes inner
  | group (some _) inner => bytes inner + 2 * stateBytes
  | concat parts => bytesOfParts parts
  | alternatives branches =>
    bytesOfParts branches + forkBytes branches.length + stateBytes
  | repetition inner least none _ => max least 1 * bytes inner + forkBytes 2
  | repetition inner least (some most) _ =>
    let once := bytes inner
    least * once +
      if least < most then (most - least) * (once + forkBytes 2) + stateBytes else 0

def bytesOfParts : List Expr → Nat
  | [] => 0
  | part :: parts => bytes part + bytesOfParts parts

end

def maxBytes : Nat := 10 * 1024 * 1024

/-- What the end of a match takes, and what makes a search start at every place. -/
def searchBytes : Nat := 4 * stateBytes + forkBytes 2

def isSmall (e : Expr) : Bool := (group (some 0) e).bytes + searchBytes ≤ maxBytes

end Expr

end Reshape.Pattern
