import Reshape.Pattern.Expr
import Reshape.Pattern.Property

namespace Reshape.Pattern

structure Modes where
  caseless : Bool := false
  multiLine : Bool := false
  dotAll : Bool := false
  swapGreed : Bool := false
  returns : Bool := false
  /-- Blanks and comments in the pattern mean nothing. -/
  spaced : Bool := false
  ascii : Bool := false

/-- Whatever stands alone for one character or one place. -/
inductive Primitive where
  | literal (c : Char)
  | set (s : CharSet)
  | look (a : Assertion)

namespace Modes

/-- The text behind blanks and comments, in spaced mode. -/
def skip (modes : Modes) (cs : List Char) : List Char :=
  if modes.spaced then skipped false cs else cs
where
  skipped (comment : Bool) : List Char → List Char
    | [] => []
    | c :: cs =>
      if comment then skipped (c ≠ '\n') cs
      else if Text.isBlank c then skipped false cs
      else if c = '#' then skipped true cs
      else c :: cs

theorem length_skipped_le (comment : Bool) (cs : List Char) :
    (skip.skipped comment cs).length ≤ cs.length := by
  induction cs generalizing comment with
  | nil => simp [skip.skipped]
  | cons c cs ih =>
    unfold skip.skipped
    split
    · exact Nat.le_succ_of_le (ih _)
    · split
      · exact Nat.le_succ_of_le (ih _)
      · split
        · exact Nat.le_succ_of_le (ih _)
        · exact Nat.le_refl _

theorem length_skip_le (modes : Modes) (cs : List Char) : (modes.skip cs).length ≤ cs.length := by
  unfold skip
  split
  · exact length_skipped_le false cs
  · exact Nat.le_refl _

end Modes

def isHexDigit (c : Char) : Bool := Text.isAsciiDigit c || ('a' ≤ c && c ≤ 'f') ||
  ('A' ≤ c && c ≤ 'F')

def characterOf? (digits : List Char) : Option Char :=
  let code := Text.Ranges.hexNumber (Text.asciiLower digits)
  if code < 0xd800 || (0xe000 ≤ code && code < 0x110000) then some (Char.ofNat code) else none

def hexDigits? (modes : Modes) : Nat → List Char → Option (List Char × List Char)
  | 0, cs => some ([], cs)
  | n + 1, c :: cs =>
    if isHexDigit c then
      (hexDigits? modes n (modes.skip cs)).map fun (digits, rest) => (c :: digits, rest)
    else none
  | _ + 1, [] => none

def upToBrace? (modes : Modes) : List Char → Option (List Char × List Char)
  | [] => none
  | '}' :: rest => some ([], rest)
  | c :: rest =>
    (upToBrace? modes rest).map fun (text, rest) =>
      (if modes.spaced && Text.isBlank c then text else c :: text, rest)

/-- The character of a hexadecimal escape, from behind its letter on. A code of two digits beyond
ASCII would be a byte, which a pattern for ASCII cannot name. -/
def hexEscape? (modes : Modes) (size : Nat) (cs : List Char) : Option (Char × List Char) :=
  match modes.skip cs with
  | '{' :: rest => do
    let (digits, rest) ← upToBrace? modes rest
    if digits.isEmpty || !digits.all isHexDigit then none
    else return (← characterOf? digits, rest)
  | cs => do
    let (digits, rest) ← hexDigits? modes size cs
    let c ← characterOf? digits
    if modes.ascii && size = 2 && !Text.isAscii c then none else return (c, rest)

def propertyEscape? (modes : Modes) (cs : List Char) : Option (CharSet × List Char) :=
  if modes.ascii then none
  else match modes.skip cs with
    | '{' :: rest => do
      let (text, rest) ← upToBrace? modes rest
      return (← Property.described? text, rest)
    | '\\' :: _ => none
    | c :: rest => do return (← Property.named? [c], rest)
    | [] => none

def borders : List (String × Border) := [
  ("start", .start), ("end", .finish), ("start-half", .startHalf), ("end-half", .finishHalf)]

def isBorderChar (c : Char) : Bool := Text.isAsciiLetter c || c = '-'

/-- A place at a word, from behind `\b` on, which a name in braces may say more about. Braces that
hold no name are a count. -/
def borderEscape? (modes : Modes) (cs : List Char) : Option (Border × List Char) :=
  match cs with
  | '{' :: rest =>
    match modes.skip rest with
    | [] => none
    | c :: inner =>
      if isBorderChar c then do
        let (text, rest) ← upToBrace? modes (c :: inner)
        return (← borders.lookup (String.ofList text), rest)
      else some (.boundary, cs)
  | _ => some (.boundary, cs)

def isMeta (c : Char) : Bool := "\\.+*?()|[]\x7b\x7d^$#&-~".toList.contains c

def isEscapable (c : Char) : Bool :=
  isMeta c || (Text.isAscii c && !Text.isAsciiAlphanumeric c && c ≠ '<' && c ≠ '>')

def controls : List (Char × Char) := [
  ('a', Char.ofNat 7), ('f', Char.ofNat 12), ('t', '\t'), ('n', '\n'), ('r', '\r'),
  ('v', Char.ofNat 11)]

def letterSet? (modes : Modes) (c : Char) : Option CharSet :=
  match c with
  | 'd' => some (if modes.ascii then .asciiDigit else .digit)
  | 's' => some (if modes.ascii then .asciiBlank else .blank)
  | 'w' => some (if modes.ascii then .asciiWord else .word)
  | _ => none

/-- The set of a letter; a capital means all that its small letter does not. -/
def classOf? (modes : Modes) (c : Char) : Option CharSet :=
  if Text.isAsciiUpper c then (letterSet? modes (Text.asciiLowerChar c)).map CharSet.not
  else letterSet? modes c

def escape? (modes : Modes) (cs : List Char) : Option (Primitive × List Char) :=
  match cs with
  | [] => none
  | 'x' :: rest => literal (hexEscape? modes 2 rest)
  | 'u' :: rest => literal (hexEscape? modes 4 rest)
  | 'U' :: rest => literal (hexEscape? modes 8 rest)
  | 'p' :: rest => (propertyEscape? modes rest).map fun (s, rest) => (.set (folded s), rest)
  | 'P' :: rest =>
    (propertyEscape? modes rest).map fun (s, rest) => (.set (.not (folded s)), rest)
  | 'A' :: rest => some (.look .textStart, rest)
  | 'z' :: rest => some (.look .textEnd, rest)
  | 'b' :: rest =>
    (borderEscape? modes rest).map fun (kind, rest) => (.look (.border modes.ascii kind), rest)
  | 'B' :: rest => some (.look (.border modes.ascii .inside), rest)
  | '<' :: rest => some (.look (.border modes.ascii .start), rest)
  | '>' :: rest => some (.look (.border modes.ascii .finish), rest)
  | c :: rest =>
    match classOf? modes c with
    | some s => some (.set s, rest)
    | none =>
      if isEscapable c then some (.literal c, rest)
      else (controls.lookup c).map fun control => (.literal control, rest)
where
  literal (found : Option (Char × List Char)) : Option (Primitive × List Char) :=
    found.map fun (c, rest) => (.literal c, rest)
  folded (s : CharSet) : CharSet := if modes.caseless then .caseless false s else s

/-- A number, which blanks may surround, below `2 ^ 32`. -/
def decimal? (modes : Modes) (cs : List Char) : Option (Nat × List Char) :=
  let (digits, rest) := digitsOf modes (cs.dropWhile Text.isBlank)
  let value := digits.foldl (fun n c => n * 10 + (c.toNat - 48)) 0
  if digits.isEmpty || 0xffffffff < value then none else some (value, blanks modes rest)
where
  digitsOf (modes : Modes) : List Char → List Char × List Char
    | [] => ([], [])
    | c :: cs =>
      if Text.isAsciiDigit c then
        let (digits, rest) := digitsOf modes cs
        (c :: digits, rest)
      else if modes.spaced && Text.isBlank c then digitsOf modes cs
      else ([], c :: cs)
  blanks (modes : Modes) (cs : List Char) : List Char :=
    modes.skip (cs.dropWhile Text.isBlank)

end Reshape.Pattern
