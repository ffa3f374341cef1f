import Reshape.Filter.Arguments
import Reshape.Words

namespace Reshape.Filter

def trim : Filter := fun value arguments =>
  .ok (match text? arguments 0 with
    | some set => onString (Text.trimBy set.contains) value
    | none => onString Text.trim value)

/-- Arguments are looked at before the value, so that a wrong one is refused whatever the value is.
-/
def replace : Filter := fun value arguments => do
  let mark ← text "replace" arguments 0
  let other := (text? arguments 1).getD []
  match mark with
  | [] => throw .emptySearch
  | m :: mark => return onString (Text.replaceEach m mark other) value

/-- The part of a text from `start` on, of at most the given length. A negative start counts from
the end. -/
def slice (start : Int) (length : Option Int) (s : List Char) : List Char :=
  let size : Int := s.length
  let first := if start < 0 then max (size + start) 0 else min start size
  (s.drop first.toNat).take (length.getD (size - first)).toNat

def substr : Filter := fun value arguments => do
  let start ← integer? "substr" arguments 0
  let length ← integer? "substr" arguments 1
  if length.any (· < 0) then throw .negativeLength
  return onString (slice (start.getD 0) length) value

/-- A text of at most `size` characters, or its first ones and an end mark. -/
def cut (size : Nat) (mark s : List Char) : List Char :=
  if s.length ≤ size then s else s.take size ++ mark

def limit : Filter := fun value arguments => do
  let size ← integer "limit" arguments 0
  if size < 0 then throw .negativeLimit
  return onString (cut size.toNat ((text? arguments 1).getD ['.', '.', '.'])) value

def prepend : Filter := fun value arguments => do
  let front ← text "prefix" arguments 0
  return onText (front ++ ·) value

def append : Filter := fun value arguments => do
  let back ← text "suffix" arguments 0
  return onText (· ++ back) value

def padded (width : Nat) (fill : Char) (s : List Char) : List Char :=
  List.replicate (width - s.length) fill ++ s

def padLeft : Filter := fun value arguments => do
  let width ← integer "pad_left" arguments 0
  let fill := ((text? arguments 1).bind List.head?).getD ' '
  return onText (padded width.toNat fill) value

def texts : List (String × Filter) := [
  ("trim", trim),
  ("ltrim", plain (onString Text.trimStart)),
  ("rtrim", plain (onString Text.trimEnd)),
  ("lower", plain (onString Text.lower)),
  ("upper", plain (onString Text.upper)),
  ("ucfirst", plain (onString Words.upperFirst)),
  ("lcfirst", plain (onString Words.lowerFirst)),
  ("ucwords", plain (onString Words.title)),
  ("snake", plain (onString Words.snake)),
  ("camel", plain (onString Words.camel)),
  ("kebab", plain (onString Words.kebab)),
  ("slug", plain (onString Words.slug)),
  ("replace", replace),
  ("substr", substr),
  ("limit", limit),
  ("prefix", prepend),
  ("suffix", append),
  ("pad_left", padLeft)]

end Reshape.Filter
