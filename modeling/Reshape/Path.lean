import Reshape.Container
import Reshape.Number.Text

namespace Reshape

namespace Path

/-- One step of a path. An index keeps its digits, since a map may have them as a key. -/
inductive Segment where
  | key (name : String)
  | index (position : Nat) (digits : String)
  deriving DecidableEq, Inhabited

namespace Segment

/-- Positions fit 64 bits; longer runs of digits are keys. -/
def ofText (text : List Char) : Segment :=
  if !text.isEmpty && text.all Text.isAsciiDigit && (digitsValue text : Int) ≤ maxUInt64 then
    .index (digitsValue text) (String.ofList text)
  else .key (String.ofList text)

def text : Segment → String
  | .key name => name
  | .index _ digits => digits

/-- An index is a position first and a key second. -/
def lookup (segment : Segment) (c : Container) : Option Json :=
  match segment with
  | .key name => c.key? name
  | .index position digits => (c.index? position).or (c.key? digits)

end Segment

end Path

structure Path where
  segments : List Path.Segment
  deriving DecidableEq, Inhabited

namespace Path

inductive Fault where
  | emptyPath
  | emptySegment
  deriving DecidableEq

def Fault.message : Fault → String
  | .emptyPath => "Empty path"
  | .emptySegment => "Empty path segment"

def isDot (c : Char) : Bool := c = '.'

def emptyPart? : List (List Char) → Option (List Char)
  | [] => none
  | part :: parts =>
    if part.isEmpty then some (Text.joinWith ['.'] (part :: parts)) else emptyPart? parts

/-- Takes a path apart at its dots, whatever the parts are. -/
def splitAtDots (text : List Char) : Path := ⟨(Text.splitBy isDot text).map Segment.ofText⟩

/-- A path whose parts are all there. A fault comes with the rest of the text from where it is. -/
def parse (text : List Char) : Except (Fault × List Char) Path :=
  if text.isEmpty then .error (.emptyPath, text)
  else match emptyPart? (Text.splitBy isDot text) with
    | some place => .error (.emptySegment, place)
    | none => .ok (splitAtDots text)

/-- The path of exactly one key, dots and all. -/
def ofKey (key : String) : Path := ⟨[.key key]⟩

def follow : List Segment → Json → Option Json
  | [], value => some value
  | segment :: segments, value => (segment.lookup value).bind (follow segments)

/-- The value a path leads to, if any. The path without segments leads nowhere. -/
def resolve (path : Path) (c : Container) : Option Json :=
  match path.segments with
  | [] => none
  | segment :: segments => (segment.lookup c).bind (follow segments)

def chars (path : Path) : List Char :=
  Text.joinWith ['.'] (path.segments.map fun segment => segment.text.toList)

def text (path : Path) : String := String.ofList path.chars

end Path

/-- Looks a path text up in a container; a text that is no path leads nowhere. -/
def Container.resolve (c : Container) (path : String) : Option Json :=
  (Path.splitAtDots path.toList).resolve c

/-- Whether a path text leads to a value, null included. -/
def Container.has (c : Container) (path : String) : Bool := (c.resolve path).isSome

end Reshape
