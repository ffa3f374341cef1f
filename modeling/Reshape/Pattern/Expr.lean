import Reshape.Pattern.CharSet

namespace Reshape.Pattern

inductive Border where
  | boundary
  | inside
  | start
  | finish
  /-- What stands before is no part of a word. -/
  | startHalf
  /-- What follows is no part of a word. -/
  | finishHalf
  deriving DecidableEq

inductive Assertion where
  | textStart
  | textEnd
  /-- Behind a line end; with `returns` those are `\r`, `\n` and `\r\n`. -/
  | lineStart (returns : Bool)
  | lineEnd (returns : Bool)
  | border (ascii : Bool) (kind : Border)
  deriving DecidableEq

inductive Expr where
  | empty
  | set (s : CharSet)
  | look (a : Assertion)
  /-- A group, which has a number if what it matches is kept. -/
  | group (index : Option Nat) (inner : Expr)
  | concat (parts : List Expr)
  | alternatives (branches : List Expr)
  /-- At least `least` times, and at most `most` times if there is a limit. -/
  | repetition (inner : Expr) (least : Nat) (most : Option Nat) (greedy : Bool)

def inWord (ascii : Bool) (c : Option Char) : Bool :=
  c.any (if ascii then CharSet.asciiWord else CharSet.word).contains

def Border.holds (kind : Border) (before after : Bool) : Bool :=
  match kind with
  | .boundary => before != after
  | .inside => before == after
  | .start => !before && after
  | .finish => before && !after
  | .startHalf => !before
  | .finishHalf => !after

/-- Whether an assertion holds between two characters, of which either may be missing. -/
def Assertion.holds (a : Assertion) (before after : Option Char) : Bool :=
  match a with
  | .textStart => before.isNone
  | .textEnd => after.isNone
  | .lineStart false => before.isNone || before = some '\n'
  | .lineStart true =>
    before.isNone || before = some '\n' || (before = some '\r' && after ≠ some '\n')
  | .lineEnd false => after.isNone || after = some '\n'
  | .lineEnd true =>
    after.isNone || after = some '\r' || (after = some '\n' && before ≠ some '\r')
  | .border ascii kind => kind.holds (inWord ascii before) (inWord ascii after)

namespace Expr

def ofParts : List Expr → Expr
  | [] => empty
  | [part] => part
  | parts => concat parts

def ofBranches : List Expr → Expr
  | [branch] => branch
  | branches => alternatives branches

mutual

def depth : Expr → Nat
  | empty | set _ | look _ => 0
  | group _ inner => depth inner + 1
  | concat parts => depthOfAll parts + 1
  | alternatives branches => depthOfAll branches + 1
  | repetition inner _ _ _ => depth inner + 1

def depthOfAll : List Expr → Nat
  | [] => 0
  | part :: parts => max (depth part) (depthOfAll parts)

end

end Expr

end Reshape.Pattern
