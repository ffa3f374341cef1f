import Reshape.Log.Event
import Reshape.Text.Property
import Reshape.Text.Basic

namespace Reshape.Log

/-- How much is shown of the events whose target starts with a text. -/
structure Directive where
  target : Option String
  detail : Nat
  deriving DecidableEq

namespace Directive

def levels : List (String × Nat) := [
  ("off", 0), ("error", 1), ("warn", 2), ("info", 3), ("debug", 4), ("trace", 5),
  ("0", 0), ("1", 1), ("2", 2), ("3", 3), ("4", 4), ("5", 5)]

def level? (cs : List Char) : Option Nat := levels.lookup (String.ofList (Text.asciiLower cs))

def isTargetChar (c : Char) : Bool := Text.isAlphanumeric c || c = '_' || c = ':' || c = '-'

def isTarget (cs : List Char) : Bool := !cs.isEmpty && cs.all isTargetChar

/-- A target without a level shows all of it. -/
def ofText? (cs : List Char) : Option Directive :=
  match Text.splitAt? '=' cs with
  | none => match level? cs with
    | some detail => some ⟨none, detail⟩
    | none => if isTarget cs then some ⟨some (String.ofList cs), 5⟩ else none
  | some (target, level) =>
    if isTarget target then
      (if level.isEmpty then some 5 else level? level).map fun detail =>
        -- the name of a level is no target
        ⟨if (level? target).isSome then none else some (String.ofList target), detail⟩
    else none

def covers (directive : Directive) (target : String) : Bool :=
  match directive.target with
  | none => true
  | some start => start.toList.isPrefixOf target.toList

def width (directive : Directive) : Nat :=
  match directive.target with
  | none => 0
  | some start => start.utf8ByteSize + 1

end Directive

abbrev Filter := List Directive

namespace Filter

/-- A text without directives shows errors. -/
def ofText? (text : String) : Option Filter :=
  match (Text.splitBy (· = ',') text.toList).filter (!·.isEmpty) with
  | [] => some [⟨none, 1⟩]
  | parts => parts.mapM Directive.ofText?

/-- The directive for a target: the one that names it most closely, and of such ones the last. -/
def closest? (filter : Filter) (target : String) : Option Directive :=
  (filter.filter (·.covers target)).foldl (fun best directive => match best with
    | some b => if b.width ≤ directive.width then some directive else some b
    | none => some directive) none

def shows (filter : Filter) (event : Event) : Bool :=
  match filter.closest? event.origin.target with
  | some directive => event.level.detail ≤ directive.detail
  | none => false

end Filter

end Reshape.Log
