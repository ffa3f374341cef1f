import Reshape.Pattern.Bracket

namespace Reshape.Pattern

structure Scope where
  /-- Branches that are complete, last one first. -/
  branches : List Expr := []
  /-- Items of the open branch, last one first. -/
  items : List Expr := []
  /-- Whether the last item can be repeated. Nothing and a change of modes cannot. -/
  repeatable : Bool := false

namespace Scope

def add (s : Scope) (e : Expr) : Scope := { s with items := e :: s.items, repeatable := true }

def branch (s : Scope) : Expr := .ofParts s.items.reverse

def nextBranch (s : Scope) : Scope := { branches := s.branch :: s.branches }

def close (s : Scope) : Expr := .ofBranches (s.branch :: s.branches).reverse

def repeatLast? (s : Scope) (least : Nat) (most : Option Nat) (greedy : Bool) : Option Scope :=
  match s.repeatable, s.items with
  | true, e :: items => some { s with items := .repetition e least most greedy :: items }
  | _, _ => none

end Scope

/-- What a group stands in, and what holds again behind it. -/
structure Enclosing where
  scope : Scope
  modes : Modes
  index : Option Nat

structure Reading where
  modes : Modes := {}
  scope : Scope := {}
  outer : List Enclosing := []
  groups : Nat := 0
  names : List (String × Nat) := []

namespace Reading

def add (r : Reading) (e : Expr) : Reading := { r with scope := r.scope.add e }

def enter (r : Reading) (index : Option Nat) : Reading :=
  { r with scope := {}, outer := ⟨r.scope, r.modes, index⟩ :: r.outer }

def literal (r : Reading) (c : Char) : Expr :=
  .set (if r.modes.caseless then .caseless r.modes.ascii (.single c) else .single c)

/-- Any character, but for line ends. Of ASCII alone there is no such set, as there would be bytes
in it that are no characters. -/
def dot? (r : Reading) : Option Expr :=
  if r.modes.ascii then none
  else if r.modes.dotAll then some (.set .all)
  else if r.modes.returns then some (.set (.not (.oneOf "\r\n")))
  else some (.set (.not (.single '\n')))

def ofPrimitive? (r : Reading) : Primitive → Option Expr
  | .literal c => some (r.literal c)
  | .look a => some (.look a)
  | .set s => if r.modes.ascii && s.contains (Char.ofNat 0x80) then none else some (.set s)

def isNameStart (c : Char) : Bool := c = '_' || Text.isAlphabetic c

def isNameChar (c : Char) : Bool :=
  c = '_' || c = '.' || c = '[' || c = ']' || Text.isAlphanumeric c

def name? (cs : List Char) : Option (List Char × List Char) :=
  match cs.takeWhile (· ≠ '>'), cs.dropWhile (· ≠ '>') with
  | c :: name, _ :: rest =>
    if isNameStart c && name.all isNameChar then some (c :: name, rest) else none
  | _, _ => none

/-- A named group, from the name on. No two groups have one name. -/
def named? (r : Reading) (cs : List Char) : Option (Reading × List Char) := do
  let (name, rest) ← name? cs
  let name := String.ofList name
  if (r.names.lookup name).isSome then none
  else
    let index := r.groups + 1
    return ({ r with groups := index, names := (name, index) :: r.names }.enter (some index), rest)

def setMode? (modes : Modes) (on : Bool) : Char → Option Modes
  | 'i' => some { modes with caseless := on }
  | 'm' => some { modes with multiLine := on }
  | 's' => some { modes with dotAll := on }
  | 'U' => some { modes with swapGreed := on }
  | 'R' => some { modes with returns := on }
  | 'x' => some { modes with spaced := on }
  | 'u' => some { modes with ascii := !on }
  | _ => none

/-- Reads letters of modes up to a colon or the group's end. `seen` are the marks before; none may
be repeated, and a hyphen needs a letter behind it. -/
def modes? (modes : Modes) (seen : List Char) : List Char → Option (Modes × List Char)
  | [] => none
  | c :: rest =>
    if c = ':' || c = ')' then
      if seen.head? = some '-' then none else some (modes, c :: rest)
    else if seen.contains c then none
    else if c = '-' then modes? modes (c :: seen) rest
    else (setMode? modes (!seen.contains '-') c).bind fun modes => modes? modes (c :: seen) rest

/-- What follows an opening mark. There is no looking ahead and no looking back. -/
def open? (r : Reading) (cs : List Char) : Option (Reading × List Char) :=
  match r.modes.skip cs with
  | '?' :: 'P' :: '<' :: rest => r.named? rest
  | '?' :: '<' :: rest => r.named? rest
  | '?' :: ')' :: _ => none
  | '?' :: rest =>
    match modes? r.modes [] rest with
    | some (modes, ')' :: rest) =>
      -- modes without a colon hold up to the end of the group around them
      some ({ r with modes, scope.repeatable := false }, rest)
    | some (modes, _ :: rest) => some ({ r.enter none with modes }, rest)
    | _ => none
  | rest => some ({ r with groups := r.groups + 1 }.enter (some (r.groups + 1)), rest)

def close? (r : Reading) : Option Reading :=
  match r.outer with
  | [] => none
  | enclosing :: outer =>
    some { r with
      modes := enclosing.modes
      scope := enclosing.scope.add (.group enclosing.index r.scope.close)
      outer }

/-- A mark behind a repetition that makes it prefer few rounds, or many in swapped mode. -/
def greed (r : Reading) : List Char → Bool × List Char
  | '?' :: rest => (r.modes.swapGreed, rest)
  | rest => (!r.modes.swapGreed, rest)

def repeat? (r : Reading) (least : Nat) (most : Option Nat) (cs : List Char) :
    Option (Reading × List Char) := do
  let (greedy, rest) := r.greed cs
  return ({ r with scope := ← r.scope.repeatLast? least most greedy }, rest)

def counted? (r : Reading) (cs : List Char) : Option (Reading × List Char) := do
  let (least, rest) ← decimal? r.modes (r.modes.skip cs)
  match rest with
  | '}' :: rest => r.repeat? least (some least) (r.modes.skip rest)
  | ',' :: rest =>
    match r.modes.skip rest with
    | '}' :: rest => r.repeat? least none (r.modes.skip rest)
    | rest =>
      match ← decimal? r.modes rest with
      | (most, '}' :: rest) =>
        if least ≤ most then r.repeat? least (some most) (r.modes.skip rest) else none
      | _ => none
  | _ => none

def step? (r : Reading) (cs : List Char) : Option (Reading × List Char) :=
  match cs with
  | [] => none
  | '(' :: rest => r.open? rest
  | ')' :: rest => r.close?.map (·, rest)
  | '|' :: rest => some ({ r with scope := r.scope.nextBranch }, rest)
  | '[' :: rest => (Bracket.read? r.modes rest).map fun (s, rest) => (r.add (.set s), rest)
  | '?' :: rest => r.repeat? 0 (some 1) rest
  | '*' :: rest => r.repeat? 0 none rest
  | '+' :: rest => r.repeat? 1 none rest
  | '{' :: rest => r.counted? rest
  | '\\' :: rest => do
    let (found, rest) ← escape? r.modes rest
    return (r.add (← r.ofPrimitive? found), rest)
  | '.' :: rest => r.dot?.map fun e => (r.add e, rest)
  | '^' :: rest =>
    some (r.add (.look (if r.modes.multiLine then .lineStart r.modes.returns else .textStart)),
      rest)
  | '$' :: rest =>
    some (r.add (.look (if r.modes.multiLine then .lineEnd r.modes.returns else .textEnd)), rest)
  | c :: rest => some (r.add (r.literal c), rest)

def run? (r : Reading) (cs : List Char) : Option Reading :=
  match r.modes.skip cs with
  | [] => some r
  | c :: rest =>
    match r.step? (c :: rest) with
    | none => none
    | some (r, rest) => if rest.length < cs.length then run? r rest else none
termination_by cs.length

end Reading

def maxDepth : Nat := 250

def readExpr? (cs : List Char) : Option (Expr × List (String × Nat)) := do
  let r ← Reading.run? {} cs
  let e := r.scope.close
  if r.outer.isEmpty && e.depth ≤ maxDepth then return (e, r.names) else none

end Reshape.Pattern
