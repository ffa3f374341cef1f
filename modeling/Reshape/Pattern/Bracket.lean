import Reshape.Pattern.Primitive

namespace Reshape.Pattern

inductive SetOperator where
  | both
  | without
  | apart

def SetOperator.apply : SetOperator → CharSet → CharSet → CharSet
  | both => .both
  | without => .without
  | apart => .apart

structure Bracket where
  negated : Bool
  left : Option (SetOperator × CharSet) := none
  items : List CharSet := []

namespace Bracket

def add (b : Bracket) (s : CharSet) : Bracket := { b with items := s :: b.items }

def folded (modes : Modes) (s : CharSet) : CharSet :=
  if modes.caseless then .caseless modes.ascii s else s

/-- What the bracket holds so far. Operators apply from left to right. -/
def body (b : Bracket) (modes : Modes) : CharSet :=
  let last := CharSet.unions b.items
  match b.left with
  | some (operator, s) => operator.apply (folded modes s) (folded modes last)
  | none => last

def operate (b : Bracket) (modes : Modes) (operator : SetOperator) : Bracket :=
  { b with left := some (operator, b.body modes), items := [] }

def close (b : Bracket) (modes : Modes) : CharSet :=
  let s := folded modes (b.body modes)
  if b.negated then .not s else s

/-- Hyphens right behind the start stand for themselves. -/
def takeHyphens (modes : Modes) (b : Bracket) : List Char → Bracket × List Char
  | '-' :: cs => takeHyphens modes (b.add (.single '-')) (modes.skip cs)
  | cs => (b, cs)
termination_by cs => cs.length
decreasing_by
  have := modes.length_skip_le cs
  simp only [List.length_cons]
  omega

/-- Starts a bracket, from behind its opening mark on. A closing mark that comes first stands for
itself, so that no bracket is empty. -/
def start (modes : Modes) (cs : List Char) : Bracket × List Char :=
  let (b, rest) : Bracket × List Char := match modes.skip cs with
    | '^' :: rest => (⟨true, none, []⟩, modes.skip rest)
    | rest => (⟨false, none, []⟩, rest)
  match takeHyphens modes b rest with
  | (b, ']' :: rest) => if b.items.isEmpty then (b.add (.single ']'), rest) else (b, ']' :: rest)
  | found => found

def asciiClass? (modes : Modes) (cs : List Char) : Option (CharSet × List Char) :=
  match cs with
  | ':' :: rest =>
    let (negated, rest) := match rest with
      | '^' :: rest => (true, rest)
      | _ => (false, rest)
    match rest.dropWhile (· ≠ ':') with
    | ':' :: ']' :: behind => do
      let s ← Property.asciiClasses.lookup (String.ofList (rest.takeWhile (· ≠ ':')))
      let s := folded modes s
      return (if negated then .not s else s, behind)
    | _ => none
  | _ => none

def primitive? (modes : Modes) (cs : List Char) : Option (Primitive × List Char) := do
  let (found, rest) ← match cs with
    | '\\' :: rest => escape? modes rest
    | c :: rest => some (.literal c, rest)
    | [] => none
  match found with
  | .look _ => none
  | .literal c => if modes.ascii && !Text.isAscii c then none else some (.literal c, rest)
  | .set s => some (.set s, rest)

/-- Whether a hyphen with this behind it joins the ends of a range. -/
def joins (modes : Modes) (behind : List Char) : Bool :=
  match (modes.skip behind).head? with
  | some c => c ≠ ']' && c ≠ '-'
  | none => true

def item? (modes : Modes) (cs : List Char) : Option (CharSet × List Char) := do
  let (found, rest) ← primitive? modes cs
  let rest := modes.skip rest
  let range : Option (List Char) := match rest with
    | '-' :: behind => if joins modes behind then some (modes.skip behind) else none
    | _ => none
  match found, range with
  | .literal first, some behind =>
    match ← primitive? modes behind with
    | (.literal last, rest) => if first ≤ last then some (.span first last, rest) else none
    | _ => none
  | .literal c, none => some (.single c, rest)
  | .set s, none => some (s, rest)
  | _, _ => none

/-- Brackets that are being read: the innermost, and those around it from the inside out. -/
abbrev Nest := Bracket × List Bracket

/-- Takes up one mark or one item. The end of the outermost bracket is the end of the set. -/
def step? (modes : Modes) (nest : Nest) (cs : List Char) :
    Option ((CharSet ⊕ Nest) × List Char) :=
  let (b, outer) := nest
  match modes.skip cs with
  | [] => none
  | ']' :: rest =>
    match outer with
    | [] => some (.inl (b.close modes), rest)
    | parent :: outer => some (.inr (parent.add (b.close modes), outer), rest)
  | '[' :: rest =>
    match asciiClass? modes rest with
    | some (s, rest) => some (.inr (b.add s, outer), rest)
    | none =>
      let (inner, rest) := start modes rest
      some (.inr (inner, b :: outer), rest)
  | '&' :: '&' :: rest => some (.inr (b.operate modes .both, outer), rest)
  | '-' :: '-' :: rest => some (.inr (b.operate modes .without, outer), rest)
  | '~' :: '~' :: rest => some (.inr (b.operate modes .apart, outer), rest)
  | cs => (item? modes cs).map fun (s, rest) => (.inr (b.add s, outer), rest)

def readOn? (modes : Modes) (nest : Nest) (cs : List Char) : Option (CharSet × List Char) :=
  match step? modes nest cs with
  | none => none
  | some (.inl s, rest) => some (s, rest)
  | some (.inr nest, rest) =>
    if rest.length < cs.length then readOn? modes nest rest else none
termination_by cs.length

/-- A set in brackets, from behind its opening mark on. A set for ASCII has to be without all
other characters, which it cannot tell apart. -/
def read? (modes : Modes) (cs : List Char) : Option (CharSet × List Char) := do
  let (b, rest) := start modes cs
  let (s, rest) ← readOn? modes (b, []) rest
  if modes.ascii && s.contains (Char.ofNat 0x80) then none else return (s, rest)

end Bracket

end Reshape.Pattern
