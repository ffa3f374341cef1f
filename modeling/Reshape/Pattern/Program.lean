import Reshape.Pattern.Memory

namespace Reshape.Pattern

inductive Step where
  | take (s : CharSet)
  | look (a : Assertion)
  | keep (slot : Nat)
  | go (next : Nat)
  | fork (first second : Nat)
  | accept

abbrev Program := Array Step

namespace Expr

mutual

def size : Expr → Nat
  | empty => 0
  | set _ => 1
  | look _ => 1
  | group none inner => size inner
  | group (some _) inner => size inner + 2
  | concat parts => sizeOfParts parts
  | alternatives branches => sizeOfBranches branches
  | repetition inner least none _ =>
    if least = 0 then size inner + 2 else least * size inner + 1
  | repetition inner least (some most) _ =>
    least * size inner + (most - least) * (size inner + 1)

def sizeOfParts : List Expr → Nat
  | [] => 0
  | part :: parts => size part + sizeOfParts parts

/-- Every branch but the last has a fork in front and a way out behind it. -/
def sizeOfBranches : List Expr → Nat
  | [] => 0
  | [branch] => size branch
  | branch :: branches => size branch + 2 + sizeOfBranches branches

end

def prefer (greedy : Bool) (inside past : Nat) : Step :=
  if greedy then .fork inside past else .fork past inside

mutual

def emit (e : Expr) (p : Program) : Program :=
  match e with
  | empty => p
  | set s => p.push (.take s)
  | look a => p.push (.look a)
  | group none inner => emit inner p
  | group (some index) inner =>
    (emit inner (p.push (.keep (2 * index)))).push (.keep (2 * index + 1))
  | concat parts => emitParts parts p
  | alternatives branches => emitBranches branches (p.size + sizeOfBranches branches) p
  | repetition inner least none greedy =>
    if least = 0 then
      let start := p.size
      let past := start + size inner + 2
      (emit inner (p.push (prefer greedy (start + 1) past))).push
        (prefer greedy (start + 1) past)
    else
      -- only the last of the copies is gone through again
      let start := p.size + (least - 1) * size inner
      (least.repeat (emit inner) p).push (prefer greedy start (start + size inner + 1))
  | repetition inner least (some most) greedy =>
    let p := least.repeat (emit inner) p
    let past := p.size + (most - least) * (size inner + 1)
    (most - least).repeat (fun p => emit inner (p.push (prefer greedy (p.size + 1) past))) p

def emitParts : List Expr → Program → Program
  | [], p => p
  | part :: parts, p => emitParts parts (emit part p)

/-- Branches one after another; `past` is where all of them go on. -/
def emitBranches : List Expr → Nat → Program → Program
  | [], _, p => p
  | [branch], _, p => emit branch p
  | branch :: branches, past, p =>
    let second := p.size + size branch + 2
    emitBranches branches past
      ((emit branch (p.push (.fork (p.size + 1) second))).push (.go past))

end

/-- The program of a pattern, which keeps the ends of the whole match as those of group zero. -/
def program? (e : Expr) : Option Program :=
  if e.isSmall then some ((emit (.group (some 0) e) #[]).push .accept) else none

end Expr

end Reshape.Pattern
