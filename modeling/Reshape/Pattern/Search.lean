import Reshape.Pattern.Program

namespace Reshape.Pattern

abbrev Places := List (Nat × Nat)

structure Thread where
  next : Nat
  places : Places := []

/-- Where in a text a program is: the characters on both sides, and how many there are before. -/
structure Spot where
  before : Option Char
  after : Option Char
  position : Nat

namespace Program

/-- The runs that a run goes on as without taking a character, the preferred first; none if it has
to take one, or has come to its end. -/
def forks? (p : Program) (spot : Spot) (t : Thread) : Option (List Thread) :=
  match p[t.next]? with
  | some (.go next) => some [{ t with next }]
  | some (.fork first second) => some [{ t with next := first }, { t with next := second }]
  | some (.keep slot) => some [⟨t.next + 1, (slot, spot.position) :: t.places⟩]
  | some (.look a) =>
    some (if a.holds spot.before spot.after then [{ t with next := t.next + 1 }] else [])
  | some (.take _) | some .accept => none
  | none => some []

/-- Follows runs up to where they take a character or end. A step that was met before is not gone
again: what was there first is preferred. `fresh` counts the steps not met yet. -/
def follow (p : Program) (spot : Spot) (met : Array Bool) (fresh : Nat) (found : List Thread)
    (threads : List Thread) : List Thread :=
  match threads, fresh with
  | [], _ => found.reverse
  | _ :: _, 0 => found.reverse
  | t :: rest, left + 1 =>
    if met[t.next]?.getD true then follow p spot met (left + 1) found rest
    else
      let met := met.set! t.next true
      match p.forks? spot t with
      | some more => follow p spot met left found (more ++ rest)
      | none => follow p spot met left (t :: found) rest
termination_by (fresh, threads.length)

/-- Runs that wait in front of a character, or are at their end. -/
def waiting (p : Program) (spot : Spot) (threads : List Thread) : List Thread :=
  p.follow spot (Array.replicate p.size false) p.size [] threads

/-- Takes a character in every run, up to the first run that is at its end. What comes behind that
one is less preferred than its match. -/
def advance (p : Program) (c : Option Char) : List Thread → List Thread × Option Places
  | [] => ([], none)
  | t :: threads =>
    match p[t.next]? with
    | some .accept => ([], some t.places)
    | some (.take s) =>
      let (moved, found) := advance p c threads
      (if c.any s.contains then { t with next := t.next + 1 } :: moved else moved, found)
    | _ => advance p c threads

/-- Goes on with runs until none is left. As long as nothing was found a new run starts at every
place, after all others. -/
def run (p : Program) (position : Nat) (before : Option Char) (threads : List Thread)
    (best : Option Places) (text : List Char) : Option Places :=
  -- a match that starts further left is preferred to all that start here
  let started := if best.isNone then threads ++ [⟨0, []⟩] else threads
  let (moved, found) := p.advance text.head? (p.waiting ⟨before, text.head?, position⟩ started)
  let best := found.or best
  match text with
  | [] => best
  | c :: rest =>
    if moved.isEmpty && best.isSome then best
    else run p (position + 1) (some c) moved best rest

def search (p : Program) (before : Option Char) (text : List Char) : Option Places :=
  p.run 0 before [] none text

end Program

end Reshape.Pattern
