import Reshape.Number.Text
import Reshape.Pattern.Reader
import Reshape.Pattern.Search

namespace Reshape

structure Pattern where
  program : Pattern.Program
  names : List (String × Nat)

namespace Pattern

/-- Reads a pattern, unless it is none or its automaton would be too large. -/
def ofText? (cs : List Char) : Option Pattern := do
  let (e, names) ← readExpr? cs
  return ⟨← e.program?, names⟩

inductive Part where
  | text (c : Char)
  | group (index : Nat)
  | named (name : String)

namespace Part

def isNameChar (c : Char) : Bool := Text.isAsciiAlphanumeric c || c = '_'

/-- A name of digits is the number of a group, one below `2 ^ 64`. -/
def ofName (name : List Char) : Part :=
  match readUInt64? name with
  | some n => .group n.toNat
  | none => .named (String.ofList name)

/-- The name behind a dollar sign: as many characters of names as there are, or all between
braces. -/
def name? (cs : List Char) : Option (List Char × List Char) :=
  match cs with
  | '{' :: rest =>
    match rest.dropWhile (· ≠ '}') with
    | _ :: behind => some (rest.takeWhile (· ≠ '}'), behind)
    | [] => none
  | _ =>
    let name := cs.takeWhile isNameChar
    if name.isEmpty then none else some (name, cs.dropWhile isNameChar)

theorem length_of_name? {cs name rest : List Char} (h : name? cs = some (name, rest)) :
    rest.length ≤ cs.length := by
  unfold name? at h
  split at h
  · next tail =>
    split at h
    · next behind heq =>
      have := (List.dropWhile_suffix (l := tail) (· ≠ '}')).length_le
      simp only [heq, List.length_cons] at this
      simp only [Option.some.injEq, Prod.mk.injEq] at h
      simp only [List.length_cons, ← h.2]
      omega
    · exact absurd h (by simp)
  · simp only at h
    split at h
    · exact absurd h (by simp)
    · simp only [Option.some.injEq, Prod.mk.injEq] at h
      rw [← h.2]
      exact (List.dropWhile_suffix (l := cs) isNameChar).length_le

/-- Reads a replacement. A dollar sign that names nothing stands for itself. -/
def read : List Char → List Part
  | [] => []
  | '$' :: '$' :: rest => .text '$' :: read rest
  | '$' :: rest =>
    match _h : name? rest with
    | some (name, behind) => ofName name :: read behind
    | none => .text '$' :: read rest
  | c :: rest => .text c :: read rest
termination_by cs => cs.length
decreasing_by
  · simp only [List.length_cons]; omega
  · have := length_of_name? _h
    simp only [List.length_cons]; omega
  · simp
  · simp

end Part

/-- What a group matched; nothing if it took no part in the match. -/
def groupText (places : Places) (text : List Char) (index : Nat) : List Char :=
  match places.lookup (2 * index), places.lookup (2 * index + 1) with
  | some start, some finish => (text.take finish).drop start
  | _, _ => []

def expand (p : Pattern) (parts : List Part) (places : Places) (text : List Char) :
    List Char :=
  parts.flatMap fun part => match part with
    | .text c => [c]
    | .group index => groupText places text index
    | .named name => match p.names.lookup name with
      | some index => groupText places text index
      | none => []

/-- Replaces every match in the rest of a text; `before` is the character in front of it. Matches do
not overlap, and an empty match does not follow another match at once: `barred` tells that there
was one right before. Behind an empty match one character is kept as it is. -/
def replaceFrom (p : Pattern) (parts : List Part) (before : Option Char) (barred : Bool)
    (text : List Char) : List Char :=
  match p.program.search before text with
  | none => text
  | some places =>
    let start := (places.lookup 0).getD 0
    let finish := (places.lookup 1).getD 0
    let isEmpty := !(start < finish : Bool)
    -- at least one character, so that the text gets shorter
    let taken := max (start + 1) finish
    let written := if isEmpty && barred && start = 0 then [] else p.expand parts places text
    let front := text.take start ++ written ++ (if isEmpty then (text.drop start).take 1 else [])
    if _h : taken ≤ text.length then
      front ++ replaceFrom p parts text[taken - 1]? (!isEmpty) (text.drop taken)
    else front
termination_by text.length
decreasing_by
  simp only [List.length_drop]
  omega

def replaceAll (p : Pattern) (replacement text : List Char) : List Char :=
  p.replaceFrom (Part.read replacement) none false text

end Pattern

end Reshape
