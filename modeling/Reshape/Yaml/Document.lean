import Reshape.Yaml.Node

namespace Reshape.Yaml

inductive Tree where
  | scalar (tag : Option String) (style : Style) (text : String)
  | sequence (tag : Option String) (items : List Tree)
  | mapping (tag : Option String) (entries : List (Tree × Tree))
  deriving Inhabited

namespace Node

/-- The directives in front of a document, up to its start: the version, once, and handles of
tags, each of which is new. -/
def readDirectives (version : Bool) (handles : Handles) : List Token → Option (Handles × List Token)
  | .version major minor :: rest =>
    if version || major ≠ 1 || (minor ≠ 1 && minor ≠ 2) then none
    else readDirectives true handles rest
  | .handle name text :: rest =>
    if (handles.lookup name).isSome then none
    else readDirectives version ((name, text) :: handles) rest
  | .documentStart :: rest => some (handles ++ defaultHandles, rest)
  | _ => none

/-- Tokens that an explicit document without content can have behind it. -/
def endsDocument : Token → Bool
  | .version _ _ => true
  | .handle _ _ => true
  | .documentStart => true
  | .documentEnd => true
  | _ => false

def isEnd (tokens : List Token) : Bool := tokens.all (· = .documentEnd)

/-- The node of a text that holds at most one document; none inside when it holds no document. -/
def ofTokens? (tokens : List Token) : Option (Option Node) :=
  match tokens with
  | [] => some none
  | token :: rest => do
    let explicit := endsDocument token && token ≠ .documentEnd
    let (handles, tokens) ←
      if explicit then readDirectives false [] (token :: rest)
      else some (defaultHandles, token :: rest)
    if explicit && tokens.head?.all endsDocument then
      if isEnd tokens then return some empty else none
    else
      let (node, ⟨behind, _⟩) ← read handles true false tokens
      if isEnd behind then return some node else none

mutual

/-- How many scalars, aliases, starts and ends a node is written with. -/
def size : Node → Nat
  | .scalar _ _ _ => 1
  | .sequence _ items => sizeOfItems items + 2
  | .mapping _ entries => sizeOfEntries entries + 2
  | .anchored _ node => size node
  | .alias _ => 1

def sizeOfItems : List Node → Nat
  | [] => 0
  | node :: nodes => size node + sizeOfItems nodes

def sizeOfEntries : List (Node × Node) → Nat
  | [] => 0
  | (key, value) :: entries => size key + size value + sizeOfEntries entries

end

/-- A tree and the number of aliases that were replaced in it. -/
structure Expanded where
  tree : Tree
  aliases : Nat

/-- The anchors met so far, last one first; an anchor whose node is still open has no tree. -/
abbrev Anchors := List (String × Option Expanded)

/-- Gives an open anchor its tree. `outer` is how many anchors there were before it. -/
def closeAnchor (anchors : Anchors) (outer : Nat) (name : String) (found : Expanded) : Anchors :=
  anchors.set (anchors.length - 1 - outer) (name, some found)

mutual

/-- Replaces aliases. An alias means the last anchor of its name before it, whose node has to be
complete. -/
def expand (anchors : Anchors) : Node → Option (Expanded × Anchors)
  | .scalar tag style text => some (⟨.scalar tag style text, 0⟩, anchors)
  | .sequence tag items => do
    let (trees, count, anchors) ← expandItems anchors items
    return (⟨.sequence tag trees, count⟩, anchors)
  | .mapping tag entries => do
    let (trees, count, anchors) ← expandEntries anchors entries
    return (⟨.mapping tag trees, count⟩, anchors)
  | .anchored name node => do
    -- without a tree the name cannot be used inside its own node
    let (found, inner) ← expand ((name, none) :: anchors) node
    return (found, closeAnchor inner anchors.length name found)
  | .alias name => do
    let found ← (anchors.lookup name).bind id
    return (⟨found.tree, found.aliases + 1⟩, anchors)

def expandItems (anchors : Anchors) : List Node → Option (List Tree × Nat × Anchors)
  | [] => some ([], 0, anchors)
  | node :: nodes => do
    let (found, anchors) ← expand anchors node
    let (trees, count, anchors) ← expandItems anchors nodes
    return (found.tree :: trees, found.aliases + count, anchors)

def expandEntries (anchors : Anchors) :
    List (Node × Node) → Option (List (Tree × Tree) × Nat × Anchors)
  | [] => some ([], 0, anchors)
  | (key, value) :: entries => do
    let (key, anchors) ← expand anchors key
    let (value, anchors) ← expand anchors value
    let (trees, count, anchors) ← expandEntries anchors entries
    return ((key.tree, value.tree) :: trees, key.aliases + value.aliases + count, anchors)

end

/-- A document may replace this many aliases for each part it is written with. -/
def aliasesPerPart : Nat := 100

def tree? (node : Node) : Option Tree := do
  let (found, _) ← expand [] node
  if aliasesPerPart * node.size < found.aliases then none else some found.tree

end Node

def document? (text : String) : Option (Option Tree) := do
  match ← Node.ofTokens? (← tokens? text.toList) with
  | none => return none
  | some node => return some (← node.tree?)

end Reshape.Yaml
