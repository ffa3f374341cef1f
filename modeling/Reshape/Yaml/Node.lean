import Reshape.Yaml.Token.Lexer

namespace Reshape.Yaml

inductive Node where
  | scalar (tag : Option String) (style : Style) (text : String)
  | sequence (tag : Option String) (items : List Node)
  | mapping (tag : Option String) (entries : List (Node × Node))
  | anchored (name : String) (node : Node)
  | alias (name : String)
  deriving Inhabited

namespace Node

/-- A node that is not written at all. -/
def empty : Node := .scalar none .plain ""

abbrev Handles := List (String × String)

def defaultHandles : Handles := [("!", "!"), ("!!", "tag:yaml.org,2002:")]

structure Properties where
  anchor : Option String := none
  /-- The handle of a tag and the text behind it. -/
  tag : Option (String × String) := none

def properties : List Token → Properties × List Token
  | .anchor name :: .tag handle text :: rest => (⟨some name, some (handle, text)⟩, rest)
  | .anchor name :: rest => (⟨some name, none⟩, rest)
  | .tag handle text :: .anchor name :: rest => (⟨some name, some (handle, text)⟩, rest)
  | .tag handle text :: rest => (⟨none, some (handle, text)⟩, rest)
  | tokens => ({}, tokens)

def Properties.isEmpty (p : Properties) : Bool := p.anchor.isNone && p.tag.isNone

theorem length_properties (s : List Token) :
    (properties s).2.length ≤ s.length ∧
      ((properties s).1.isEmpty = false → (properties s).2.length < s.length) := by
  fun_cases properties s <;> simp_all [Properties.isEmpty] <;> omega

/-- The full text of a tag, none for the tag that says nothing; fails where the handle is not
known. -/
def Properties.fullTag (p : Properties) (handles : Handles) : Option (Option String) :=
  match p.tag with
  | none => some none
  | some (handle, text) => do
    let start ← if handle.isEmpty then some "" else handles.lookup handle
    let tag := start ++ text
    return if tag = "!" then none else some tag

def Properties.wrap (p : Properties) (node : Node) : Node :=
  match p.anchor with
  | some name => .anchored name node
  | none => node

abbrev Shorter (s : List Token) := { rest : List Token // rest.length < s.length }

abbrev NoLonger (s : List Token) := { rest : List Token // rest.length ≤ s.length }

/-- Tokens in front of which a node of a block is empty. -/
def endsBlockNode : Token → Bool
  | .key => true
  | .value => true
  | .blockEnd => true
  | _ => false

def endsItem : Token → Bool
  | .blockEntry => true
  | .blockEnd => true
  | _ => false

def endsIndentlessItem (token : Token) : Bool := endsBlockNode token || token = .blockEntry

def endsFlowItem (token : Token) : Bool := token = .flowEntry || token = .flowSequenceEnd

def endsFlowValue (token : Token) : Bool := token = .flowEntry || token = .flowMappingEnd

mutual

/-- A node at the front of the tokens. In brackets there are no blocks; the items of a sequence
may stand as deep as the key they belong to. Properties with nothing behind them are those of an
empty node. -/
def read (handles : Handles) (inBlock indentless : Bool) (s : List Token) :
    Option (Node × Shorter s) :=
  match s with
  | .alias name :: rest => some (.alias name, ⟨rest, by simp⟩)
  | s =>
    match hp : properties s with
    | (p, inner) =>
      have hl := length_properties s
      have hle : inner.length ≤ s.length := by rw [hp] at hl; exact hl.1
      match p.fullTag handles with
      | none => none
      | some tag =>
        let bare : Option (Node × Shorter s) :=
          if he : p.isEmpty = false then
            some (p.wrap (.scalar tag .plain ""), ⟨(properties s).2, hl.2 (by rw [hp]; exact he)⟩)
          else none
        match inner, hle with
        | .scalar text style :: rest, hle =>
          some (p.wrap (.scalar tag style text), ⟨rest, Nat.lt_of_succ_le hle⟩)
        | .flowSequenceStart :: rest, hle =>
          (readFlowItems handles true rest).map fun (items, ⟨rest, hr⟩) =>
            (p.wrap (.sequence tag items), ⟨rest, Nat.lt_trans hr (Nat.lt_of_succ_le hle)⟩)
        | .flowMappingStart :: rest, hle =>
          (readFlowEntries handles true rest).map fun (entries, ⟨rest, hr⟩) =>
            (p.wrap (.mapping tag entries), ⟨rest, Nat.lt_trans hr (Nat.lt_of_succ_le hle)⟩)
        | .blockEntry :: rest, hle =>
          if indentless then
            (readIndentlessItem handles rest).map fun (items, ⟨rest, hr⟩) =>
              (p.wrap (.sequence tag items), ⟨rest, Nat.lt_of_le_of_lt hr (Nat.lt_of_succ_le hle)⟩)
          else bare
        | .blockSequenceStart :: rest, hle =>
          if inBlock then
            (readItems handles rest).map fun (items, ⟨rest, hr⟩) =>
              (p.wrap (.sequence tag items), ⟨rest, Nat.lt_trans hr (Nat.lt_of_succ_le hle)⟩)
          else bare
        | .blockMappingStart :: rest, hle =>
          if inBlock then
            (readEntries handles rest).map fun (entries, ⟨rest, hr⟩) =>
              (p.wrap (.mapping tag entries), ⟨rest, Nat.lt_trans hr (Nat.lt_of_succ_le hle)⟩)
          else bare
        | _, _ => bare
termination_by (s.length, 2)
decreasing_by
  all_goals
    apply Prod.Lex.left
    exact Nat.lt_of_succ_le hle

/-- A node, empty in front of a token that ends it. -/
def readUnless (handles : Handles) (ends : Token → Bool) (inBlock indentless : Bool)
    (s : List Token) : Option (Node × NoLonger s) :=
  match s with
  | [] => none
  | token :: rest =>
    if ends token then some (empty, ⟨token :: rest, Nat.le_refl _⟩)
    else (read handles inBlock indentless (token :: rest)).map fun (node, ⟨rest, hr⟩) =>
      (node, ⟨rest, Nat.le_of_lt hr⟩)
termination_by (s.length, 3)

def readItems (handles : Handles) (s : List Token) : Option (List Node × Shorter s) :=
  match s with
  | .blockEntry :: rest => do
    let (item, ⟨rest, h1⟩) ← readUnless handles endsItem true false rest
    let (items, ⟨rest, h2⟩) ← readItems handles rest
    return (item :: items, ⟨rest, by simp; omega⟩)
  | .blockEnd :: rest => some ([], ⟨rest, by simp⟩)
  | _ => none
termination_by (s.length, 1)
decreasing_by
  · apply Prod.Lex.left; simp
  · apply Prod.Lex.left; simp; omega

/-- An item of a sequence that stands as deep as its key, behind its dash, and the items after
it. -/
def readIndentlessItem (handles : Handles) (s : List Token) :
    Option (List Node × NoLonger s) := do
  let (item, ⟨rest, h1⟩) ← readUnless handles endsIndentlessItem true false s
  match rest, h1 with
  | .blockEntry :: rest, h1 =>
    let (items, ⟨rest, h2⟩) ← readIndentlessItem handles rest
    return (item :: items, ⟨rest, Nat.le_trans h2 (Nat.le_of_succ_le h1)⟩)
  | rest, h1 => return ([item], ⟨rest, h1⟩)
termination_by (s.length, 4)
decreasing_by
  · apply Prod.Lex.right; decide
  · exact Prod.Lex.left _ _ (Nat.lt_of_succ_le h1)

def readBlockValue (handles : Handles) (s : List Token) : Option (Node × NoLonger s) :=
  match s with
  | .value :: rest =>
    (readUnless handles endsBlockNode true true rest).map fun (node, ⟨rest, hr⟩) =>
      (node, ⟨rest, by simp; omega⟩)
  | s => some (empty, ⟨s, Nat.le_refl _⟩)
termination_by (s.length, 1)

def readEntries (handles : Handles) (s : List Token) :
    Option (List (Node × Node) × Shorter s) :=
  match s with
  | .key :: rest => do
    let (key, ⟨rest, h1⟩) ← readUnless handles endsBlockNode true true rest
    let (value, ⟨rest, h2⟩) ← readBlockValue handles rest
    let (entries, ⟨rest, h3⟩) ← readEntries handles rest
    return ((key, value) :: entries, ⟨rest, by simp; omega⟩)
  | .blockEnd :: rest => some ([], ⟨rest, by simp⟩)
  | _ => none
termination_by (s.length, 1)
decreasing_by
  · apply Prod.Lex.left; simp
  · apply Prod.Lex.left; simp; omega
  · apply Prod.Lex.left; simp; omega

/-- The key of an entry that stands alone in a sequence in brackets. In front of a token that
leaves it empty the key takes that token. -/
def readPairKey (handles : Handles) (s : List Token) : Option (Node × Shorter s) :=
  match s with
  | [] => none
  | token :: rest =>
    if token = .value || endsFlowItem token then some (empty, ⟨rest, by simp⟩)
    else read handles false false (token :: rest)
termination_by (s.length, 3)

def readFlowValue (handles : Handles) (ends : Token → Bool) (s : List Token) :
    Option (Node × NoLonger s) :=
  match s with
  | .value :: rest =>
    (readUnless handles ends false false rest).map fun (node, ⟨rest, hr⟩) =>
      (node, ⟨rest, by simp; omega⟩)
  | s => some (empty, ⟨s, Nat.le_refl _⟩)
termination_by (s.length, 1)

def readFlowItems (handles : Handles) (first : Bool) (s : List Token) :
    Option (List Node × Shorter s) :=
  match s with
  | .flowSequenceEnd :: rest => some ([], ⟨rest, by simp⟩)
  | .flowEntry :: rest =>
    if first then none
    else (readFlowItem handles rest).map fun (items, ⟨rest, hr⟩) =>
      (items, ⟨rest, by simp; omega⟩)
  | s => if first then readFlowItem handles s else none
termination_by (s.length, 5)

/-- An item in brackets, the items after it, and the closing bracket, which may stand in the place
of the item. -/
def readFlowItem (handles : Handles) (s : List Token) : Option (List Node × Shorter s) :=
  match s with
  | .flowSequenceEnd :: rest => some ([], ⟨rest, by simp⟩)
  | .key :: rest => do
    let (key, ⟨rest, h1⟩) ← readPairKey handles rest
    let (value, ⟨rest, h2⟩) ← readFlowValue handles endsFlowItem rest
    let (items, ⟨rest, h3⟩) ← readFlowItems handles false rest
    return (.mapping none [(key, value)] :: items, ⟨rest, by simp; omega⟩)
  | s => do
    let (item, ⟨rest, h1⟩) ← read handles false false s
    let (items, ⟨rest, h2⟩) ← readFlowItems handles false rest
    return (item :: items, ⟨rest, by omega⟩)
termination_by (s.length, 4)
decreasing_by
  · apply Prod.Lex.left; simp
  · apply Prod.Lex.left; simp; omega
  · apply Prod.Lex.left; simp; omega
  · apply Prod.Lex.right; decide
  · apply Prod.Lex.left; omega

def readFlowEntries (handles : Handles) (first : Bool) (s : List Token) :
    Option (List (Node × Node) × Shorter s) :=
  match s with
  | .flowMappingEnd :: rest => some ([], ⟨rest, by simp⟩)
  | .flowEntry :: rest =>
    if first then none
    else (readFlowEntry handles rest).map fun (entries, ⟨rest, hr⟩) =>
      (entries, ⟨rest, by simp; omega⟩)
  | s => if first then readFlowEntry handles s else none
termination_by (s.length, 5)

/-- An entry in brackets, the entries after it, and the closing bracket, which may stand in the
place of the entry. A node without the mark of a key is a key without a value. -/
def readFlowEntry (handles : Handles) (s : List Token) :
    Option (List (Node × Node) × Shorter s) :=
  match s with
  | .flowMappingEnd :: rest => some ([], ⟨rest, by simp⟩)
  | .key :: rest => do
    let (key, ⟨rest, h1⟩) ←
      readUnless handles (fun token => token = .value || endsFlowValue token) false false rest
    let (value, ⟨rest, h2⟩) ← readFlowValue handles endsFlowValue rest
    let (entries, ⟨rest, h3⟩) ← readFlowEntries handles false rest
    return ((key, value) :: entries, ⟨rest, by simp; omega⟩)
  | s => do
    let (key, ⟨rest, h1⟩) ← read handles false false s
    let (entries, ⟨rest, h2⟩) ← readFlowEntries handles false rest
    return ((key, empty) :: entries, ⟨rest, by omega⟩)
termination_by (s.length, 4)
decreasing_by
  · apply Prod.Lex.left; simp
  · apply Prod.Lex.left; simp; omega
  · apply Prod.Lex.left; simp; omega
  · apply Prod.Lex.right; decide
  · apply Prod.Lex.left; omega

end

end Node

end Reshape.Yaml
