import Reshape.Yaml.Tag

namespace Reshape.Yaml

/-- A place where a key may have started. A key without a mark is only known to be one at the colon
behind it; its token is put in at this place then. -/
structure KeyStart where
  mark : Mark
  /-- How many tokens stand before it. -/
  position : Nat
  /-- Whether it can be nothing but a key. -/
  required : Bool

structure Scan where
  cursor : Cursor
  tokens : Array Token := #[]
  /-- The column of the innermost block, less than zero outside all blocks. -/
  indent : Int := -1
  outer : List Int := []
  /-- Whether a key without a mark may start here. -/
  keyAllowed : Bool := true
  /-- Where a key may have started, for each open bracket and last for the blocks. -/
  keys : List (Option KeyStart) := [none]

namespace Scan

def inFlow (s : Scan) : Bool := 1 < s.keys.length

def column (s : Scan) : Nat := s.cursor.mark.column

def rest (s : Scan) : List Char := s.cursor.rest

def push (s : Scan) (token : Token) : Scan := { s with tokens := s.tokens.push token }

def skip (s : Scan) (n : Nat) : Scan := { s with cursor := s.cursor.skip n }

def goTo (s : Scan) (rest : List Char) : Scan := s.skip (s.rest.length - rest.length)

def maxKeySize : Nat := 1024

/-- Keys end on the line they start on, and soon. -/
def keyHolds (now : Mark) (key : KeyStart) : Bool :=
  now.line ≤ key.mark.line && now.index ≤ key.mark.index + maxKeySize

/-- Forgets the starts of keys that cannot be keys any more. -/
def dropStale (s : Scan) : Option Scan := do
  let keys ← s.keys.mapM fun key => match key with
    | some start =>
      if keyHolds s.cursor.mark start then some (some start)
      else if start.required then none else some none
    | none => some none
  return { s with keys }

/-- Forgets the innermost start of a key, which must not be one that can be nothing else. -/
def dropKey (s : Scan) : Option Scan :=
  match s.keys with
  | some start :: outer => if start.required then none else some { s with keys := none :: outer }
  | _ => some s

def noteKey (s : Scan) : Option Scan := do
  if !s.keyAllowed then return s
  -- at the column of an open mapping nothing but a key can start
  let required := !s.inFlow && s.indent = s.column
  let start : KeyStart := ⟨s.cursor.mark, s.tokens.size, required⟩
  let s ← s.dropKey
  return { s with keys := some start :: s.keys.drop 1 }

/-- Opens a block at a column beyond the innermost one; its token comes in at a place among the
tokens. -/
def openBlock (s : Scan) (column place : Nat) (token : Token) : Scan :=
  if s.inFlow || column ≤ s.indent then s
  else { s with
    indent := column
    outer := s.indent :: s.outer
    tokens := s.tokens.insertIdxIfInBounds place token }

def closeBlocksFrom (column indent : Int) (tokens : Array Token) :
    List Int → Int × List Int × Array Token
  | [] => (indent, [], tokens)
  | next :: outer =>
    if column < indent then closeBlocksFrom column next (tokens.push .blockEnd) outer
    else (indent, next :: outer, tokens)

def closeBlocks (s : Scan) (column : Int) : Scan :=
  if s.inFlow then s
  else
    let (indent, outer, tokens) := closeBlocksFrom column s.indent s.tokens s.outer
    { s with indent, outer, tokens }

/-- Goes over blanks, comments and line ends, and tells whether a key may start behind them. Where
a key may start in a block, a tab is no blank. -/
def toToken (inFlow keyAllowed inComment : Bool) (mark : Mark) : List Char → Cursor × Bool
  | [] => (⟨[], mark⟩, keyAllowed)
  | c :: rest =>
    -- every new line of a block may start with a key
    if isBreak c then toToken inFlow (keyAllowed || !inFlow) false (mark.next c) rest
    else if inComment || c = ' ' || (c = '\t' && (inFlow || !keyAllowed)) ||
        (mark.column = 0 && c = byteOrderMark) then
      toToken inFlow keyAllowed inComment (mark.next c) rest
    else if c = '#' then toToken inFlow keyAllowed true (mark.next c) rest
    else (⟨c :: rest, mark⟩, keyAllowed)

def skipSpace (s : Scan) : Scan :=
  let (cursor, keyAllowed) := toToken s.inFlow s.keyAllowed false s.cursor.mark s.rest
  { s with cursor, keyAllowed }

def closeAll (s : Scan) : Option Scan := do
  let s ← (s.closeBlocks (-1)).dropKey
  return { s with keyAllowed := false }

def documentMark (s : Scan) (token : Token) : Option Scan := do
  let s ← s.closeAll
  return (s.push token).skip 3

/-- A directive and the rest of its line, on which only a comment may stand. -/
def directive (s : Scan) : Option Scan := do
  let s ← s.closeAll
  let (token, rest) ← readDirective (s.rest.drop 1)
  let rest := rest.dropWhile isBlank
  let rest := if rest.head? = some '#' then rest.dropWhile (!isBreak ·) else rest
  if !rest.head?.all isBreak then none
  return ((s.push token).goTo rest).skip 1

def openFlow (s : Scan) (token : Token) : Option Scan := do
  let s ← s.noteKey
  return { (s.push token).skip 1 with keys := none :: s.keys, keyAllowed := true }

def closeFlow (s : Scan) (token : Token) : Option Scan := do
  let s ← s.dropKey
  let keys := if s.inFlow then s.keys.drop 1 else s.keys
  return { (s.push token).skip 1 with keys, keyAllowed := false }

def flowEntry (s : Scan) : Option Scan := do
  let s ← s.dropKey
  return { (s.push .flowEntry).skip 1 with keyAllowed := true }

def blockEntry (s : Scan) : Option Scan := do
  if !s.inFlow && !s.keyAllowed then none
  let s ← (s.openBlock s.column s.tokens.size .blockSequenceStart).dropKey
  return { (s.push .blockEntry).skip 1 with keyAllowed := true }

def keyMark (s : Scan) : Option Scan := do
  if !s.inFlow && !s.keyAllowed then none
  let s ← (s.openBlock s.column s.tokens.size .blockMappingStart).dropKey
  return { (s.push .key).skip 1 with keyAllowed := !s.inFlow }

/-- The mark of a value. What stands before it may turn out to be its key. -/
def valueMark (s : Scan) : Option Scan :=
  match s.keys with
  | some start :: outer =>
    -- the tokens of the key were read before it was known to be one
    let tokens := s.tokens.insertIdxIfInBounds start.position .key
    let s := { s with tokens, keys := none :: outer }
    let s := s.openBlock start.mark.column start.position .blockMappingStart
    some { (s.push .value).skip 1 with keyAllowed := false }
  | _ =>
    if !s.inFlow && !s.keyAllowed then none
    else
      let s := s.openBlock s.column s.tokens.size .blockMappingStart
      some { (s.push .value).skip 1 with keyAllowed := !s.inFlow }

def named (s : Scan) (token : String → Token) : Option Scan := do
  let s ← s.noteKey
  let (name, rest) ← readName (s.rest.drop 1)
  return { (s.push (token name)).goTo rest with keyAllowed := false }

def tag (s : Scan) : Option Scan := do
  let s ← s.noteKey
  let (token, rest) ← readTag s.inFlow s.rest
  return { (s.push token).goTo rest with keyAllowed := false }

def scalarToken (text : List Char) (style : Style) : Token :=
  .scalar (String.ofList text) style

def block (s : Scan) (literal : Bool) : Option Scan := do
  let s ← s.dropKey
  let (text, cursor) ← readBlockScalar literal s.indent (s.cursor.skip 1)
  return { s.push (scalarToken text .marked) with cursor, keyAllowed := true }

def quoted (s : Scan) (double : Bool) : Option Scan := do
  let s ← s.noteKey
  let c := s.cursor.skip 1
  let (text, cursor) ←
    if double then readDouble c.mark {} [] 0 c.rest else readSingle c.mark {} [] c.rest
  return { s.push (scalarToken text .marked) with cursor, keyAllowed := false }

def plain (s : Scan) : Option Scan := do
  let s ← s.noteKey
  let found ← readPlain s.inFlow (s.indent + 1) s.cursor.mark {} [] s.rest
  return { s.push (scalarToken found.text .plain) with
    cursor := found.cursor, keyAllowed := found.brokeLine }

/-- Characters that no plain scalar starts with, dashes, question marks and colons apart. -/
def isIndicator (c : Char) : Bool :=
  [',', '[', ']', '{', '}', '#', '&', '*', '!', '|', '>', '\'', '"', '%', '@',
    Char.ofNat 0x60].contains c

def startsPlain (inFlow : Bool) (c : Char) (rest : List Char) : Bool :=
  if c = '-' then !rest.head?.any isBlank
  else if c = '?' || c = ':' then !inFlow && !atSpace rest
  else !isBlank c && !isIndicator c

def token (s : Scan) (c : Char) (rest : List Char) : Option Scan :=
  if s.column = 0 && c = '%' then s.directive
  else if s.column = 0 && c = '-' && atDocumentMark s.rest then s.documentMark .documentStart
  else if s.column = 0 && c = '.' && atDocumentMark s.rest then s.documentMark .documentEnd
  else if c = '[' then s.openFlow .flowSequenceStart
  else if c = '{' then s.openFlow .flowMappingStart
  else if c = ']' then s.closeFlow .flowSequenceEnd
  else if c = '}' then s.closeFlow .flowMappingEnd
  else if c = ',' then s.flowEntry
  else if c = '-' && atSpace rest then s.blockEntry
  else if c = '?' && (s.inFlow || atSpace rest) then s.keyMark
  else if c = ':' && (s.inFlow || atSpace rest) then s.valueMark
  else if c = '*' then s.named .alias
  else if c = '&' then s.named .anchor
  else if c = '!' then s.tag
  else if c = '|' && !s.inFlow then s.block true
  else if c = '>' && !s.inFlow then s.block false
  else if c = '\'' then s.quoted false
  else if c = '"' then s.quoted true
  else if startsPlain s.inFlow c rest then s.plain
  else none

def finish (s : Scan) : Option (Array Token) := do
  let s ← (s.closeBlocks (-1)).dropKey
  return s.tokens

/-- Reads tokens up to the end of the text. Each takes at least a character, so that as many steps
as there are characters, and one, reach the end. -/
def run : Nat → Scan → Option (Array Token)
  | 0, _ => none
  | steps + 1, s => do
    let s ← s.skipSpace.dropStale
    match s.rest with
    | [] => s.finish
    | c :: rest =>
      let s ← (s.closeBlocks s.column).token c rest
      run steps s

end Scan

def tokens? (text : List Char) : Option (List Token) :=
  if !text.all isAllowed then none
  else
    let cs := plainLines text
    (Scan.run (cs.length + 1) { cursor := ⟨cs, .start⟩ }).map Array.toList

end Reshape.Yaml
