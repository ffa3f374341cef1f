import Reshape.Yaml.Character

namespace Reshape.Yaml

/-- White space met since the last character of a scalar, all in reverse. -/
structure Pending where
  blanks : List Char := []
  /-- The first line end, none when there was no line end; empty when it was escaped. -/
  first : Option (List Char) := none
  more : List Char := []

namespace Pending

/-- Whether nothing but blanks has been met since a line end. -/
def atLineStart (p : Pending) : Bool := p.first.isSome

def isEmpty (p : Pending) : Bool := p.blanks.isEmpty && p.first.isNone

def push (p : Pending) (c : Char) : Pending :=
  if isBlank c then if p.atLineStart then p else { p with blanks := c :: p.blanks }
  else match p.first with
    | none => ⟨[], some [c], []⟩
    | some _ => { p with more := c :: p.more }

/-- A single line end becomes a blank, and of more in a row the first one is dropped. -/
def fold (p : Pending) (text : List Char) : List Char :=
  match p.first with
  | none => p.blanks ++ text
  | some ['\n'] => if p.more.isEmpty then ' ' :: text else p.more ++ text
  | some first => p.more ++ (first ++ text)

end Pending

structure Plain where
  text : List Char
  /-- Behind the scalar and the white space after it. -/
  cursor : Cursor
  /-- Whether that white space held a line end. -/
  brokeLine : Bool

/-- Whether a plain scalar cannot go on at a text: at a comment, a mark between documents or, in a
block, at a place not indented enough, each behind white space. -/
def plainStops (inFlow : Bool) (indent : Int) (mark : Mark) (cs : List Char) : Bool :=
  (mark.column = 0 && atDocumentMark cs) || cs.head? = some '#' ||
    (!inFlow && mark.column < indent)

def isFlowMark (c : Char) : Bool :=
  c = ',' || c = '[' || c = ']' || c = '{' || c = '}'

def endsPlain (inFlow : Bool) (c : Char) (rest : List Char) : Bool :=
  (c = ':' && atSpace rest) || (inFlow && isFlowMark c)

/-- Reads on in a plain scalar whose reversed text so far is `text`. -/
def readPlain (inFlow : Bool) (indent : Int) (mark : Mark) (pending : Pending)
    (text : List Char) : List Char → Option Plain
  | [] => some ⟨text.reverse, ⟨[], mark⟩, pending.atLineStart⟩
  | c :: rest =>
    if isBlank c || isBreak c then
      if c = '\t' && pending.atLineStart && mark.column < indent then none
      else readPlain inFlow indent (mark.next c) (pending.push c) text rest
    else if !pending.isEmpty && plainStops inFlow indent mark (c :: rest) then
      some ⟨text.reverse, ⟨c :: rest, mark⟩, pending.atLineStart⟩
    -- in brackets such a colon is neither text nor the mark of a value
    else if inFlow && c = ':' && rest.head?.any (fun d => d = '?' || isFlowMark d) then none
    else if endsPlain inFlow c rest then
      some ⟨text.reverse, ⟨c :: rest, mark⟩, pending.atLineStart⟩
    else readPlain inFlow indent (mark.next c) {} (c :: pending.fold text) rest

/-- Reads on behind the opening single quote; two quotes stand for one. -/
def readSingle (mark : Mark) (pending : Pending) (text : List Char) :
    List Char → Option (List Char × Cursor)
  | [] => none
  | c :: rest =>
    if isBlank c || isBreak c then readSingle (mark.next c) (pending.push c) text rest
    else if mark.column = 0 && atDocumentMark (c :: rest) then none
    else
      let text := pending.fold text
      if c = '\'' then
        match rest with
        | '\'' :: rest => readSingle ((mark.next c).next c) {} ('\'' :: text) rest
        | _ => some (text.reverse, ⟨rest, mark.next c⟩)
      else readSingle (mark.next c) {} (c :: text) rest

def escaped? (c : Char) : Option Char :=
  [('0', Char.ofNat 0), ('a', Char.ofNat 7), ('b', Char.ofNat 8), ('t', '\t'), ('\t', '\t'),
    ('n', '\n'), ('v', Char.ofNat 11), ('f', Char.ofNat 12), ('r', '\r'), ('e', Char.ofNat 27),
    (' ', ' '), ('"', '"'), ('/', '/'), ('\\', '\\'), ('N', nextLine), ('_', Char.ofNat 0xa0),
    ('L', lineSeparator), ('P', paragraphSeparator)].lookup c

def hexCount? (c : Char) : Option Nat := [('x', 2), ('u', 4), ('U', 8)].lookup c

def hexValue? (c : Char) : Option Nat :=
  if '0' ≤ c ∧ c ≤ '9' then some (c.toNat - 48)
  else if 'a' ≤ c ∧ c ≤ 'f' then some (c.toNat - 87)
  else if 'A' ≤ c ∧ c ≤ 'F' then some (c.toNat - 55)
  else none

def hexChar? (digits : List Char) : Option Char := do
  let values ← digits.mapM hexValue?
  let code := values.foldl (fun n d => n * 16 + d) 0
  if (code < 0xd800 ∨ 0xdfff < code) ∧ code ≤ 0x10ffff then some (Char.ofNat code) else none

/-- Reads on behind the opening double quote; `skipped` characters were read already as part of an
escape. -/
def readDouble (mark : Mark) (pending : Pending) (text : List Char) (skipped : Nat) :
    List Char → Option (List Char × Cursor)
  | [] => none
  | c :: rest =>
    match skipped with
    | n + 1 => readDouble (mark.next c) pending text n rest
    | 0 =>
      if isBlank c || isBreak c then readDouble (mark.next c) (pending.push c) text 0 rest
      else if mark.column = 0 && atDocumentMark (c :: rest) then none
      else
        let text := pending.fold text
        if c = '"' then some (text.reverse, ⟨rest, mark.next c⟩)
        else if c ≠ '\\' then readDouble (mark.next c) {} (c :: text) 0 rest
        else match rest with
          | [] => none
          | d :: after =>
            -- an escaped line end leaves no blank, but more line ends behind it count
            if isBreak d then readDouble (mark.next c) { first := some [] } text 1 rest
            else match escaped? d, hexCount? d with
              | some e, _ => readDouble (mark.next c) {} (e :: text) 1 rest
              | none, some n =>
                if after.length < n then none
                else match hexChar? (after.take n) with
                  | some e => readDouble (mark.next c) {} (e :: text) (n + 1) rest
                  | none => none
              | none, none => none

/-- What becomes of the line ends behind a block. -/
inductive Chomping where
  | strip
  | clip
  | keep
  deriving DecidableEq

structure Header where
  chomping : Chomping := .clip
  /-- How far the block is indented beyond its parent, if that is said. -/
  increment : Option Nat := none

def chomping? (c : Char) : Option Chomping := [('+', .keep), ('-', .strip)].lookup c

/-- The signs behind the mark of a block: how to chomp and how far to indent, in either order. -/
def readHeader : List Char → Option (Header × List Char)
  | [] => some ({}, [])
  | c :: rest => match chomping? c with
    | some chomping => match rest with
      | d :: behind =>
        if d = '0' then none
        else if Text.isAsciiDigit d then some (⟨chomping, some (d.toNat - 48)⟩, behind)
        else some (⟨chomping, none⟩, rest)
      | [] => some (⟨chomping, none⟩, rest)
    | none =>
      if c = '0' then none
      else if Text.isAsciiDigit c then
        match rest with
        | d :: behind => match chomping? d with
          | some chomping => some (⟨chomping, some (c.toNat - 48)⟩, behind)
          | none => some (⟨.clip, some (c.toNat - 48)⟩, rest)
        | [] => some (⟨.clip, some (c.toNat - 48)⟩, rest)
      else some ({}, c :: rest)

/-- The indentation that the first lines of a block show; `most` is the widest seen. A tab in its
place is a fault. -/
def shownIndent (column most : Nat) : List Char → Option Nat
  | [] => some (max most column)
  | c :: rest =>
    if c = ' ' then shownIndent (column + 1) most rest
    else if c = '\t' then none
    else if isBreak c then shownIndent 0 (max most column) rest
    else some (max most column)

/-- The state in which the lines of a block are read; all texts are in reverse. -/
structure Block where
  text : List Char := []
  /-- The line end of the last line with text. -/
  lastBreak : List Char := []
  /-- Line ends of the empty lines since then. -/
  emptyLines : List Char := []
  /-- Whether the last line with text started with a blank, which keeps its line ends. -/
  startedBlank : Bool := false

def Block.openLine (b : Block) (literal : Bool) (c : Char) : Block :=
  let folds := !literal && b.lastBreak = ['\n'] && !b.startedBlank && !isBlank c
  let gap := if folds then if b.emptyLines.isEmpty then [' '] else [] else b.lastBreak
  ⟨b.emptyLines ++ (gap ++ b.text), [], [], isBlank c⟩

/-- Reads the lines of a block that are indented by `indent`; `inLine` tells whether a line with
text has begun. -/
def readBlock (literal : Bool) (indent : Nat) (mark : Mark) (b : Block) (inLine : Bool) :
    List Char → Option (Block × Cursor)
  | [] => some (b, ⟨[], mark⟩)
  | c :: rest =>
    if inLine then
      if isBreak c then
        readBlock literal indent (mark.next c) { b with lastBreak := [c] } false rest
      else readBlock literal indent (mark.next c) { b with text := c :: b.text } true rest
    else if mark.column < indent && c = ' ' then
      readBlock literal indent (mark.next c) b false rest
    else if mark.column < indent && c = '\t' then none
    else if isBreak c then
      readBlock literal indent (mark.next c) { b with emptyLines := c :: b.emptyLines } false rest
    else if mark.column = indent then
      let b := b.openLine literal c
      readBlock literal indent (mark.next c) { b with text := c :: b.text } true rest
    else some (b, ⟨c :: rest, mark⟩)

/-- The text of a block with as many of its last line ends as it keeps. -/
def Block.close (b : Block) : Chomping → List Char
  | .strip => b.text.reverse
  | .clip => (b.lastBreak ++ b.text).reverse
  | .keep => (b.emptyLines ++ (b.lastBreak ++ b.text)).reverse

/-- Reads a block behind its mark; `parent` is the indentation around it, less than zero for
none. -/
def readBlockScalar (literal : Bool) (parent : Int) (c : Cursor) :
    Option (List Char × Cursor) := do
  let (header, rest) ← readHeader c.rest
  let c : Cursor := ⟨rest, c.mark.past (c.rest.take (c.rest.length - rest.length))⟩
  let c := c.skipWhile isBlank
  let c := if c.rest.head? = some '#' then c.skipWhile (!isBreak ·) else c
  if !(c.rest.head?.all isBreak) then none
  let c := c.skip 1
  let least := max (parent + 1).toNat 1
  let indent ← match header.increment with
    | some n => some (parent.toNat + n)
    | none => (shownIndent 0 0 c.rest).map (max least)
  let (b, c) ← readBlock literal indent c.mark {} false c.rest
  return (b.close header.chomping, c)

end Reshape.Yaml
