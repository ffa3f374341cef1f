import Reshape.Toml.Value

namespace Reshape.Toml

/-- Characters that a number, a moment or a word ends at. -/
def endsWord (c : Char) : Bool :=
  isSpace c || c = '\n' || c = '\r' || c = ',' || c = ']' || c = '\x7d' || c = '#'

/-- A word at the front of a text. A day takes a time with it that follows behind one blank. -/
def word (s : List Char) : List Char :=
  let first := s.takeWhile (!endsWord ·)
  match s.drop first.length with
  | ' ' :: rest =>
    let time := rest.takeWhile (!endsWord ·)
    if isDay first && isZonedTime time then first ++ ' ' :: time else first
  | _ => first

def ofWord? (w : List Char) : Option Toml :=
  if w = "true".toList then some (.truth true)
  else if w = "false".toList then some (.truth false)
  else if isWhole w || isFloat w then some .number
  else if isMoment w then some .moment
  else none

def maxDepth : Nat := 80

mutual

def value? (depth : Nat) (s : List Char) : Option (Toml × List Char) :=
  match s with
  | [] => none
  | c :: rest =>
    if c = '"' || c = '\'' then
      (string? s).map fun (body, behind) => (.text (String.ofList body), behind)
    else match depth with
      | 0 => none
      | depth + 1 =>
        if c = '[' then items? depth rest.length (skipGaps rest) []
        else if c = '\x7b' then
          match skipSpaces rest with
          | '\x7d' :: behind => some (.table [], behind)
          | next => entries? depth rest.length next []
        else
          let w := word s
          (ofWord? w).map fun v => (v, s.drop w.length)
termination_by (depth, 0)

/-- The items of an array from where one may stand, behind those read so far, last one first. -/
def items? (depth fuel : Nat) (s : List Char) (done : List Toml) :
    Option (Toml × List Char) :=
  match fuel, s with
  | _, ']' :: behind => some (.array done.reverse, behind)
  | 0, _ => none
  | fuel + 1, s => match value? depth s with
    | none => none
    | some (item, rest) => match skipGaps rest with
      | ',' :: more => items? depth fuel (skipGaps more) (item :: done)
      | ']' :: behind => some (.array (item :: done).reverse, behind)
      | _ => none
termination_by (depth, fuel + 1)

def entries? (depth fuel : Nat) (s : List Char) (done : Parts) :
    Option (Toml × List Char) :=
  match fuel with
  | 0 => none
  | fuel + 1 => match key? s with
    | none => none
    | some (key, rest) => match skipSpaces rest with
      | '=' :: more => match value? depth (skipSpaces more) with
        | none => none
        | some (v, rest) => match addEntry .header key v done with
          | none => none
          | some done => match skipSpaces rest with
            | ',' :: more => entries? depth fuel (skipSpaces more) done
            | '\x7d' :: behind => some (.table (valuesOf done), behind)
            | _ => none
      | _ => none
termination_by (depth, fuel + 1)

end

/-- A document so far, and the path of the table that entries go into. -/
structure Draft where
  parts : Parts := []
  path : List String := []

namespace Draft

def add (draft : Draft) (key : List String) (v : Toml) : Option Draft :=
  (enter .implied (fun origin => addEntry origin key v) .header draft.path draft.parts).map
    fun parts => { draft with parts }

/-- Starts the table of a header, which is one of a list if `listed` is set. -/
def start (draft : Draft) (listed : Bool) (key : List String) : Option Draft :=
  match key.getLast? with
  | none => none
  | some last =>
    let change := if listed then startItem last else startTable last
    (enter .implied change .header key.dropLast draft.parts).map fun parts => ⟨parts, key⟩

end Draft

def header? (s : List Char) : Option (Bool × List String × List Char) :=
  match s with
  | '[' :: rest => do
    let (key, rest) ← key? (skipSpaces rest)
    match skipSpaces rest with
    | ']' :: ']' :: behind => return (true, key, behind)
    | _ => none
  | _ => do
    let (key, rest) ← key? (skipSpaces s)
    match skipSpaces rest with
    | ']' :: behind => return (false, key, behind)
    | _ => none

def line? (draft : Draft) (s : List Char) : Option (Draft × List Char) :=
  match s with
  | '[' :: rest => do
    let (listed, key, behind) ← header? rest
    return (← draft.start listed key, behind)
  | _ => do
    let (key, rest) ← key? s
    match skipSpaces rest with
    | '=' :: more =>
      let (v, behind) ← value? maxDepth (skipSpaces more)
      return (← draft.add key v, behind)
    | _ => none

def lines? (draft : Draft) (s : List Char) : Option Draft :=
  match skipGaps s with
  | [] => some draft
  | next => match line? draft next with
    | none => none
    | some (draft, behind) => match restOfLine? behind with
      | some rest => if rest.length < s.length then lines? draft rest else none
      | none => none
termination_by s.length

def read? (text : String) : Option (List (String × Toml)) :=
  let s := match text.toList with
    | c :: rest => if c.toNat = 0xfeff then rest else c :: rest
    | [] => []
  (lines? {} s).map fun draft => valuesOf draft.parts

end Reshape.Toml
