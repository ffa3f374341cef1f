import Reshape.Yaml.Scalar
import Reshape.Yaml.Token

namespace Reshape.Yaml

/-- Characters of the text of a tag, apart from escapes; commas and square brackets only where a
tag is written in full. -/
def isTagChar (full : Bool) (c : Char) : Bool :=
  isNameChar c ||
    [';', '/', '?', ':', '@', '&', '=', '+', '$', '.', '!', '~', '*', '\'', '(', ')'].contains c ||
    (full && (c = ',' || c = '[' || c = ']'))

/-- The bytes at the front of a text that are written as a percent sign and two digits. -/
def percentBytes : List Char → List UInt8 × List Char
  | '%' :: a :: b :: rest => match hexValue? a, hexValue? b with
    | some a, some b =>
      let (bytes, behind) := percentBytes rest
      (UInt8.ofNat (a * 16 + b) :: bytes, behind)
    | _, _ => ([], '%' :: a :: b :: rest)
  | s => ([], s)

def readTagText (full : Bool) (s : List Char) : Option (List Char × List Char) :=
  match s with
  | [] => some ([], [])
  | c :: rest =>
    if c = '%' then
      match _h : percentBytes (c :: rest) with
      | (bytes, behind) =>
        if _hl : behind.length < (c :: rest).length then do
          let decoded ← String.fromUTF8? (ByteArray.mk bytes.toArray)
          let (text, after) ← readTagText full behind
          return (decoded.toList ++ text, after)
        else none
    else if isTagChar full c then
      (readTagText full rest).map fun found => (c :: found.1, found.2)
    else some ([], c :: rest)
termination_by s.length
decreasing_by
  · exact _hl
  · simp

def nonEmpty (found : List Char × List Char) : Option (List Char × List Char) :=
  if found.1.isEmpty then none else some found

/-- A handle of tags, `!`, `!!` or a name between two of them, and what follows it. -/
def readHandle : List Char → Option (List Char × List Char)
  | '!' :: rest =>
    let name := rest.takeWhile isNameChar
    match rest.dropWhile isNameChar with
    | '!' :: behind => some ('!' :: (name ++ ['!']), behind)
    | behind => some ('!' :: name, behind)
  | _ => none

/-- Whether a handle has a name or a second mark. -/
def isFullHandle (handle : List Char) : Bool := handle.length > 1 && handle.getLast? = some '!'

def endsTag (inFlow : Bool) (rest : List Char) : Bool :=
  atSpace rest || (inFlow && rest.head? = some ',')

def readTag (inFlow : Bool) (s : List Char) : Option (Token × List Char) := do
  let (tag, rest) ← match s with
    | '!' :: '<' :: inside =>
      let (text, rest) ← (readTagText true inside).bind nonEmpty
      match rest with
      | '>' :: behind => some (Token.tag "" (String.ofList text), behind)
      | _ => none
    | _ =>
      let (handle, rest) ← readHandle s
      if isFullHandle handle then
        let (text, behind) ← (readTagText false rest).bind nonEmpty
        some (Token.tag (String.ofList handle) (String.ofList text), behind)
      else
        let (text, behind) ← readTagText false rest
        let text := handle.drop 1 ++ text
        if text.isEmpty then some (Token.tag "" "!", behind)
        else some (Token.tag "!" (String.ofList text), behind)
  if endsTag inFlow rest then some (tag, rest) else none

def endsName (rest : List Char) : Bool :=
  atSpace rest ||
    rest.head?.any fun c => ['?', ':', ',', ']', '}', '%', '@', Char.ofNat 0x60].contains c

def readName (s : List Char) : Option (String × List Char) :=
  let name := s.takeWhile isNameChar
  let rest := s.dropWhile isNameChar
  if name.isEmpty || !endsName rest then none else some (String.ofList name, rest)

/-- A number of a version: one to nine digits. -/
def readVersionNumber (s : List Char) : Option (Nat × List Char) :=
  let digits := s.takeWhile Text.isAsciiDigit
  if digits.isEmpty || 9 < digits.length then none
  else some (digits.foldl (fun n c => n * 10 + (c.toNat - 48)) 0, s.dropWhile Text.isAsciiDigit)

def readDirective (s : List Char) : Option (Token × List Char) := do
  let name := s.takeWhile isNameChar
  let rest := s.dropWhile isNameChar
  if !atSpace rest then none
  let rest := rest.dropWhile isBlank
  if name = "YAML".toList then
    let (major, rest) ← readVersionNumber rest
    match rest with
    | '.' :: rest =>
      let (minor, rest) ← readVersionNumber rest
      return (.version major minor, rest)
    | _ => none
  else if name = "TAG".toList then
    let (handle, rest) ← readHandle rest
    if !(handle = ['!'] || isFullHandle handle) then none
    if !rest.head?.any isBlank then none
    let (text, rest) ← (readTagText true (rest.dropWhile isBlank)).bind nonEmpty
    if !atSpace rest then none
    return (.handle (String.ofList handle) (String.ofList text), rest)
  else none

end Reshape.Yaml
