import Reshape.Toml.Value

namespace Reshape.Toml

def needsEscape (c : Char) : Bool :=
  c ≠ '\t' && c ≠ '\n' && (c.toNat < 0x20 || c.toNat = 0x7f)

def hasThreeQuotes : List Char → Bool
  | '\'' :: '\'' :: '\'' :: _ => true
  | _ :: rest => hasThreeQuotes rest
  | [] => false

def isWrittenLiterally (cs : List Char) : Bool :=
  cs.any (fun c => c = '"' || c = '\\') && !cs.any needsEscape && !hasThreeQuotes cs &&
    cs.getLast? ≠ some '\''

def fourHex (n : Nat) : List Char :=
  let digits := (Nat.toDigits 16 n).map Char.toUpper
  List.replicate (4 - digits.length) '0' ++ digits

/-- Line ends stand for themselves where a text has several lines. -/
def escapedChar (several : Bool) (c : Char) : List Char :=
  if c = '\n' then if several then ['\n'] else ['\\', 'n']
  else if c = '"' then ['\\', '"']
  else if c = '\\' then ['\\', '\\']
  else if c = '\t' then ['\\', 't']
  else if c = '\r' then ['\\', 'r']
  else if c.toNat = 8 then ['\\', 'b']
  else if c.toNat = 12 then ['\\', 'f']
  else if needsEscape c then '\\' :: 'u' :: fourHex c.toNat
  else [c]

def threeQuotes (quote : Char) : List Char := [quote, quote, quote]

def textChars (s : String) : List Char :=
  let cs := s.toList
  let several := cs.contains '\n'
  if isWrittenLiterally cs then
    if several then threeQuotes '\'' ++ '\n' :: cs ++ threeQuotes '\''
    else if cs.contains '\'' then threeQuotes '\'' ++ cs ++ threeQuotes '\''
    else '\'' :: cs ++ ['\'']
  else
    let body := cs.flatMap (escapedChar several)
    if several then threeQuotes '"' ++ '\n' :: body ++ threeQuotes '"'
    else '"' :: body ++ ['"']

inductive Entry where
  | text (s : String)
  | truth (b : Bool)
  | texts (list : List String)

/-- Lists of two or more stand one a line. -/
def Entry.chars : Entry → List Char
  | .text s => textChars s
  | .truth b => (if b then "true" else "false").toList
  | .texts [] => ['[', ']']
  | .texts [s] => '[' :: textChars s ++ [']']
  | .texts list =>
    '[' :: '\n' :: (list.flatMap fun s => "    ".toList ++ textChars s ++ [',', '\n']) ++ [']']

def entryLine (entry : String × Entry) : List Char :=
  entry.1.toList ++ " = ".toList ++ entry.2.chars ++ ['\n']

def sectionChars (part : String × List (String × Entry)) : List Char :=
  '[' :: part.1.toList ++ ']' :: '\n' :: part.2.flatMap entryLine

def write (sections : List (String × List (String × Entry))) : String :=
  String.ofList (Text.joinWith ['\n'] (sections.map sectionChars))

end Reshape.Toml
