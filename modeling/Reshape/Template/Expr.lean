import Reshape.Path
import Reshape.Json.Writer

namespace Reshape.Template

inductive Expr where
  /-- Free text, or a value written in a block. -/
  | literal (value : Json)
  | path (path : Path)
  | concat (parts : List Expr)
  | filter (inner : Expr) (name : String) (arguments : List Json)
  /-- The second expression stands in where the first has no value. -/
  | fallback (inner other : Expr)
  deriving Inhabited

/-- A string in single quotes, quotes and backslashes in it behind a backslash; any other value
as JSON. -/
def literalChars : Json → List Char
  | .string s =>
    '\'' :: (s.toList.flatMap (fun c => if c = '\'' || c = '\\' then ['\\', c] else [c]) ++ ['\''])
  | value => value.chars

def argumentChars (arguments : List Json) : List Char :=
  arguments.flatMap fun value => ':' :: literalChars value

namespace Expr

mutual

/-- The names of the filters, in the order they are applied. -/
def filterNames : Expr → List String
  | .literal _ => []
  | .path _ => []
  | .concat parts => partFilterNames parts
  | .filter inner name _ => filterNames inner ++ [name]
  | .fallback inner other => filterNames inner ++ filterNames other

def partFilterNames : List Expr → List String
  | [] => []
  | part :: parts => filterNames part ++ partFilterNames parts

end

def block (inside : List Char) : List Char := ['{', '{', ' '] ++ inside ++ [' ', '}', '}']

mutual

def chars : Expr → List Char
  | .literal value => literalChars value
  | .path p => p.chars
  | .concat parts => partChars parts
  | .filter inner name arguments =>
    chars inner ++ [' ', '|', ' '] ++ name.toList ++ argumentChars arguments
  | .fallback inner other => chars inner ++ [' ', '?', '?', ' '] ++ chars other

/-- The template text of parts: strings as they are, other parts in blocks. -/
def partChars : List Expr → List Char
  | [] => []
  | .literal (.string s) :: parts => s.toList ++ partChars parts
  | .concat inner :: parts => partChars inner ++ partChars parts
  | part :: parts => block (chars part) ++ partChars parts

end

def templateChars (e : Expr) : List Char := partChars [e]

mutual

def agrees : Expr → Expr → Bool
  | .literal v, .literal w => v.agrees w
  | .path p, .path q => p = q
  | .concat ps, .concat qs => partsAgree ps qs
  | .filter e n vs, .filter f m ws => agrees e f && n = m && Json.itemsAgree vs ws
  | .fallback e e', .fallback f f' => agrees e f && agrees e' f'
  | _, _ => false

def partsAgree : List Expr → List Expr → Bool
  | [], [] => true
  | p :: ps, q :: qs => agrees p q && partsAgree ps qs
  | _, _ => false

end

end Expr

end Reshape.Template
