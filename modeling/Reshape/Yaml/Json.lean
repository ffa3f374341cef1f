import Reshape.Json.Value
import Reshape.Yaml.Document
import Reshape.Yaml.Plain

namespace Reshape.Yaml

def wholeJson? (n : Int) : Option Json :=
  if minInt64 ≤ n ∧ n ≤ maxUInt64 then some (.ofInt n) else none

def floatJson (f : Binary64) : Json := if f.isFinite then .ofFloat f else .null

def Scalar.json? : Scalar → Option Json
  | .null => some .null
  | .bool b => some (.bool b)
  | .whole n => wholeJson? n
  | .float f => some (floatJson f)
  | .text s => some (.string s)

def coreTag (name : String) : String := "tag:yaml.org,2002:" ++ name

def isLocalTag (tag : Option String) : Bool :=
  match tag with
  | some s => s.length > 1 && s.toList.head? = some '!'
  | none => false

/-- A scalar under a tag, which says how its text is to be read. -/
def taggedJson? (tag text : String) : Option Json :=
  if tag = coreTag "bool" then (bool? text).map Json.bool
  else if tag = coreTag "int" then (integerWithin? text).bind wholeJson?
  else if tag = coreTag "float" then (float? text).map floatJson
  else if tag = coreTag "null" then if isNull text then some .null else none
  else some (.string text)

def scalarJson? (tag : Option String) (style : Style) (text : String) : Option Json :=
  match tag, style with
  | some tag, _ => taggedJson? tag text
  | none, .plain => (Scalar.ofPlain text).json?
  | none, .marked => some (.string text)

def maxDepth : Nat := 128

namespace Tree

mutual

/-- What JSON has no number for is null; tags of a document's own, keys that are no scalars and
whole numbers beyond 64 bits are refused. -/
def json? (depth : Nat) : Tree → Option Json
  | .scalar tag style text => if isLocalTag tag then none else scalarJson? tag style text
  | .sequence tag items =>
    match depth with
    | 0 => none
    | depth + 1 => if isLocalTag tag then none else (itemsJson? depth items).map Json.array
  | .mapping tag entries =>
    match depth with
    | 0 => none
    | depth + 1 =>
      if isLocalTag tag then none
      else (entriesJson? depth entries).map fun members => .object (Json.Members.ofList members)

def itemsJson? (depth : Nat) : List Tree → Option (List Json)
  | [] => some []
  | tree :: trees => do
    let value ← json? depth tree
    let values ← itemsJson? depth trees
    return value :: values

def entriesJson? (depth : Nat) : List (Tree × Tree) → Option (List (String × Json))
  | [] => some []
  | (.scalar _ _ key, tree) :: entries => do
    let value ← json? depth tree
    let members ← entriesJson? depth entries
    return (key, value) :: members
  | _ => none

end

end Tree

/-- The value of a YAML text; a text without a document is null. -/
def readJson? (text : String) : Option Json := do
  match ← document? text with
  | none => return .null
  | some tree => tree.json? maxDepth

end Reshape.Yaml
