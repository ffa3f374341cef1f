import Reshape.Text.Basic

namespace Reshape.FileName

/-- The parts of a name. Nothing between two slashes is no part, and neither is a single dot; a
slash that the name starts with is one. -/
def parts (name : String) : List String :=
  let between := (Text.splitBy (· = '/') name.toList).map String.ofList
  (if name.toList.head? = some '/' then ["/"] else []) ++
    between.filter fun p => p ≠ "" && p ≠ "."

/-- Whether a name can only be that of a directory: one that ends in a slash, with a dot behind it
or without. -/
def isDirectoryOnly (name : String) : Bool :=
  match (Text.splitBy (· = '/') name.toList).reverse with
  | last :: _ :: _ => last.isEmpty || last = ['.']
  | _ => false

/-- The last part, unless it leads to the root or to a directory above. -/
def base? (name : String) : Option String :=
  (parts name).getLast?.filter fun part => part ≠ ".." && part ≠ "/"

/-- What stands behind the last dot of a text. A dot that it starts with does not count. -/
def behindDot? (text : List Char) : Option (List Char) :=
  match Text.splitBy (· = '.') text with
  | [[], _] => none
  | _ :: rest => rest.getLast?
  | [] => none

def extension? (name : String) : Option String :=
  ((base? name).bind fun part => behindDot? part.toList).map String.ofList

def hasExtension (name : String) (extensions : List String) : Bool :=
  (extension? name).any extensions.contains

def join (directory name : String) : String :=
  if directory.isEmpty then name
  else if directory.endsWith "/" then directory ++ name
  else directory ++ "/" ++ name

def isDash (name : String) : Bool := parts name = ["-"] && name.toList.head? = some '-'

end Reshape.FileName
