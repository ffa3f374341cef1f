import Reshape.FileName

namespace Reshape

namespace Files

inductive Entry where
  | text (content : String)
  /-- Something that is there and holds no text. -/
  | other
  | directory

end Files

structure Files where
  /-- The parts of the working directory's own name. Names that start with them mean the same
  without them. -/
  home : List String := []
  entries : List (List String × Files.Entry) := []

namespace Files

def parts (files : Files) (name : String) : List String :=
  let parts := FileName.parts name
  if files.home.isPrefixOf parts then parts.drop files.home.length else parts

/-- Takes a step down, or up again. A step up from where the walk began is kept, and above the root
there is only the root. -/
def step (back : List String) (part : String) : List String :=
  if part = ".." then
    match back with
    | [] => [".."]
    | ".." :: _ => ".." :: back
    | ["/"] => ["/"]
    | _ :: back => back
  else part :: back

def climb (parts : List String) : List String := (parts.foldl step []).reverse

def place (files : Files) (name : String) : List String := climb (files.parts name)

def way (files : Files) (name : String) : List (List String) :=
  let parts := files.parts name
  (List.range parts.length).map fun n => climb (parts.take n)

def isDirectory (files : Files) (place : List String) : Bool :=
  place.isEmpty || match files.entries.lookup place with
    | some .directory => true
    | _ => false

def leadsOn (files : Files) (name : String) : Bool := (files.way name).all files.isDirectory

def find? (files : Files) (name : String) : Option Entry :=
  -- every directory on the way has to be there, also one that `..` leaves again
  if name.isEmpty || !files.leadsOn name then none
  else match files.place name with
    | [] => some .directory
    | place => (files.entries.lookup place).filter fun entry =>
        !FileName.isDirectoryOnly name || entry matches .directory

def has (files : Files) (name : String) : Bool := (files.find? name).isSome

def text? (files : Files) (name : String) : Option String :=
  match files.find? name with
  | some (.text content) => some content
  | _ => none

/-- Whether nothing but a text is where a name leads to. -/
def isFree (files : Files) (name : String) : Bool :=
  !FileName.isDirectoryOnly name && !files.isDirectory (files.place name)

def canSave (files : Files) (name : String) : Bool := files.isFree name && files.leadsOn name

def canMake (files : Files) (name : String) : Bool :=
  files.isFree name && (files.way name).all fun place =>
    files.isDirectory place || (files.entries.lookup place).isNone

def save (files : Files) (name content : String) : Files :=
  { files with
    entries :=
      (files.place name, .text content) :: (files.way name).map (·, .directory) ++
        files.entries }

def ofTexts (home : String) (texts : List (String × String)) : Files :=
  texts.foldl (fun files (name, content) => files.save name content) ⟨FileName.parts home, []⟩

end Files

end Reshape
