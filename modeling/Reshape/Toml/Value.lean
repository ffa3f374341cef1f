import Reshape.Toml.Scalar
import Reshape.Toml.Text

namespace Reshape

/-- A value, as far as its kind goes where numbers and moments are concerned. -/
inductive Toml where
  | text (s : String)
  | truth (b : Bool)
  | number
  | moment
  | array (items : List Toml)
  | table (entries : List (String × Toml))
  deriving Inhabited

namespace Toml

inductive Origin where
  /-- By its own header, or as a whole document. -/
  | header
  /-- By the header of a table inside it. -/
  | implied
  /-- By a dotted key. -/
  | dotted
  deriving DecidableEq

inductive Part where
  | value (v : Toml)
  | table (origin : Origin) (entries : List (String × Part))
  /-- Tables under one header, the last one first. -/
  | tables (items : List (List (String × Part)))

abbrev Parts := List (String × Part)

/-- Puts a part under a key: in the key's place if it is there, else at the end. -/
def putPart (key : String) (part : Part) : Parts → Parts
  | [] => [(key, part)]
  | (k, p) :: rest => if k = key then (key, part) :: rest else (k, p) :: putPart key part rest

/-- Changes the table that a path leads to, given how that table came to be. Tables on the way that
are missing get the origin `fresh`; dotted keys do not lead into tables that have a header. -/
def enter (fresh : Origin) (change : Origin → Parts → Option Parts) (origin : Origin) :
    List String → Parts → Option Parts
  | [], parts => change origin parts
  | key :: path, parts => match parts.lookup key with
    | none => (enter fresh change fresh path []).map fun inner =>
        putPart key (.table fresh inner) parts
    | some (.table from_ inner) =>
      if fresh = .dotted && from_ = .header then none
      else (enter fresh change from_ path inner).map fun inner =>
        putPart key (.table from_ inner) parts
    -- a path through a list goes on in its last table
    | some (.tables (last :: others)) => (enter fresh change .header path last).map fun last =>
        putPart key (.tables (last :: others)) parts
    | some _ => none

/-- Adds a value under a new key. Dotted keys add to tables made by dotted keys, and single keys
to others. -/
def addValue (single : Bool) (key : String) (v : Toml) (origin : Origin) (parts : Parts) :
    Option Parts :=
  if (origin = .dotted) = single then none
  else if (parts.lookup key).isSome then none
  else some (parts ++ [(key, .value v)])

def addEntry (origin : Origin) (key : List String) (v : Toml) (parts : Parts) : Option Parts :=
  match key.getLast? with
  | none => none
  | some last =>
    let path := key.dropLast
    enter .dotted (addValue path.isEmpty last v) origin path parts

def startTable (key : String) (_ : Origin) (parts : Parts) : Option Parts :=
  match parts.lookup key with
  | none => some (parts ++ [(key, .table .header [])])
  -- tables inside it had their headers first
  | some (.table .implied inner) => some (putPart key (.table .header inner) parts)
  | some _ => none

def startItem (key : String) (_ : Origin) (parts : Parts) : Option Parts :=
  match parts.lookup key with
  | none => some (parts ++ [(key, .tables [[]])])
  | some (.tables items) => some (putPart key (.tables ([] :: items)) parts)
  | some _ => none

mutual

def Part.toValue : Part → Toml
  | .value v => v
  | .table _ entries => .table (valuesOf entries)
  | .tables items => .array (tablesOf items).reverse

def valuesOf : List (String × Part) → List (String × Toml)
  | [] => []
  | (key, part) :: parts => (key, part.toValue) :: valuesOf parts

def tablesOf : List (List (String × Part)) → List Toml
  | [] => []
  | entries :: items => .table (valuesOf entries) :: tablesOf items

end

end Toml

end Reshape
