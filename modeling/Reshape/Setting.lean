import Reshape.Engine.Switches
import Reshape.Toml.Reader
import Reshape.Yaml.Json

namespace Reshape

/-- What a scalar is in each of the places it can stand in. -/
structure Reading where
  text : Option String := none
  /-- One of a list of names. -/
  name : Option String := none
  truth : Option Bool := none
  isAbsent : Bool := false
  isEmpty : Bool := false

inductive Setting where
  | scalar (reading : Reading)
  | list (items : List Setting)
  /-- Entries in the order they are written in, and the name that the whole table is. -/
  | table (name : Option String) (entries : List (String × Setting))
  | foreign

namespace Setting

def text? : Setting → Option String
  | .scalar reading => reading.text
  | _ => none

def truth? : Setting → Option Bool
  | .scalar reading => reading.truth
  | _ => none

def choice? {α : Type} (names : List (String × α)) : Setting → Option α
  | .scalar reading => reading.name.bind fun n => names.lookup n
  | .table name _ => name.bind fun n => names.lookup n
  | _ => none

def optionalText? : Setting → Option (Option String)
  | .scalar reading => if reading.isAbsent then some none else reading.text.map some
  | _ => none

def texts? : Setting → Option (List String)
  | .list items => items.mapM text?
  | .scalar reading => if reading.isEmpty then some [] else none
  | _ => none

def repeats (names : List String) (name : String) : Bool := 1 < names.count name

/-- The values of a section's fields, given under their names or in their order. Names that the
section does not have are passed over; one that it has stands once. -/
def fields? (names : List String) : Setting → Option (List (String × Setting))
  | .table _ entries =>
    let known := entries.filter fun entry => names.contains entry.1
    if names.any (repeats (known.map Prod.fst)) then none else some known
  | .list items => if names.length < items.length then none else some (names.zip items)
  | .scalar reading => if reading.isEmpty then some [] else none
  | .foreign => none

mutual

def ofJson : Json → Setting
  | .null => .scalar { isAbsent := true }
  | .bool b => .scalar { truth := some b }
  | .number _ => .scalar {}
  | .string s => .scalar { text := some s, name := some s }
  | .array items => .list (listOfJson items)
  | .object members =>
    .table (match members with
      | [(name, .null)] => some name
      | _ => none) (tableOfJson members)

def listOfJson : List Json → List Setting
  | [] => []
  | item :: items => ofJson item :: listOfJson items

def tableOfJson : List (String × Json) → List (String × Setting)
  | [] => []
  | (key, value) :: members => (key, ofJson value) :: tableOfJson members

end

/-- A scalar is read as the place asks, whatever else its text could mean. A tag of the document's
own is a name if nothing stands behind it. -/
def scalarOfYaml (tag : Option String) (style : Yaml.Style) (text : String) : Reading :=
  let plain := style = .plain
  let isNothing := plain && (text.isEmpty || Yaml.isNull text)
  { text := some text
    name :=
      if Yaml.isLocalTag tag then
        if isNothing then tag.map fun t => String.ofList t.toList.tail else none
      else some text
    truth := if plain then Yaml.bool? text else none
    isAbsent := isNothing &&
      (tag.isNone || (tag = some (Yaml.coreTag "null") && Yaml.isNull text))
    isEmpty := plain && text.isEmpty }

mutual

def ofYaml : Yaml.Tree → Setting
  | .scalar tag style text => .scalar (scalarOfYaml tag style text)
  | .sequence _ items => .list (listOfYaml items)
  | .mapping _ entries => match tableOfYaml? entries with
    | some entries => .table none entries
    | none => .foreign

def listOfYaml : List Yaml.Tree → List Setting
  | [] => []
  | tree :: trees => ofYaml tree :: listOfYaml trees

def tableOfYaml? : List (Yaml.Tree × Yaml.Tree) → Option (List (String × Setting))
  | [] => some []
  | (.scalar _ _ key, tree) :: entries =>
    (tableOfYaml? entries).map fun rest => (key, ofYaml tree) :: rest
  | _ => none

end

/-- The value of a YAML text; a text without a document is an empty table. -/
def readYaml? (text : String) : Option Setting :=
  match Yaml.document? text with
  | none => none
  | some none => some (.table none [])
  | some (some tree) => some (ofYaml tree)

/-- The key of a table's only entry, if there is nothing under it. -/
def nameOfToml : List (String × Toml) → Option String
  | [(key, .table [])] => some key
  | [(key, .array [])] => some key
  | _ => none

mutual

def ofToml : Toml → Setting
  | .text s => .scalar { text := some s, name := some s }
  | .truth b => .scalar { truth := some b }
  | .number => .scalar {}
  | .moment => .scalar {}
  | .array items => .list (listOfToml items)
  | .table entries => .table (nameOfToml entries) (tableOfToml entries)

def listOfToml : List Toml → List Setting
  | [] => []
  | item :: items => ofToml item :: listOfToml items

def tableOfToml : List (String × Toml) → List (String × Setting)
  | [] => []
  | (key, value) :: entries => (key, ofToml value) :: tableOfToml entries

end

end Setting

namespace Switches

def putSetting (s : Switches) (key : String) (value : Setting) : Option Switches :=
  match key with
  | "cache_enabled" => value.truth?.map fun b => { s with cacheEnabled := b }
  | "null_triggers_default" => value.truth?.map fun b => { s with nullFallsBack := b }
  | "absent_fields" => (value.choice? AbsentFields.names).map fun a => { s with absentFields := a }
  | _ => some s

def ofSetting (value : Setting) : Option Switches := do
  let fields ← value.fields? ["cache_enabled", "null_triggers_default", "absent_fields"]
  fields.foldlM (fun s (key, value) => s.putSetting key value) {}

end Switches

end Reshape
