import Reshape.Descriptor.Json
import Reshape.Files
import Reshape.Json.Reader
import Reshape.Yaml.Json

namespace Reshape

namespace Catalog

inductive Format where
  | yaml
  | json
  deriving DecidableEq

def fault (message : String) : Error := .catalog message none

def readText (format : Format) (text : String) : Except Error Json :=
  match format with
  | .yaml => match Yaml.readJson? text with
    | some value => .ok value
    | none => .error (fault "Invalid YAML catalog")
  | .json => match Json.read? text with
    | some value => .ok value
    | none => .error (fault "Invalid JSON catalog")

def entries : Json → Except Error (List Json)
  | .array items => .ok items
  | .object members => match members.lookup "types" with
    | some (.array items) => .ok items
    | some _ => .error (fault "`types` must be a list")
    | none => .error (fault shapeFault)
  | _ => .error (fault shapeFault)
where
  shapeFault : String := "Catalog must be a list of types or a document with a `types` list"

/-- An entry's number, counted from one, and its id if it has one. -/
def label (index : Nat) (entry : Json) : String :=
  match (entry.asObject?.bind (·.get? "id")).bind Json.asString? with
  | some id => s!"type #{index + 1} ('" ++ id ++ "')"
  | none => s!"type #{index + 1}"

/-- Decodes entries; `index` is the number of the first one. -/
def decodeFrom (index : Nat) : List Json → Except Error (List Descriptor)
  | [] => .ok []
  | entry :: rest => match Descriptor.ofJson entry with
    | .error mismatch =>
      .error (fault ("Invalid " ++ label index entry ++ ": " ++ mismatch.message))
    | .ok d => (decodeFrom (index + 1) rest).map (d :: ·)

def checkFrom (seen : List String) : List Descriptor → Except Error Unit
  | [] => .ok ()
  | d :: ds => match d.validate with
    | .error error => .error error
    | .ok () =>
      if seen.contains d.id then .error (fault ("Type '" ++ d.id ++ "' is declared twice"))
      else checkFrom (d.id :: seen) ds

/-- The types of a catalog: all entries are decoded before any of them is checked. -/
def ofJson (document : Json) : Except Error (List Descriptor) := do
  let types ← decodeFrom 0 (← entries document)
  checkFrom [] types
  return types

def parse (format : Format) (text : String) : Except Error (List Descriptor) := do
  ofJson (← readText format text)

/-- The format that a file's extension stands for, in whatever case it is written. -/
def Format.ofFileName? (name : String) : Option Format :=
  match (FileName.extension? name).map fun e => String.ofList (Text.lower e.toList) with
  | some "yaml" => some .yaml
  | some "yml" => some .yaml
  | some "json" => some .json
  | _ => none

def locate (name : String) : Error → Error
  | .catalog message _ => .catalog message (some name)
  | error => error

def load (files : Files) (name : String) : Except Error (List Descriptor) :=
  match Format.ofFileName? name with
  | none =>
    .error (.catalog "Unsupported catalog format, expected .yaml, .yml or .json" (some name))
  | some format => match files.text? name with
    | none => .error (.catalog "Failed to read catalog" (some name))
    | some text => (parse format text).mapError (locate name)

end Catalog

end Reshape
