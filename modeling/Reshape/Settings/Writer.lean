import Reshape.FileName
import Reshape.Settings
import Reshape.Toml.Writer

namespace Reshape.Settings

inductive Notation where
  | toml
  | json
  | yaml
  deriving DecidableEq

namespace Notation

def names : List (String × Notation) := [("toml", .toml), ("json", .json), ("yaml", .yaml)]

def ofFileName (name : String) : Except Problem Notation :=
  match FileName.extension? name with
  | some "toml" => .ok .toml
  | some "yaml" => .ok .yaml
  | some "yml" => .ok .yaml
  | some "json" => .ok .json
  | _ => .error (.invalidFormat name "a .toml, .yaml or .json config file")

end Notation

open Toml (Entry)

def sections (s : Settings) : List (String × List (String × Entry)) := [
  ("engine", [
    ("cache_enabled", .truth s.engine.cacheEnabled),
    ("null_triggers_default", .truth s.engine.nullFallsBack),
    ("absent_fields", .text s.engine.absentFields.text)]),
  ("output", [
    ("format", .text s.output.format),
    ("color", .truth s.output.color),
    ("progress", .truth s.output.progress)]),
  ("logging", [
    ("level", .text s.log.level),
    ("format", .text s.log.format)] ++
    (s.log.file.map fun file => ("file", Entry.text file)).toList ++
    [("redact_keys", .texts s.log.redactKeys)]),
  ("paths", (s.catalog.map fun file => ("catalog", Entry.text file)).toList)]

def entryJson : Entry → Json
  | .text s => .string s
  | .truth b => .bool b
  | .texts list => .strings list

def toJson (s : Settings) : Json :=
  .object (s.sections.map fun part =>
    (part.1, .object (part.2.map fun entry => (entry.1, entryJson entry.2))))

def write (s : Settings) : Notation → String
  | .toml => Toml.write s.sections
  | .json => s.toJson.writePretty
  | .yaml => Yaml.write s.toJson

end Reshape.Settings
