import Reshape.Files
import Reshape.Json.Reader
import Reshape.Setting
import Reshape.Settings.Writer

namespace Reshape

def OutputSettings.ofSetting? (value : Setting) : Option OutputSettings := do
  let fields ← value.fields? ["format", "color", "progress"]
  fields.foldlM (fun (s : OutputSettings) (key, value) => match key with
    | "format" => value.text?.map fun text => { s with format := text }
    | "color" => value.truth?.map fun b => { s with color := b }
    | "progress" => value.truth?.map fun b => { s with progress := b }
    | _ => some s) {}

def LogSettings.ofSetting? (value : Setting) : Option LogSettings := do
  let fields ← value.fields? ["level", "format", "file", "redact_keys"]
  fields.foldlM (fun (s : LogSettings) (key, value) => match key with
    | "level" => value.text?.map fun text => { s with level := text }
    | "format" => value.text?.map fun text => { s with format := text }
    | "file" => value.optionalText?.map fun file => { s with file }
    | "redact_keys" => value.texts?.map fun keys => { s with redactKeys := keys }
    | _ => some s) {}

namespace Settings

def catalogOfSetting? (value : Setting) : Option (Option String) := do
  let fields ← value.fields? ["catalog"]
  fields.foldlM (fun _ (_, value) => value.optionalText?) none

def ofSetting? (value : Setting) : Option Settings := do
  let fields ← value.fields? ["engine", "output", "logging", "paths"]
  fields.foldlM (fun (s : Settings) (key, value) => match key with
    | "engine" => (Switches.ofSetting value).map fun engine => { s with engine }
    | "output" => (OutputSettings.ofSetting? value).map fun output => { s with output }
    | "logging" => (LogSettings.ofSetting? value).map fun log => { s with log }
    | "paths" => (catalogOfSetting? value).map fun catalog => { s with catalog }
    | _ => some s) {}

def readText? (form : Notation) (text : String) : Option Setting :=
  match form with
  | .toml => (Toml.read? text).map fun entries => .ofToml (.table entries)
  | .json => (Json.readTree? text).map .ofJson
  | .yaml => Setting.readYaml? text

def parse? (form : Notation) (text : String) : Option Settings :=
  (readText? form text).bind ofSetting?

def ofFile (files : Files) (name : String) : Except Problem Settings :=
  match files.find? name with
  | none => .error (.fileNotFound name)
  | some (.text content) => do
    let form ← Notation.ofFileName name
    match parse? form content with
    | some s => return { s with source := some name }
    | none => throw (.settings (.unreadable name))
  | some _ => .error .io

/-- Files of the working directory that settings are looked for in, in this order. -/
def projectFiles : List String :=
  [".dtomap.toml", ".dtomap.yaml", ".dtomap.yml", ".dtomap.json"].map (FileName.join ".")

def userFile (directory : String) : String :=
  FileName.join (FileName.join directory "dtomap") "config.toml"

/-- The settings in force: those of the file given, or of the first file there is, or what holds
without one. -/
def load (files : Files) (directory : Option String) (file : Option String) :
    Except Problem Settings := do
  let candidates := projectFiles ++ (directory.map userFile).toList
  match file.or (candidates.find? files.has) with
  -- a file that is named is read even if it is not there, which is an error
  | some name => (← ofFile files name).validate
  | none => return {}

end Settings

end Reshape
