import Reshape.Output.Format
import Reshape.Settings.Writer

namespace Reshape.Arguments

inductive Kind where
  | flag
  | count
  | text
  /-- A name that is not empty. -/
  | file
  | choice (names : List String)
  | help
  | version
  deriving DecidableEq

structure Parameter where
  /-- Also the name behind two dashes. -/
  name : String
  letter : Option Char := none
  kind : Kind
  repeats : Bool := false
  deriving DecidableEq

namespace Parameter

def takesValue (p : Parameter) : Bool :=
  match p.kind with
  | .text => true
  | .file => true
  | .choice _ => true
  | _ => false

def accepts (p : Parameter) (value : String) : Bool :=
  match p.kind with
  | .file => !value.isEmpty
  | .choice names => names.contains value
  | _ => true

end Parameter

def shells : List String := ["bash", "zsh", "fish", "power-shell", "elvish"]

inductive Level where
  | program
  | map
  | check
  | plan
  | filters
  | config
  | configInit
  | configShow
  | configGet
  | completions
  | help
  deriving DecidableEq

namespace Level

def name : Level → String
  | .program => "dtomap"
  | .map => "map"
  | .check => "check"
  | .plan => "plan"
  | .filters => "filters"
  | .config => "config"
  | .configInit => "init"
  | .configShow => "show"
  | .configGet => "get"
  | .completions => "completions"
  | .help => "help"

/-- The commands inside a level. A level with any has to be followed by one of them. -/
def commands : Level → List Level
  | .program => [.map, .check, .plan, .filters, .config, .completions, .help]
  | .config => [.configInit, .configShow, .configGet, .help]
  | _ => []

def command? (level : Level) (word : String) : Option Level :=
  level.commands.find? fun inner => inner.name = word

def shared : List Parameter := [
  ⟨"verbose", some 'v', .count, true⟩,
  ⟨"quiet", some 'q', .flag, false⟩,
  ⟨"config", some 'c', .file, false⟩,
  ⟨"output", some 'o', .choice (OutputFormat.names.map Prod.fst), false⟩,
  ⟨"no-color", none, .flag, false⟩,
  ⟨"help", some 'h', .help, false⟩,
  ⟨"version", some 'V', .version, false⟩]

def catalog : Parameter := ⟨"catalog", none, .file, false⟩

def type : Parameter := ⟨"type", some 't', .text, false⟩

def overrides : List Parameter := [
  ⟨"template", none, .file, false⟩,
  ⟨"field-filter", none, .text, true⟩,
  ⟨"pipeline", none, .text, true⟩]

def own : Level → List Parameter
  | .map => [catalog, type] ++ overrides ++ [
      ⟨"ndjson", none, .flag, false⟩,
      ⟨"omit-absent", none, .flag, false⟩,
      ⟨"null-default", none, .flag, false⟩,
      ⟨"stats", none, .flag, false⟩,
      ⟨"save-to", none, .file, false⟩]
  | .check => [catalog, type]
  | .plan => [catalog, type] ++ overrides
  | .configInit => [⟨"user", none, .flag, false⟩, ⟨"force", none, .flag, false⟩]
  | .configShow => [⟨"format", some 'f', .choice (Settings.Notation.names.map Prod.fst), false⟩]
  | _ => []

def parameters (level : Level) : List Parameter := level.own ++ shared

def place? : Level → Option Parameter
  | .map => some ⟨"input", none, .file, false⟩
  | .configGet => some ⟨"key", none, .text, false⟩
  | .completions => some ⟨"shell", none, .choice shells, false⟩
  | _ => none

def required : Level → List String
  | .map => ["type"]
  | .plan => ["type"]
  | .configGet => ["key"]
  | .completions => ["shell"]
  | _ => []

def named? (level : Level) (name : String) : Option Parameter :=
  level.parameters.find? fun p => p.name = name

def lettered? (level : Level) (letter : Char) : Option Parameter :=
  level.parameters.find? fun p => p.letter = some letter

end Level

end Reshape.Arguments
