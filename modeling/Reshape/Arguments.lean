import Reshape.Arguments.Reader

namespace Reshape

namespace Arguments

structure OverrideArguments where
  template : Option String
  fieldFilters : List String
  pipeline : List String
  deriving DecidableEq

structure MapArguments where
  catalog : Option String
  type : String
  input : Option String
  overrides : OverrideArguments
  ndjson : Bool
  omitAbsent : Bool
  nullDefault : Bool
  stats : Bool
  saveTo : Option String
  deriving DecidableEq

inductive Command where
  | map (a : MapArguments)
  | check (catalog type : Option String)
  | plan (catalog : Option String) (type : String) (overrides : OverrideArguments)
  | filters
  | initSettings (user force : Bool)
  | showSettings (form : Settings.Notation)
  | getSetting (key : String)
  | completions (shell : String)
  deriving DecidableEq

namespace Values

def one? (values : Values) (name : String) : Option String :=
  (values.lookup name).bind List.head?

def many (values : Values) (name : String) : List String := (values.lookup name).getD []

def has (values : Values) (name : String) : Bool := (values.lookup name).isSome

def overrides (values : Values) : OverrideArguments :=
  ⟨one? values "template", many values "field-filter", many values "pipeline"⟩

end Values

open Values (one? has)

def commandOf (level : Level) (values : Values) : Option Command :=
  match level with
  | .map => some (.map {
      catalog := one? values "catalog"
      type := (one? values "type").getD ""
      input := one? values "input"
      overrides := Values.overrides values
      ndjson := has values "ndjson"
      omitAbsent := has values "omit-absent"
      nullDefault := has values "null-default"
      stats := has values "stats"
      saveTo := one? values "save-to" })
  | .check => some (.check (one? values "catalog") (one? values "type"))
  | .plan => some (.plan (one? values "catalog") ((one? values "type").getD "")
      (Values.overrides values))
  | .filters => some .filters
  | .configInit => some (.initSettings (has values "user") (has values "force"))
  | .configShow => some (.showSettings
      (((one? values "format").bind fun f => Settings.Notation.names.lookup f).getD .toml))
  | .configGet => some (.getSetting ((one? values "key").getD ""))
  | .completions => some (.completions ((one? values "shell").getD ""))
  | _ => none

end Arguments

structure Arguments where
  command : Arguments.Command
  verbose : Nat := 0
  quiet : Bool := false
  settingsFile : Option String := none
  output : Option OutputFormat := none
  color : Bool := true
  deriving DecidableEq

namespace Arguments

/-- The values of a parameter that every level has: those of the innermost level that gives any. -/
def sharedValues (reading : Reading) (name : String) : List String :=
  (reading.reverse.findSome? fun entry => entry.2.lookup name).getD []

def ofReading (environment : Environment) (reading : Reading) : Option Arguments := do
  let (level, values) ← reading.getLast?
  let command ← commandOf level values
  return {
    command
    verbose := (sharedValues reading "verbose").length
    quiet := !(sharedValues reading "quiet").isEmpty
    settingsFile :=
      (sharedValues reading "config").head?.or (environment.lookup "DTOMAP_CONFIG")
    output := (sharedValues reading "output").head?.bind fun f => OutputFormat.names.lookup f
    color := (sharedValues reading "no-color").isEmpty }

def parse (environment : Environment) (arguments : List String) : Except Refusal Arguments := do
  match ofReading environment (← read environment arguments) with
  | some a => return a
  | none => throw .missingCommand

def verbosity (a : Arguments) : Nat := if a.quiet then 0 else a.verbose

end Arguments

end Reshape
