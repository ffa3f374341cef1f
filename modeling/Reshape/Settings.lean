import Reshape.Engine.Switches
import Reshape.Log.Format
import Reshape.Output.Format
import Reshape.Problem

namespace Reshape

structure OutputSettings where
  format : String := "human"
  color : Bool := true
  progress : Bool := true
  deriving DecidableEq, Inhabited

structure LogSettings where
  level : String := "warn"
  format : String := "compact"
  file : Option String := none
  redactKeys : List String := ["password", "secret", "token", "api_key"]
  deriving DecidableEq, Inhabited

structure Settings where
  engine : Switches := {}
  output : OutputSettings := {}
  log : LogSettings := {}
  catalog : Option String := none
  source : Option String := none
  deriving DecidableEq, Inhabited

namespace Settings

def truthText (b : Bool) : String := if b then "true" else "false"

def values (s : Settings) : List (String × String) := [
  ("engine.cache_enabled", truthText s.engine.cacheEnabled),
  ("engine.null_triggers_default", truthText s.engine.nullFallsBack),
  ("engine.absent_fields", s.engine.absentFields.text),
  ("output.format", s.output.format),
  ("output.color", truthText s.output.color),
  ("output.progress", truthText s.output.progress),
  ("logging.level", s.log.level),
  ("logging.format", s.log.format),
  ("logging.file", s.log.file.getD ""),
  ("logging.redact_keys", ",".intercalate s.log.redactKeys),
  ("paths.catalog", s.catalog.getD "")]

def get (s : Settings) (key : String) : Except Problem String :=
  match s.values.lookup key with
  | some text => .ok text
  | none => .error (.settings (.unknownKey key))

def validate (s : Settings) : Except Problem Settings :=
  if (OutputFormat.ofName? s.output.format).isNone then
    .error (.settings (.unknownOutputFormat s.output.format))
  else if (Log.Format.ofName? s.log.format).isNone then
    .error (.settings (.unknownLogFormat s.log.format))
  else .ok s

/-- The format that results are written in unless a command says otherwise. -/
def outputFormat (s : Settings) : OutputFormat :=
  (OutputFormat.ofName? s.output.format).getD .human

end Settings

end Reshape
