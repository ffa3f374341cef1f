import Reshape.FileName
import Reshape.Log.Filter
import Reshape.Settings

namespace Reshape

structure Log where
  level : String := "warn"
  format : Log.Format := .compact
  console : Bool := true
  file : Option String := none
  threads : Bool := false
  positions : Bool := false
  deriving DecidableEq

namespace Log

def ofSettings (s : LogSettings) : Log :=
  { level := s.level, format := (Format.ofName? s.format).getD .compact, file := s.file }

def withVerbosity (log : Log) : Nat → Log
  | 0 => log
  | 1 => { log with level := "info" }
  | 2 => { log with level := "debug", positions := true }
  | _ => { log with level := "trace", format := .full, positions := true, threads := true }

/-- Takes up the variables of an environment. A format of an unknown name is passed over. -/
def withEnvironment (log : Log) (environment : List (String × String)) : Log :=
  { log with
    level := (environment.lookup "RUST_LOG").getD log.level
    format :=
      ((environment.lookup "DTOMAP_LOG_FORMAT").bind Format.ofName?).getD log.format
    file := (environment.lookup "DTOMAP_LOG_FILE").or log.file }

/-- A quiet command logs errors, and those not on the terminal. -/
def quieted (log : Log) (quiet : Bool) : Log :=
  if quiet then { log with level := "error", console := false } else log

def openFilter (log : Log) : Except Problem Log.Filter :=
  match Filter.ofText? log.level with
  | none => .error (.settings (.invalidLogLevel log.level))
  | some filter => match log.file with
    | none => .ok filter
    | some file =>
      if (FileName.base? file).isNone then .error (.settings (.invalidLogFile file))
      else .ok filter

def opened : Event := ⟨.command, .info, "Logging system initialized", none⟩

end Log

end Reshape
