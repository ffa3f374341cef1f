import Reshape.Error
import Reshape.Output.Paint

namespace Reshape

inductive SettingsFault where
  /-- A file that is not written as its extension says, or holds values that do not fit. -/
  | unreadable (file : String)
  | unknownOutputFormat (name : String)
  | unknownLogFormat (name : String)
  | unknownKey (key : String)
  | noUserDirectory
  | invalidLogLevel (level : String)
  | invalidLogFile (file : String)
  deriving DecidableEq

inductive ArgumentFault where
  | noCatalog
  | notFieldFilter (text : String)
  | emptyFieldName (text : String)
  | invalidFilter (text : String) (error : BuildError)
  deriving DecidableEq

inductive Problem where
  | io
  | core (error : Error)
  /-- The error of the record with this number, counted from zero. -/
  | record (index : Nat) (error : Error)
  | fileNotFound (file : String)
  | invalidFormat (file expected : String)
  | settings (fault : SettingsFault)
  | arguments (fault : ArgumentFault)
  | checkFailed (failed total : Nat)
  | json
  | yaml
  /-- A line of the input, counted from one, that is no JSON. -/
  | badLine (line : Nat)
  | logInUse

def SettingsFault.message : SettingsFault → String
  | .unreadable file => file
  | .unknownOutputFormat name => "Unknown output format '" ++ name ++ "'"
  | .unknownLogFormat name => "Unknown log format '" ++ name ++ "'"
  | .unknownKey key => "Unknown configuration key: " ++ key
  | .noUserDirectory => "Unable to determine user config directory"
  | .invalidLogLevel level => "Invalid log level '" ++ level ++ "'"
  | .invalidLogFile file => "Invalid log file: " ++ file

def ArgumentFault.message : ArgumentFault → String
  | .noCatalog => "no catalog given; pass --catalog or set paths.catalog in the config"
  | .notFieldFilter text => "--field-filter '" ++ text ++ "' is not FIELD=FILTER"
  | .emptyFieldName text => "--field-filter '" ++ text ++ "' has an empty field name"
  | .invalidFilter text error => "invalid filter '" ++ text ++ "': " ++ error.message

namespace Problem

def message : Problem → String
  | .io => "IO error"
  | .core error => error.message
  | .record index error => s!"Record {index}: " ++ error.message
  | .fileNotFound file => "File not found: " ++ file
  | .invalidFormat file expected =>
    "Invalid file format for " ++ file ++ ": expected " ++ expected
  | .settings fault => "Configuration error: " ++ fault.message
  | .arguments fault => "Invalid arguments: " ++ fault.message
  | .checkFailed failed total => s!"{failed} of {total} type(s) failed to build"
  | .json => "JSON error"
  | .yaml => "YAML error"
  | .badLine line => s!"Invalid JSON on line {line}"
  | .logInUse =>
    "Failed to initialize logging: a global default trace dispatcher has already been set"

def exitCode : Problem → Nat
  | .io => 1
  | .core _ => 2
  | .record _ _ => 2
  | .fileNotFound _ => 3
  | .invalidFormat _ _ => 4
  | .settings _ => 5
  | .arguments _ => 6
  | .checkFailed _ _ => 7
  | .json => 12
  | .yaml => 13
  | .badLine _ => 99
  | .logInUse => 99

def pointsToHelp : Problem → Bool
  | .arguments _ => true
  | _ => false

def error? : Problem → Option Error
  | .core error => some error
  | .record _ error => some error
  | _ => none

end Problem

/-- How many characters of a text stand before a byte position, if it is between two of them. -/
def columnAt? : List Char → Nat → Option Nat
  | _, 0 => some 0
  | [], _ => none
  | c :: cs, position =>
    if c.utf8Size ≤ position then (columnAt? cs (position - c.utf8Size)).map (· + 1) else none

/-- The column of a byte position; a position that is not between two characters counts as the
end. -/
def columnOf (text : List Char) (position : Nat) : Nat :=
  (columnAt? text position).getD text.length

/-- An expression, and a mark below the character at a byte position. -/
def snippet (color : Bool) (expression : String) (position : Nat) : String :=
  let column := columnOf expression.toList position
  let mark := String.ofList (List.replicate column ' ' ++ ['^'])
  "    " ++ expression ++ "\n    " ++ Paint.boldRed.applyIf color mark

namespace Problem

/-- The text that a problem is reported with. Malformed templates are shown once more, with a mark
at the fault. -/
def report (color : Bool) (problem : Problem) : String :=
  let text := Paint.boldRed.applyIf color "Error:" ++ " " ++ problem.message
  match problem.error? with
  | some (.build (.malformed _ position expression _)) =>
    text ++ "\n" ++ snippet color expression position
  | _ => text

end Problem

end Reshape
