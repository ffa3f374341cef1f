import Reshape.Filter.Failure

namespace Reshape

/-- Faults of a type and its overrides. No record can cause one. -/
inductive BuildError where
  /-- `position` is a byte offset into `expression`. -/
  | malformed (message : String) (position : Nat) (expression : String) (field : Option String)
  | unknownFilter (name : String) (field : Option String)
  | invalidReference (reference message : String)
  deriving DecidableEq

namespace BuildError

/-- Names the field the fault belongs to, unless one is named already. -/
def forField (field : String) : BuildError → BuildError
  | .malformed message position expression none =>
    .malformed message position expression (some field)
  | .unknownFilter name none => .unknownFilter name (some field)
  | error => error

def field? : BuildError → Option String
  | .malformed _ _ _ field => field
  | .unknownFilter _ field => field
  | .invalidReference _ _ => none

def fieldSuffix : Option String → String
  | some field => " (field '" ++ field ++ "')"
  | none => ""

def message : BuildError → String
  | .malformed message position expression field =>
    "Expression syntax error" ++ fieldSuffix field ++ s!" at position {position}: " ++ message ++
      " in `" ++ expression ++ "`"
  | .unknownFilter name field => "Filter not found: '" ++ name ++ "'" ++ fieldSuffix field
  | .invalidReference reference message =>
    "Invalid filter reference `" ++ reference ++ "`: " ++ message

end BuildError

inductive Error where
  | build (error : BuildError)
  | filterFailed (field filter : String) (cause : Filter.Failure)
  | unknownType (id : String)
  | catalog (message : String) (path : Option String)
  | configuration (message : String)
  | json (detail : String)
  | io (detail : String)

inductive Error.Kind where
  | expressionSyntax
  | filterNotFound
  | filterExecution
  | unknownType
  | catalog
  | configuration
  | io
  deriving DecidableEq

namespace Error

def Kind.text : Kind → String
  | .expressionSyntax => "expression_syntax"
  | .filterNotFound => "filter_not_found"
  | .filterExecution => "filter_execution"
  | .unknownType => "unknown_type"
  | .catalog => "catalog"
  | .configuration => "configuration"
  | .io => "io"

def Kind.tag : Kind → String
  | .expressionSyntax => "ExpressionSyntax"
  | .filterNotFound => "FilterNotFound"
  | .filterExecution => "FilterExecution"
  | .unknownType => "UnknownType"
  | .catalog => "Catalog"
  | .configuration => "Configuration"
  | .io => "Io"

def kind : Error → Kind
  | .build (.malformed ..) => .expressionSyntax
  | .build (.unknownFilter ..) => .filterNotFound
  | .build (.invalidReference ..) => .expressionSyntax
  | .filterFailed .. => .filterExecution
  | .unknownType _ => .unknownType
  | .catalog .. => .catalog
  | .configuration _ => .configuration
  | .json _ => .io
  | .io _ => .io

def isBuildError : Error → Bool
  | .build _ => true
  | _ => false

def message : Error → String
  | .build error => error.message
  | .filterFailed field filter cause =>
    "Filter '" ++ filter ++ "' failed on field '" ++ field ++ "': " ++ cause.message
  | .unknownType id => "Unknown target type: " ++ id
  | .catalog message _ => "Catalog error: " ++ message
  | .configuration message => "Configuration error: " ++ message
  | .json detail => "JSON error: " ++ detail
  | .io detail => "IO error: " ++ detail

end Error

end Reshape
