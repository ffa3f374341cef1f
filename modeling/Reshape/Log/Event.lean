namespace Reshape.Log

inductive Level where
  | trace
  | debug
  | info
  | warn
  | error
  deriving DecidableEq, Inhabited

namespace Level

def text : Level → String
  | .trace => "TRACE"
  | .debug => "DEBUG"
  | .info => "INFO"
  | .warn => "WARN"
  | .error => "ERROR"

/-- How much a log has to show for events of this level to be among it. -/
def detail : Level → Nat
  | .error => 1
  | .warn => 2
  | .info => 3
  | .debug => 4
  | .trace => 5

end Level

inductive Origin where
  | mapping
  | command
  deriving DecidableEq, Inhabited

def Origin.target : Origin → String
  | .mapping => "dtomap_core"
  | .command => "dtomap"

structure Event where
  origin : Origin
  level : Level
  message : String
  record : Option String := none
  deriving DecidableEq, Inhabited

end Reshape.Log
