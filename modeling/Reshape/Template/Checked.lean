import Reshape.Filter.Registry
import Reshape.Template.Reader

namespace Reshape.Template

def Rejection.error (text : List Char) : Rejection → BuildError
  | .fault found =>
    .malformed found.cause.message (offsetOf text found.place) (String.ofList text) none
  | .unknownFilter name => .unknownFilter name none

def readKnown (known : String → Bool) (text : String) : Except BuildError Expr :=
  (parse known text.toList).mapError (Rejection.error text.toList)

def read (text : String) : Except BuildError Expr := readKnown anyName text

def readWith (registry : Filter.Registry) (text : String) : Except BuildError Expr :=
  readKnown registry.contains text

/-- Reads a source path, without blocks. -/
def readPath (text : String) : Except BuildError Path :=
  (Path.parse text.toList).mapError fun (cause, place) =>
    .malformed cause.message (offsetOf text.toList place) text none

end Reshape.Template
