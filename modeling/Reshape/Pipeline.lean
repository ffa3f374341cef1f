import Reshape.Filter.Registry

namespace Reshape.Pipeline

/-- Runs filters in order on a value of `field`, up to the first that refuses. -/
def run (field : String) : List Filter.Bound → Json → Except Error Json
  | [], value => .ok value
  | bound :: rest, value => match bound.apply value with
    | .ok value => run field rest value
    | .error cause => .error (.filterFailed field bound.reference.name cause)

end Reshape.Pipeline
