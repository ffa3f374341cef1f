import Reshape.Filter.Arguments
import Reshape.Pattern.Replace

namespace Reshape.Filter

/-- The pattern is read before the value is looked at. -/
def regexReplace : Filter := fun value arguments => do
  let pattern ← text "regex_replace" arguments 0
  let replacement := (text? arguments 1).getD []
  match Pattern.ofText? pattern with
  | none => throw (.invalidPattern (String.ofList pattern))
  | some p => return onString (p.replaceAll replacement) value

def patterns : List (String × Filter) := [("regex_replace", regexReplace)]

end Reshape.Filter
