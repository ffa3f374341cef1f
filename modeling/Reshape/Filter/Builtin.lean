import Reshape.Filter.Collection
import Reshape.Filter.Conversion
import Reshape.Filter.Date
import Reshape.Filter.Pattern
import Reshape.Filter.Registry
import Reshape.Filter.Text

namespace Reshape.Filter

def Registry.builtin : Registry :=
  Registry.empty.insertAll (texts ++ patterns ++ collections ++ conversions ++ dates)

end Reshape.Filter
