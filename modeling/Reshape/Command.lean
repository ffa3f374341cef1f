import Reshape.Command.Check
import Reshape.Command.Map
import Reshape.Command.Show

namespace Reshape

namespace Arguments

def outputOf (a : Arguments) (settings : Settings) (terminal : Bool) : Output :=
  { format := a.output.getD settings.outputFormat
    color := terminal && a.color && settings.output.color
    quiet := a.quiet
    verbosity := a.verbosity }

end Arguments

namespace Command

open Arguments (Command)

def run : Command → Action Unit
  | .map a => map a
  | .check catalog type => check catalog type
  | .plan catalog type overrides => showPlan catalog type overrides
  | .filters => showFilters
  | .initSettings user force => initSettings user force
  | .showSettings form => showSettings form
  | .getSetting key => showSetting key
  | .completions shell => showCompletions shell

end Command

end Reshape
