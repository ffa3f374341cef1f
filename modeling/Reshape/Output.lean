import Reshape.Output.Format
import Reshape.Output.Listing
import Reshape.Output.Paint

namespace Reshape

structure Output where
  format : OutputFormat
  color : Bool := false
  quiet : Bool := false
  verbosity : Nat := 0

namespace Output

def line (text : String) : String := text ++ "\n"

def trimmedLine (text : String) : String := line (String.ofList (Text.trimEnd text.toList))

def isHuman (o : Output) : Bool := o.format = .human

def message (o : Output) (text : String) : String := if o.isHuman then line text else ""

def remark (o : Output) (text : String) : String := if o.quiet then "" else o.message text

def info (o : Output) (text : String) : String :=
  o.remark (if o.color then Paint.blue.apply "ℹ" ++ " " ++ text else "INFO: " ++ text)

def success (o : Output) (text : String) : String := o.remark (Paint.green.applyIf o.color text)

def warning (o : Output) (text : String) : String :=
  o.message (if o.color then Paint.yellow.apply text else "WARNING: " ++ text)

def error (o : Output) (text : String) : String :=
  o.message (if o.color then Paint.red.apply text else "ERROR: " ++ text)

def heading (o : Output) (title : String) : String :=
  o.remark ("\n" ++
    if o.color then Paint.brightBlue.apply ("═══ " ++ title ++ " ═══")
    else "=== " ++ title ++ " ===")

def debug (o : Output) (text : String) : String :=
  if o.verbosity = 0 then ""
  else o.message (Paint.dim.applyIf o.color "DEBUG:" ++ " " ++ Paint.dim.applyIf o.color text)

def data (o : Output) (value : Json) : String := trimmedLine (o.format.render value)

def plan (o : Output) (p : Plan) : String :=
  if o.isHuman then trimmedLine (Listing.plan p) else o.data (Listing.planJson p)

def stats (o : Output) (s : Plan.Cache.Stats) : String :=
  if o.isHuman then trimmedLine (Listing.stats s) else o.data (Listing.statsJson s)

def checkLine (o : Output) (check : Listing.Check) : String :=
  line ((if check.ok then Paint.green else Paint.red).applyIf o.color check.text)

def checks (o : Output) (list : List Listing.Check) : String :=
  if o.isHuman then String.join (list.map o.checkLine)
  else o.data (.array (list.map Listing.Check.toJson))

end Output

end Reshape
