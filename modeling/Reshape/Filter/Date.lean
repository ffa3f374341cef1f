import Reshape.Calendar.Reader
import Reshape.Calendar.Writer
import Reshape.Filter.Arguments

namespace Reshape.Filter

/-- Seconds since 1970: a whole number that 64 bits hold, or the nearest one that they do. -/
def secondsOf : Json.Number → Int
  | .whole n => min n maxInt64
  | .float f => max minInt64 (min f.truncate maxInt64)

def momentOfNumber (n : Json.Number) : Except Failure Calendar.Moment :=
  match Calendar.Moment.ofTimestamp? (secondsOf n) with
  | some m => .ok m
  | none => .error (.timestampOutOfRange (secondsOf n))

/-- Texts without a format of their own are timestamps, dates with a time, or dates. -/
def momentOfText? (cs : List Char) : Option Calendar.Moment :=
  ((Calendar.Moment.readStandard? cs).or
    (Calendar.Moment.read? "%Y-%m-%d %H:%M:%S".toList cs)).or
    (Calendar.Moment.read? "%Y-%m-%d".toList cs)

def momentOf (value : Json) (inputFormat : Option (List Char)) : Except Failure Calendar.Moment :=
  match value with
  | .number n => momentOfNumber n
  | .string s =>
    let cs := Text.trim s.toList
    let trimmed := String.ofList cs
    match inputFormat with
    | some format => match Calendar.Moment.read? format cs with
      | some m => .ok m
      | none => .error (.dateMismatch trimmed (String.ofList format))
    | none => match momentOfText? cs with
      | some m => .ok m
      | none => .error (.notDate (.string trimmed))
  | _ => .error (.notDate value)

/-- Writes a date in a format. Null stays null, whatever the arguments are. -/
def date : Filter := fun value arguments => do
  match value with
  | .null => return .null
  | _ =>
    let format ← text "date" arguments 0
    let m ← momentOf value (text? arguments 1)
    match m.write? format with
    | some written => return .string (String.ofList written)
    | none => throw (.invalidDateFormat (String.ofList format))

def dates : List (String × Filter) := [("date", date)]

end Reshape.Filter
