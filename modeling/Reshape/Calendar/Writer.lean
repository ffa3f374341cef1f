import Reshape.Calendar.Directive
import Reshape.Calendar.Moment
import Reshape.Number.Text

namespace Reshape.Calendar

namespace Quantity

def ofMoment (q : Quantity) (m : Moment) : Int :=
  match q with
  | .year => m.date.year
  | .century => m.date.year / 100
  | .yearOfCentury => m.date.year % 100
  | .isoYear => m.date.isoWeek.1
  | .isoYearOfCentury => m.date.isoWeek.1 % 100
  | .quarter => m.date.quarter
  | .month => m.date.month
  | .day => m.date.day
  | .weekFromSunday => m.date.weekFromSunday
  | .weekFromMonday => m.date.weekFromMonday
  | .isoWeek => m.date.isoWeek.2
  | .fromSunday => m.date.fromSunday
  | .fromMonday => m.date.weekday + 1
  | .ordinal => m.date.ordinal
  | .hour => m.clock.hour
  | .hour12 => m.clock.hour12
  | .minute => m.clock.minute
  | .second => m.clock.shownSecond
  | .nanosecond => m.clock.fraction
  | .timestamp => m.timestamp

end Quantity

/-- A number of at least `width` characters, its sign included; zeros go behind the sign, blanks
in front of it. -/
def padNumber (width : Nat) (p : Padding) (signed : Bool) (n : Int) : List Char :=
  let sign := if n < 0 then ['-'] else if signed then ['+'] else []
  let digits := digitsOf n.natAbs
  let missing := width - (sign.length + digits.length)
  match p with
  | .nothing => sign ++ digits
  | .zero => sign ++ List.replicate missing '0' ++ digits
  | .blank => List.replicate missing ' ' ++ sign ++ digits

/-- A number below 256 of two places. The first place goes on behind nine with the characters
that follow it. -/
def twoPlaces (p : Padding) (n : Nat) : List Char :=
  let last := Char.ofNat (48 + n % 10)
  match n / 10, p with
  | 0, .nothing => [last]
  | 0, .blank => [' ', last]
  | tens, _ => [Char.ofNat (48 + tens), last]

/-- Years have four places, and a sign if four places are not enough or the year is negative. -/
def yearText (p : Padding) (year : Int) : List Char :=
  -- the fifth place is the sign's
  if 0 ≤ year ∧ year < 10000 then padNumber 4 p false year else padNumber 5 p true year

def numberText (q : Quantity) (p : Padding) (n : Int) : List Char :=
  match q with
  | .year | .isoYear => yearText p n
  | .ordinal => padNumber 3 p false n
  | .nanosecond | .timestamp => padNumber 9 p false n
  | .quarter | .fromSunday | .fromMonday => padNumber 1 .nothing false n
  | _ => twoPlaces p (n % 256).toNat

def decimalsText (count nanosecond : Nat) : List Char :=
  padNumber count .zero false (nanosecond / Nat.pow 10 (9 - count) : Nat)

/-- Thousandths, millionths or billionths, whatever is exact; nothing for whole seconds. -/
def fractionText (nanosecond : Nat) : List Char :=
  if nanosecond = 0 then []
  else if nanosecond % 1000000 = 0 then '.' :: decimalsText 3 nanosecond
  else if nanosecond % 1000 = 0 then '.' :: decimalsText 6 nanosecond
  else '.' :: decimalsText 9 nanosecond

def halfText (afternoon upper : Bool) : List Char :=
  match afternoon, upper with
  | false, true => ['A', 'M']
  | true, true => ['P', 'M']
  | false, false => ['a', 'm']
  | true, false => ['p', 'm']

def nameAt (names : List String) (index : Nat) : List Char := (names[index]?.getD "").toList

/-- The text of a directive. A moment has no zone to write. -/
def Directive.write? (m : Moment) : Directive → Option (List Char)
  | .literal c | .blank c => some [c]
  | .number q p => some (numberText q p (q.ofMoment m))
  | .shortMonth => some ((nameAt monthNames (m.date.month - 1)).take 3)
  | .longMonth => some (nameAt monthNames (m.date.month - 1))
  | .shortWeekday => some ((nameAt weekdayNames m.date.weekday).take 3)
  | .longWeekday => some (nameAt weekdayNames m.date.weekday)
  | .half upper => some (halfText m.clock.isAfternoon upper)
  | .fraction => some (fractionText m.clock.fraction)
  | .decimals count point =>
    some ((if point then ['.'] else []) ++ decimalsText count m.clock.fraction)
  | .zoneName | .offset _ | .standard => none

/-- Writes a moment in a format, if that is one and asks for nothing that a moment lacks. -/
def Moment.write? (m : Moment) (format : List Char) : Option (List Char) := do
  let directives ← Directive.read? format
  return (← directives.mapM (Directive.write? m)).flatten

end Reshape.Calendar
