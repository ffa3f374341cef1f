import Reshape.Calendar.Date

namespace Reshape.Calendar

/-- The time of a day. In a leap second the nanoseconds go on beyond a second's. -/
structure Clock where
  hour : Nat := 0
  minute : Nat := 0
  second : Nat := 0
  nanosecond : Nat := 0
  deriving DecidableEq

namespace Clock

def perSecond : Nat := 1000000000

/-- The second as a clock shows it, which is 60 in a leap second. -/
def shownSecond (c : Clock) : Nat := c.second + c.nanosecond / perSecond

def fraction (c : Clock) : Nat := c.nanosecond % perSecond

def isAfternoon (c : Clock) : Bool := 12 ≤ c.hour

/-- The hour on a clock of twelve hours, which starts at 12. -/
def hour12 (c : Clock) : Nat := if c.hour % 12 = 0 then 12 else c.hour % 12

def secondsOfDay (c : Clock) : Nat := c.hour * 3600 + c.minute * 60 + c.second

end Clock

structure Moment where
  date : Date
  clock : Clock := {}
  deriving DecidableEq

namespace Moment

def epochDay : Int := 719162

def secondsPerDay : Int := 86400

def timestamp (m : Moment) : Int :=
  (m.date.dayNumber - epochDay) * secondsPerDay + m.clock.secondsOfDay

def ofTimestamp? (seconds : Int) : Option Moment := do
  let date ← Date.ofDayNumber? (seconds / secondsPerDay + epochDay)
  let rest := (seconds % secondsPerDay).toNat
  return ⟨date, { hour := rest / 3600, minute := rest / 60 % 60, second := rest % 60 }⟩

def later? (m : Moment) (seconds : Int) : Option Moment := do
  let moved ← ofTimestamp? (m.timestamp + seconds)
  return { moved with clock.nanosecond := m.clock.nanosecond }

end Moment

end Reshape.Calendar
