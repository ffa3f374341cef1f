namespace Reshape.Calendar

def isLeap (year : Int) : Bool := year % 4 = 0 && (year % 100 ≠ 0 || year % 400 = 0)

def daysInYear (year : Int) : Nat := if isLeap year then 366 else 365

def monthLengths (year : Int) : List Nat :=
  [31, if isLeap year then 29 else 28, 31, 30, 31, 30, 31, 31, 30, 31, 30, 31]

/-- A day, by its year and its place in the year, counted from one. The year before year 1 is year
0. -/
structure Date where
  year : Int
  ordinal : Nat
  deriving DecidableEq

namespace Date

def minYear : Int := -262143

def maxYear : Int := 262142

def ofOrdinal? (year : Int) (ordinal : Nat) : Option Date :=
  if minYear ≤ year ∧ year ≤ maxYear ∧ 1 ≤ ordinal ∧ ordinal ≤ daysInYear year then
    some ⟨year, ordinal⟩
  else none

def ofMonthDay? (year : Int) (month day : Nat) : Option Date :=
  match (monthLengths year)[month - 1]? with
  | some length =>
    if 1 ≤ month ∧ 1 ≤ day ∧ day ≤ length then
      ofOrdinal? year (((monthLengths year).take (month - 1)).foldl (· + ·) day)
    else none
  | none => none

/-- Goes through months of the given lengths up to the one that holds a day. -/
def findMonth (month : Nat) (day : Nat) : List Nat → Nat × Nat
  | [] => (month, day)
  | length :: rest =>
    if day ≤ length then (month, day) else findMonth (month + 1) (day - length) rest

def monthDay (d : Date) : Nat × Nat := findMonth 1 d.ordinal (monthLengths d.year)

def month (d : Date) : Nat := d.monthDay.1

def day (d : Date) : Nat := d.monthDay.2

def quarter (d : Date) : Nat := (d.month + 2) / 3

def daysBeforeYear (year : Int) : Int :=
  let y := year - 1
  365 * y + y / 4 - y / 100 + y / 400

/-- Days since the first day of year 1. -/
def dayNumber (d : Date) : Int := daysBeforeYear d.year + d.ordinal - 1

def daysInCycle : Nat := 146097

/-- The day with a number. The calendar repeats every 400 years; in those every century but the
last is one day short of 25 times four years, and in these the last year is one day longer. -/
def ofDayNumber? (n : Int) : Option Date :=
  let inCycle := (n % daysInCycle).toNat
  let century := min (inCycle / 36524) 3
  let inCentury := inCycle - century * 36524
  let four := inCentury / 1461
  let inFour := inCentury - four * 1461
  let single := min (inFour / 365) 3
  let year := n / daysInCycle * 400 + (century * 100 + four * 4 + single + 1 : Nat)
  ofOrdinal? year (inFour - single * 365 + 1)

/-- Days since the last Monday. -/
def weekday (d : Date) : Nat := (d.dayNumber % 7).toNat

def fromSunday (d : Date) : Nat := (d.weekday + 1) % 7

/-- The week of the year, where week 1 starts with the first Sunday. -/
def weekFromSunday (d : Date) : Nat := (d.ordinal + 6 - d.fromSunday) / 7

def weekFromMonday (d : Date) : Nat := (d.ordinal + 6 - d.weekday) / 7

/-- The year that owns a day's week, and the week's number in it. A week belongs to the year that
its Thursday lies in. -/
def isoWeek (d : Date) : Int × Nat :=
  let thursday : Int := d.ordinal + 3 - d.weekday
  if thursday < 1 then
    (d.year - 1, ((thursday + daysInYear (d.year - 1)).toNat - 1) / 7 + 1)
  else if daysInYear d.year < thursday then (d.year + 1, 1)
  else (d.year, (thursday.toNat - 1) / 7 + 1)

/-- The day of a week of a year; the fourth of January lies in week 1. -/
def ofIsoWeek? (year : Int) (week weekday : Nat) : Option Date := do
  let fourth ← ofOrdinal? year 4
  let monday := fourth.dayNumber - fourth.weekday
  let d ← ofDayNumber? (monday + 7 * ((week : Int) - 1) + weekday)
  if d.isoWeek = (year, week) then return d else none

/-- The day of a week. Weeks start with the days that `sinceStart` counts from, week 1 with the
first of them in the year; `weekday` counts from there too. -/
def ofWeek? (year : Int) (week weekday : Nat) (sinceStart : Date → Nat) : Option Date := do
  let first ← ofOrdinal? year 1
  let weekStart : Int := 1 + (7 - sinceStart first) % 7
  let ordinal := weekStart + 7 * ((week : Int) - 1) + weekday
  -- week 0 may begin in the year before
  if 0 < ordinal then ofOrdinal? year ordinal.toNat else none

end Date

end Reshape.Calendar
