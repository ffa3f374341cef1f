import Reshape.Calendar.Moment
import Reshape.Number.Text

namespace Reshape.Calendar

inductive Key where
  | year
  | century
  | yearOfCentury
  | isoYear
  | isoYearOfCentury
  | quarter
  | month
  | day
  | weekFromSunday
  | weekFromMonday
  | isoWeek
  /-- Days since Monday. -/
  | weekday
  | ordinal
  /-- Zero before noon, one after it. -/
  | half
  | hourOfHalf
  | minute
  | second
  | nanosecond
  | timestamp
  | offset
  deriving DecidableEq

def Key.bounds : Key → Int × Int
  | .year | .isoYear => (-2147483648, 2147483647)
  | .century => (0, 2147483647)
  | .yearOfCentury | .isoYearOfCentury => (0, 99)
  | .quarter => (1, 4)
  | .month => (1, 12)
  | .day => (1, 31)
  | .weekFromSunday | .weekFromMonday => (0, 53)
  | .isoWeek => (1, 53)
  | .weekday => (0, 6)
  | .ordinal => (1, 366)
  | .half => (0, 1)
  | .hourOfHalf => (0, 11)
  | .minute => (0, 59)
  | .second => (0, 60)
  | .nanosecond => (0, 999999999)
  | .timestamp | .offset => (minInt64, maxInt64)

/-- The value of a part at a date, if the date decides it. There are no centuries before year 0. -/
def Key.ofDate? (d : Date) : Key → Option Int
  | .year => some d.year
  | .century => some (if d.year < 0 then -1 else d.year / 100)
  | .yearOfCentury => some (if d.year < 0 then -1 else d.year % 100)
  | .isoYear => some d.isoWeek.1
  | .isoYearOfCentury => some (if d.isoWeek.1 < 0 then -1 else d.isoWeek.1 % 100)
  | .quarter => some d.quarter
  | .month => some d.month
  | .day => some d.day
  | .weekFromSunday => some d.weekFromSunday
  | .weekFromMonday => some d.weekFromMonday
  | .isoWeek => some d.isoWeek.2
  | .weekday => some d.weekday
  | .ordinal => some d.ordinal
  | _ => none

/-- Parts with their values, each at most once. -/
abbrev Fields := List (Key × Int)

inductive Lack where
  | missing
  | contradiction
  deriving DecidableEq

namespace Fields

def get? (f : Fields) (key : Key) : Option Int := f.lookup key

/-- Adds a value that lies in its bounds and agrees with what is known. -/
def set? (f : Fields) (key : Key) (value : Int) : Option Fields :=
  if value < key.bounds.1 || key.bounds.2 < value then none
  else match f.get? key with
    | none => some ((key, value) :: f)
    | some known => if known = value then some f else none

def setHour? (f : Fields) (hour : Int) : Option Fields := do
  (← f.set? .half (hour / 12)).set? .hourOfHalf (hour % 12)

def describes (f : Fields) (d : Date) : Bool :=
  f.all fun (key, value) => match key.ofDate? d with
    | some found => found = value
    | none => true

/-- A year from its number, its century and its place in the century. Alone, a place in the
century means a year between 1970 and 2069. -/
def resolveYear (year century ofCentury : Option Int) : Except Lack (Option Int) :=
  match year, century, ofCentury with
  | year, none, none => .ok year
  | some y, c, r =>
    if y < 0 then .error .contradiction
    else if c.getD (y / 100) = y / 100 ∧ r.getD (y % 100) = y % 100 then .ok (some y)
    else .error .contradiction
  | none, some c, some r => .ok (some (c * 100 + r))
  | none, none, some r => .ok (some (r + if r < 70 then 2000 else 1900))
  | none, some _, none => .error .missing

/-- The date that the first sufficient group of parts gives. -/
def candidate (f : Fields) (year isoYear : Option Int) : Except Lack Date :=
  let get (key : Key) : Option Nat := (f.get? key).map Int.toNat
  match year, get .month, get .day, get .ordinal, get .weekFromSunday, get .weekFromMonday,
    get .weekday, isoYear, get .isoWeek with
  | some y, some m, some d, _, _, _, _, _, _ => orWrong (Date.ofMonthDay? y m d)
  | some y, _, _, some o, _, _, _, _, _ => orWrong (Date.ofOrdinal? y o)
  | some y, _, _, _, some w, _, some d, _, _ =>
    orWrong (Date.ofWeek? y w ((d + 1) % 7) Date.fromSunday)
  | some y, _, _, _, _, some w, some d, _, _ => orWrong (Date.ofWeek? y w d Date.weekday)
  | _, _, _, _, _, _, some d, some y, some w => orWrong (Date.ofIsoWeek? y w d)
  | _, _, _, _, _, _, _, _, _ => .error .missing
where
  orWrong (d : Option Date) : Except Lack Date :=
    match d with
    | some d => .ok d
    | none => .error .contradiction

def date (f : Fields) : Except Lack Date := do
  let year ← resolveYear (f.get? .year) (f.get? .century) (f.get? .yearOfCentury)
  let isoYear ← resolveYear (f.get? .isoYear) none (f.get? .isoYearOfCentury)
  let d ← f.candidate year isoYear
  if f.describes d then return d else throw .contradiction

/-- The time of day. Seconds may be missing, but not below a fraction of one. -/
def clock (f : Fields) : Except Lack Clock :=
  match f.get? .half, f.get? .hourOfHalf, f.get? .minute with
  | some half, some hour, some minute =>
    match f.get? .second, f.get? .nanosecond with
    -- a fraction is one of a second that was given
    | none, some _ => .error .missing
    | second, nanosecond =>
      let shown := (second.getD 0).toNat
      .ok {
        hour := (half * 12 + hour).toNat
        minute := minute.toNat
        second := min shown 59
        nanosecond := (nanosecond.getD 0).toNat + (if shown = 60 then Clock.perSecond else 0) }
  | _, _, _ => .error .missing

/-- Adds all that a moment says, but for the second if one is known that is a leap second. -/
def fill? (f : Fields) (m : Moment) : Option Fields := do
  let (f, m) ←
    if f.get? .second = some 60 then
      match m.clock.second with
      | 59 => some (f, m)
      -- the count of seconds has moved on to the next minute already
      | 0 => (m.later? (-1)).map (f, ·)
      | _ => none
    else (f.set? .second m.clock.second).map (·, m)
  let f ← f.set? .year m.date.year
  let f ← f.set? .ordinal m.date.ordinal
  let f ← f.setHour? m.clock.hour
  f.set? .minute m.clock.minute

/-- The moment of which all parts hold. Seconds since 1970 give what else is missing; in a leap
second they may be one ahead. -/
def moment? (f : Fields) : Option Moment :=
  match f.date, f.clock, f.get? .timestamp with
  | .ok date, .ok clock, stamp =>
    let m : Moment := ⟨date, clock⟩
    match stamp with
    | none => some m
    | some given =>
      if given = m.timestamp ||
          (Clock.perSecond ≤ clock.nanosecond && given = m.timestamp + 1) then
        some m
      else none
  | .error .contradiction, _, _ => none
  | _, .error .contradiction, _ => none
  | _, _, none => none
  | _, _, some given => do
    let f ← f.fill? (← Moment.ofTimestamp? given)
    match f.date, f.clock with
    | .ok date, .ok clock => some ⟨date, clock⟩
    | _, _ => none

end Fields

end Reshape.Calendar
