import Reshape.Text.Basic

namespace Reshape.Calendar

inductive Quantity where
  | year
  | century
  | yearOfCentury
  | isoYear
  | isoYearOfCentury
  | quarter
  | month
  | day
  | weekFromSunday
  | weekFromMonday
  | isoWeek
  /-- Days since Sunday. -/
  | fromSunday
  /-- Days since Monday, counted from one. -/
  | fromMonday
  | ordinal
  | hour
  | hour12
  | minute
  | second
  | nanosecond
  | timestamp
  deriving DecidableEq

inductive Padding where
  | nothing
  | zero
  | blank
  deriving DecidableEq

inductive Directive where
  | literal (c : Char)
  | blank (c : Char)
  | number (q : Quantity) (p : Padding)
  | shortMonth
  | longMonth
  | shortWeekday
  | longWeekday
  | half (upper : Bool)
  /-- As many decimals as needed, with a point in front, or none. -/
  | fraction
  | decimals (count : Nat) (point : Bool)
  | zoneName
  /-- The distance from universal time. -/
  | offset (permissive : Bool)
  /-- A date, a time and an offset in the layout of internet timestamps. -/
  | standard
  deriving DecidableEq

namespace Directive

def numbers : List (Char × Quantity × Padding) := [
  ('C', .century, .zero), ('G', .isoYear, .zero), ('H', .hour, .zero), ('I', .hour12, .zero),
  ('M', .minute, .zero), ('S', .second, .zero), ('U', .weekFromSunday, .zero),
  ('V', .isoWeek, .zero), ('W', .weekFromMonday, .zero), ('Y', .year, .zero), ('d', .day, .zero),
  ('e', .day, .blank), ('f', .nanosecond, .zero), ('g', .isoYearOfCentury, .zero),
  ('j', .ordinal, .zero), ('k', .hour, .blank), ('l', .hour12, .blank), ('m', .month, .zero),
  ('q', .quarter, .nothing), ('s', .timestamp, .nothing), ('u', .fromMonday, .nothing),
  ('w', .fromSunday, .nothing), ('y', .yearOfCentury, .zero)]

def words : List (Char × Directive) := [
  ('A', .longWeekday), ('B', .longMonth), ('P', .half false), ('Z', .zoneName),
  ('a', .shortWeekday), ('b', .shortMonth), ('h', .shortMonth), ('n', .blank '\n'),
  ('p', .half true), ('t', .blank '\t'), ('z', .offset false), ('+', .standard),
  ('%', .literal '%')]

private def zeroed (q : Quantity) : Directive := .number q .zero

def clockTime : List Directive :=
  [zeroed .hour, .literal ':', zeroed .minute, .literal ':', zeroed .second]

def slashDate : List Directive :=
  [zeroed .month, .literal '/', zeroed .day, .literal '/', zeroed .yearOfCentury]

def composites : List (Char × List Directive) := [
  ('D', slashDate),
  ('F', [zeroed .year, .literal '-', zeroed .month, .literal '-', zeroed .day]),
  ('R', [zeroed .hour, .literal ':', zeroed .minute]),
  ('T', clockTime),
  ('X', clockTime),
  ('c', [.shortWeekday, .blank ' ', .shortMonth, .blank ' ', .number .day .blank, .blank ' '] ++
    clockTime ++ [.blank ' ', zeroed .year]),
  ('r', [zeroed .hour12, .literal ':', zeroed .minute, .literal ':', zeroed .second, .blank ' ',
    .half true]),
  ('v', [.number .day .blank, .literal '-', .shortMonth, .literal '-', zeroed .year]),
  ('x', slashDate)]

def ofLetter? (c : Char) : Option (List Directive) :=
  match numbers.lookup c, words.lookup c with
  | some (q, p), _ => some [.number q p]
  | none, some d => some [d]
  | none, none => composites.lookup c

/-- A number whose padding is given; nothing else can be padded. -/
def padded? (p : Padding) (c : Char) : Option (List Directive) :=
  (numbers.lookup c).map fun (q, _) => [.number q p]

/-- What stands behind a percent sign, and how many characters it takes. -/
def ofMark? : List Char → Option (List Directive × Nat)
  | '-' :: c :: _ => (padded? .nothing c).map (·, 2)
  | '0' :: c :: _ => (padded? .zero c).map (·, 2)
  | '_' :: c :: _ => (padded? .blank c).map (·, 2)
  | '#' :: 'z' :: _ => some ([.offset true], 2)
  | ':' :: 'z' :: _ => some ([.offset false], 2)
  | ':' :: ':' :: 'z' :: _ => some ([.offset false], 3)
  | ':' :: ':' :: ':' :: 'z' :: _ => some ([.offset false], 4)
  | '.' :: 'f' :: _ => some ([.fraction], 2)
  | '.' :: c :: 'f' :: _ => (count? c).map fun n => ([.decimals n true], 3)
  | c :: 'f' :: _ => match count? c with
    | some n => some ([.decimals n false], 2)
    | none => (ofLetter? c).map (·, 1)
  | c :: _ => (ofLetter? c).map (·, 1)
  | [] => none
where
  count? (c : Char) : Option Nat :=
    if c = '3' then some 3 else if c = '6' then some 6 else if c = '9' then some 9 else none

def read? (cs : List Char) : Option (List Directive) :=
  match cs with
  | [] => some []
  | '%' :: rest => do
    let (directives, size) ← ofMark? rest
    return directives ++ (← read? (rest.drop size))
  | c :: rest => do
    let directive := if Text.isBlank c then .blank c else .literal c
    return directive :: (← read? rest)
termination_by cs.length

end Directive

def monthNames : List String :=
  ["January", "February", "March", "April", "May", "June", "July", "August", "September",
    "October", "November", "December"]

/-- From Monday on. -/
def weekdayNames : List String :=
  ["Monday", "Tuesday", "Wednesday", "Thursday", "Friday", "Saturday", "Sunday"]

end Reshape.Calendar
