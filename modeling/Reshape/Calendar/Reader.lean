import Reshape.Calendar.Directive
import Reshape.Calendar.Fields
import Reshape.Number.Text

namespace Reshape.Calendar

/-- Up to `most` digits, at least `least`, of a number below `2 ^ 63`. -/
def digits? (least most : Nat) (cs : List Char) : Option (Int × List Char) :=
  let run := (cs.takeWhile Text.isAsciiDigit).take most
  let value : Int := digitsValue run
  if run.length < least || maxInt64 < value then none else some (value, cs.drop run.length)

def Quantity.width? : Quantity → Option Nat
  | .year | .isoYear => some 4
  | .ordinal => some 3
  | .nanosecond => some 9
  | .quarter | .fromSunday | .fromMonday => some 1
  | .timestamp => none
  | _ => some 2

/-- A year may have a sign, and then any number of digits. -/
def Quantity.take? (q : Quantity) (cs : List Char) : Option (Int × List Char) :=
  let signed := q = .year || q = .isoYear
  match signed, Text.trimStart cs with
  | true, '-' :: rest => (digits? 1 rest.length rest).map fun (n, rest) => (-n, rest)
  | true, '+' :: rest => digits? 1 rest.length rest
  | _, rest => digits? 1 (q.width?.getD rest.length) rest

def Quantity.note? (q : Quantity) (f : Fields) (n : Int) : Option Fields :=
  match q with
  | .year => f.set? .year n
  | .century => f.set? .century n
  | .yearOfCentury => f.set? .yearOfCentury n
  | .isoYear => f.set? .isoYear n
  | .isoYearOfCentury => f.set? .isoYearOfCentury n
  | .quarter => f.set? .quarter n
  | .month => f.set? .month n
  | .day => f.set? .day n
  | .weekFromSunday => f.set? .weekFromSunday n
  | .weekFromMonday => f.set? .weekFromMonday n
  | .isoWeek => f.set? .isoWeek n
  | .fromSunday => if n ≤ 6 then f.set? .weekday ((n + 6) % 7) else none
  | .fromMonday => f.set? .weekday (n - 1)
  | .ordinal => f.set? .ordinal n
  | .hour => f.setHour? n
  | .hour12 => if 1 ≤ n then f.set? .hourOfHalf (if n = 12 then 0 else n) else none
  | .minute => f.set? .minute n
  | .second => f.set? .second n
  | .nanosecond => f.set? .nanosecond n
  | .timestamp => f.set? .timestamp n

/-- What follows a name that the text starts with, in whatever case. -/
def afterName? (name cs : List Char) : Option (List Char) :=
  if Text.asciiLower (cs.take name.length) = Text.asciiLower name then some (cs.drop name.length)
  else none

/-- One of a list of names, given by its first three letters. If `long` the rest of the name may
follow. -/
def name? (names : List String) (long : Bool) (cs : List Char) : Option (Int × List Char) :=
  -- no two months and no two days have the same first three letters
  let starts (name : String) := (afterName? (name.toList.take 3) cs).isSome
  match names.findIdx? starts with
  | none => none
  | some index =>
    let rest := cs.drop 3
    let ending := (names[index]?.getD "").toList.drop 3
    some (index, if long then (afterName? ending rest).getD rest else rest)

/-- Decimals behind a point, as nanoseconds; those beyond the ninth do not count. -/
def fraction? (cs : List Char) : Option (Int × List Char) := do
  let (n, rest) ← digits? 1 9 cs
  let count := (cs.length - rest.length)
  return (n * Nat.pow 10 (9 - count), rest.dropWhile Text.isAsciiDigit)

def decimals? (count : Nat) (cs : List Char) : Option (Int × List Char) := do
  let (n, rest) ← digits? count count cs
  return (n * Nat.pow 10 (9 - count), rest)

inductive Divider where
  | colon
  /-- Any number of colons and blanks. -/
  | any

def Divider.drop? : Divider → List Char → Option (List Char)
  | colon, ':' :: rest => some rest
  | colon, _ => none
  | any, cs => some (cs.dropWhile fun c => c = ':' || Text.isBlank c)

def sign? : List Char → Option (Int × List Char)
  | '+' :: rest => some (1, rest)
  | '-' :: rest => some (-1, rest)
  | c :: rest => if c.toNat = 0x2212 then some (-1, rest) else none
  | [] => none

/-- An offset in seconds. With `zulu` the letter `z` stands for none; with `short` minutes may be
missing at the end of the text. -/
def offset? (divider : Divider) (zulu short : Bool) (cs : List Char) : Option (Int × List Char) :=
  match zulu, cs with
  | true, 'Z' :: rest => some (0, rest)
  | true, 'z' :: rest => some (0, rest)
  | _, _ => do
    let (sign, rest) ← sign? cs
    let (hours, rest) ← digits? 2 2 rest
    let rest ← divider.drop? rest
    if short && rest.isEmpty then return (sign * hours * 3600, rest)
    let (minutes, rest) ← digits? 2 2 rest
    if 60 ≤ minutes then none else return (sign * (hours * 3600 + minutes * 60), rest)

abbrev Progress := Fields × List Char

def note? (f : Fields) (key : Key) (found : Option (Int × List Char)) : Option Progress := do
  let (n, rest) ← found
  return (← f.set? key n, rest)

def noteFraction? (f : Fields) (take? : List Char → Option (Int × List Char)) (cs : List Char) :
    Option Progress :=
  match cs with
  | '.' :: rest => note? f .nanosecond (take? rest)
  | _ => some (f, cs)

def half? (cs : List Char) : Option (Int × List Char) :=
  match afterName? ['a', 'm'] cs, afterName? ['p', 'm'] cs with
  | some rest, _ => some (0, rest)
  | none, some rest => some (1, rest)
  | none, none => none

def Directive.takePart? : Directive → Progress → Option Progress
  | .literal c, (f, cs) => match cs with
    | d :: rest => if c = d then some (f, rest) else none
    | [] => none
  | .blank _, (f, cs) => some (f, Text.trimStart cs)
  | .number q _, (f, cs) => do
    let (n, rest) ← q.take? cs
    return (← q.note? f n, rest)
  | .shortMonth, (f, cs) => note? f .month (counted (name? monthNames false cs))
  | .longMonth, (f, cs) => note? f .month (counted (name? monthNames true cs))
  | .shortWeekday, (f, cs) => note? f .weekday (name? weekdayNames false cs)
  | .longWeekday, (f, cs) => note? f .weekday (name? weekdayNames true cs)
  | .half _, (f, cs) => note? f .half (half? cs)
  | .fraction, (f, cs) => noteFraction? f fraction? cs
  | .decimals count true, (f, cs) => noteFraction? f (decimals? count) cs
  | .decimals count false, (f, cs) => note? f .nanosecond (decimals? count cs)
  | .zoneName, (f, cs) => some (f, cs.dropWhile fun c => !Text.isBlank c)
  | .offset permissive, (f, cs) =>
    note? f .offset (offset? .any permissive permissive (Text.trimStart cs))
  | .standard, _ => none
where
  counted (found : Option (Int × List Char)) : Option (Int × List Char) :=
    found.map fun (n, rest) => (n + 1, rest)

private def part (q : Quantity) : Directive := .number q .zero

def looseDate : List Directive :=
  [part .year, .blank ' ', .literal '-', part .month, .blank ' ', .literal '-', part .day]

def looseTime : List Directive :=
  [part .hour, .blank ' ', .literal ':', part .minute, .blank ' ', .literal ':', part .second,
    .fraction, .blank ' ']

def afterDate? : List Char → Option (List Char)
  | 't' :: rest => some rest
  | 'T' :: rest => some rest
  | ' ' :: rest => some rest
  | _ => none

def Directive.take? (d : Directive) (p : Progress) : Option Progress :=
  match d with
  | .standard => do
    let (f, cs) ← looseDate.foldlM (fun p d => d.takePart? p) p
    let (f, cs) ← looseTime.foldlM (fun p d => d.takePart? p) (f, ← afterDate? cs)
    match afterName? ['u', 't', 'c'] cs with
    | some rest => note? f .offset (some (0, rest))
    | none => note? f .offset (offset? .any true false cs)
  | _ => d.takePart? p

def Fields.read? (format cs : List Char) : Option Fields := do
  let directives ← Directive.read? format
  match ← directives.foldlM (fun p d => d.take? p) (([], cs) : Progress) with
  | (f, []) => some f
  | _ => none

/-- A moment in a format; the format of a date alone gives its midnight. -/
def Moment.read? (format cs : List Char) : Option Moment := do
  let f ← Fields.read? format cs
  match f.moment?, f.date with
  | some m, _ => some m
  | none, .ok date => some ⟨date, {}⟩
  | none, .error _ => none

def maxOffset : Int := (23 * 60 + 59) * 60

private def exactDate : List (Key × Nat) := [(.year, 4), (.month, 2), (.day, 2)]

def takeRow? (mark : Char) (f : Fields) (cs : List Char) : List (Key × Nat) → Option Progress
  | [] => some (f, cs)
  | [(key, width)] => note? f key (digits? width width cs)
  | (key, width) :: row => do
    let (f, rest) ← note? f key (digits? width width cs)
    match rest with
    | c :: rest => if c = mark then takeRow? mark f rest row else none
    | [] => none

/-- The universal time of an internet timestamp, such as `2024-03-05T10:20:30.5+01:00`. -/
def Moment.readStandard? (cs : List Char) : Option Moment := do
  let (f, cs) ← takeRow? '-' [] cs exactDate
  let (hour, cs) ← digits? 2 2 (← afterDate? cs)
  let f ← f.setHour? hour
  match cs with
  | ':' :: cs =>
    let (f, cs) ← takeRow? ':' f cs [(.minute, 2), (.second, 2)]
    let (f, cs) ← noteFraction? f fraction? cs
    let (offset, cs) ← offset? .colon true false cs
    if !cs.isEmpty || maxOffset < offset || offset < -maxOffset then none
    else (← f.moment?).later? (-offset)
  | _ => none

end Reshape.Calendar
