import Reshape.Calendar.Date
import Reshape.Number.Text

namespace Reshape.Toml

/-- Digits, with single underscores between them. -/
def isRun (isDigit : Char → Bool) (cs : List Char) : Bool :=
  (Text.splitBy (· = '_') cs).all fun part => !part.isEmpty && part.all isDigit

def runValue (base : Nat) (cs : List Char) : Nat :=
  cs.foldl (fun n c =>
    if c = '_' then n
    else n * base + (if c.isDigit then c.toNat - 48 else c.toLower.toNat - 87)) 0

def isHexDigit (c : Char) : Bool :=
  ('0' ≤ c && c ≤ '9') || ('a' ≤ c && c ≤ 'f') || ('A' ≤ c && c ≤ 'F')

def isOctalDigit (c : Char) : Bool := '0' ≤ c && c ≤ '7'

def isBinaryDigit (c : Char) : Bool := c = '0' || c = '1'

/-- Decimal digits without a zero in front. -/
def isDecimalRun (cs : List Char) : Bool :=
  isRun Text.isAsciiDigit cs && (cs.length = 1 || cs.head? ≠ some '0')

def unsigned : List Char → List Char
  | '+' :: rest => rest
  | '-' :: rest => rest
  | s => s

/-- A whole number that a signed 64-bit word holds. -/
def isWhole (cs : List Char) : Bool :=
  let marked (base : Nat) (isDigit : Char → Bool) (digits : List Char) : Bool :=
    isRun isDigit digits && runValue base digits ≤ maxInt64
  match cs with
  | '0' :: 'x' :: digits => marked 16 isHexDigit digits
  | '0' :: 'o' :: digits => marked 8 isOctalDigit digits
  | '0' :: 'b' :: digits => marked 2 isBinaryDigit digits
  | _ =>
    let digits := unsigned cs
    let limit := if cs.head? = some '-' then -minInt64 else maxInt64
    isDecimalRun digits && runValue 10 digits ≤ limit

def isExponent (cs : List Char) : Bool := isRun Text.isAsciiDigit (unsigned cs)

def isExponentLetter (c : Char) : Bool := c = 'e' || c = 'E'

def isFloat (cs : List Char) : Bool :=
  let body := unsigned cs
  let whole := body.takeWhile fun c => Text.isAsciiDigit c || c = '_'
  let rest := body.drop whole.length
  body = "inf".toList || body = "nan".toList || (isDecimalRun whole && match rest with
    | '.' :: fraction =>
      let digits := fraction.takeWhile fun c => Text.isAsciiDigit c || c = '_'
      isRun Text.isAsciiDigit digits && match fraction.drop digits.length with
        | [] => true
        | e :: exponent => isExponentLetter e && isExponent exponent
    | e :: exponent => isExponentLetter e && isExponent exponent
    | [] => false)

def isTwo (low high : Nat) (cs : List Char) : Bool :=
  cs.length = 2 && cs.all Text.isAsciiDigit && low ≤ digitsValue cs && digitsValue cs ≤ high

/-- A day such as `2024-02-29`. -/
def isDay (cs : List Char) : Bool :=
  match Text.splitBy (· = '-') cs with
  | [year, month, day] =>
    year.length = 4 && year.all Text.isAsciiDigit && isTwo 1 12 month && isTwo 1 31 day &&
      (Calendar.Date.ofMonthDay? (digitsValue year) (digitsValue month) (digitsValue day)).isSome
  | _ => false

/-- A time such as `07:32:00.5`. -/
def isTime (cs : List Char) : Bool :=
  match Text.splitBy (· = ':') cs with
  | [hour, minute, second] =>
    isTwo 0 23 hour && isTwo 0 59 minute && match Text.splitBy (· = '.') second with
      | [whole] => isTwo 0 60 whole
      | [whole, fraction] =>
        isTwo 0 60 whole && !fraction.isEmpty && fraction.all Text.isAsciiDigit
      | _ => false
  | _ => false

def isOffset (cs : List Char) : Bool :=
  match Text.splitBy (· = ':') cs with
  | [hour, minute] => isTwo 0 23 hour && isTwo 0 59 minute
  | _ => false

def isZonedTime (cs : List Char) : Bool :=
  let time := cs.takeWhile fun c => Text.isAsciiDigit c || c = ':' || c = '.'
  isTime time && match cs.drop time.length with
    | [] => true
    | sign :: offset =>
      ((sign = 'Z' || sign = 'z') && offset.isEmpty) ||
        ((sign = '+' || sign = '-') && isOffset offset)

def isMoment (cs : List Char) : Bool :=
  -- a day has ten characters
  isDay cs || isTime cs || (isDay (cs.take 10) && match cs.drop 10 with
    | mark :: time => (mark = 'T' || mark = 't' || mark = ' ') && isZonedTime time
    | [] => false)

end Reshape.Toml
