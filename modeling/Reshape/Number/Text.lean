import Reshape.Number.Shortest
import Reshape.Text.Basic

namespace Reshape

def digitsOf (n : Nat) : List Char := Nat.toDigits 10 n

def integerText (n : Int) : List Char :=
  if n < 0 then '-' :: digitsOf n.natAbs else digitsOf n.natAbs

def digitsValue (cs : List Char) : Nat :=
  cs.foldl (fun n c => n * 10 + (c.toNat - '0'.toNat)) 0

def readInteger? (cs : List Char) : Option Int :=
  let (negative, digits) := match cs with
    | '-' :: rest => (true, rest)
    | '+' :: rest => (false, rest)
    | _ => (false, cs)
  if digits.isEmpty || !digits.all Text.isAsciiDigit then none
  else some (if negative then -(digitsValue digits : Int) else digitsValue digits)

def minInt64 : Int := -9223372036854775808

def maxInt64 : Int := 9223372036854775807

def maxUInt64 : Int := 18446744073709551615

def readInt64? (cs : List Char) : Option Int :=
  (readInteger? cs).filter fun n => minInt64 ≤ n && n ≤ maxInt64

/-- An unsigned 64-bit integer in decimal; a plus sign may stand before it, a minus sign not. -/
def readUInt64? (cs : List Char) : Option Int :=
  match cs with
  | '-' :: _ => none
  | _ => (readInteger? cs).filter fun n => n ≤ maxUInt64

namespace Decimal

def digitCount (d : Decimal) : Nat := (digitsOf d.digits).length

/-- How many digits stand before the decimal point. -/
def places (d : Decimal) : Int := d.digitCount + d.exponent

/-- Digits and a point, with at least `.0` behind it when `point` is set. -/
def positional (point : Bool) (d : Decimal) : List Char :=
  let digits := digitsOf d.digits
  if 0 ≤ d.exponent then
    digits ++ List.replicate d.exponent.toNat '0' ++ (if point then ['.', '0'] else [])
  else if 0 < d.places then
    digits.take d.places.toNat ++ '.' :: digits.drop d.places.toNat
  else '0' :: '.' :: List.replicate (-d.places).toNat '0' ++ digits

def scientific (plusSign : Bool) (d : Decimal) : List Char :=
  let exponent := d.places - 1
  let mantissa := match digitsOf d.digits with
    | first :: [] => [first]
    | first :: rest => first :: '.' :: rest
    | [] => []
  mantissa ++ 'e' :: (if 0 ≤ exponent && plusSign then ['+'] else []) ++ integerText exponent

end Decimal

structure FloatLayout where
  /-- Whether a positive exponent carries a sign. -/
  plusSign : Bool

namespace Binary64

def signText (f : Binary64) : List Char := if f.negative then ['-'] else []

/-- Shortest digits; positional from five zeros behind the point to sixteen places before it. -/
def write (layout : FloatLayout) (f : Binary64) : List Char :=
  let d := f.shortest
  f.signText ++
    if f.isZero then ['0', '.', '0']
    else if -5 < d.places && d.places ≤ 16 then d.positional true
    else d.scientific layout.plusSign

/-- Shortest digits without an exponent, as prose has it. -/
def writePlain (f : Binary64) : List Char :=
  if f.isNaN then "NaN".toList
  else if f.isInfinite then f.signText ++ "inf".toList
  else f.signText ++ f.shortest.positional false

/-- One decimal place, an exact half going to the even digit. -/
def writeTenths (f : Binary64) : List Char :=
  let tenths := divideEven (f.ratio.1 * 10) f.ratio.2
  f.signText ++ digitsOf (tenths / 10) ++ '.' :: digitsOf (tenths % 10)

def readMantissa? (cs : List Char) : Option (Nat × Nat × List Char) :=
  let whole := cs.takeWhile Text.isAsciiDigit
  let rest := cs.dropWhile Text.isAsciiDigit
  let (fraction, rest) := match rest with
    | '.' :: more => (more.takeWhile Text.isAsciiDigit, more.dropWhile Text.isAsciiDigit)
    | _ => ([], rest)
  if whole.isEmpty && fraction.isEmpty then none
  else some (digitsValue (whole ++ fraction), fraction.length, rest)

/-- A decimal number as free text writes it: a sign, digits with a point anywhere among them, an
exponent, or the words for infinity and for no number, in any case. -/
def read? (cs : List Char) : Option Binary64 :=
  let (negative, body) := match cs with
    | '-' :: rest => (true, rest)
    | '+' :: rest => (false, rest)
    | _ => (false, cs)
  let word := String.ofList (Text.asciiLower body)
  if word = "inf" || word = "infinity" then some (infinity negative)
  else if word = "nan" then some nan
  else do
    let (digits, behind, rest) ← readMantissa? body
    match rest with
    | [] => some (ofDecimal negative digits (-behind))
    | e :: exponent =>
      if e = 'e' || e = 'E' then
        let n ← readInteger? exponent
        some (ofDecimal negative digits (n - behind))
      else none

end Binary64

end Reshape
