import Reshape.Number.Text

namespace Reshape.Yaml

def isNull (s : String) : Bool := s = "null" || s = "Null" || s = "NULL" || s = "~"

def bool? (s : String) : Option Bool :=
  if s = "true" || s = "True" || s = "TRUE" then some true
  else if s = "false" || s = "False" || s = "FALSE" then some false
  else none

/-- Zeros in front make text of a run of digits. -/
def isZeroLed (cs : List Char) : Bool :=
  let digits := match cs with
    | '-' :: rest => rest
    | '+' :: rest => rest
    | _ => cs
  1 < digits.length && digits.head? = some '0' && digits.all Text.isAsciiDigit

def digitValue? (c : Char) : Option Nat :=
  if '0' ≤ c ∧ c ≤ '9' then some (c.toNat - 48)
  else if 'a' ≤ c ∧ c ≤ 'z' then some (c.toNat - 87)
  else if 'A' ≤ c ∧ c ≤ 'Z' then some (c.toNat - 55)
  else none

def inBase? (base : Nat) (cs : List Char) : Option Nat :=
  if cs.isEmpty then none
  else cs.foldlM (fun n c => do
    let d ← digitValue? c
    if d < base then some (n * base + d) else none) 0

def marked? : List Char → Option Nat
  | '0' :: 'x' :: rest => inBase? 16 rest
  | '0' :: 'o' :: rest => inBase? 8 rest
  | '0' :: 'b' :: rest => inBase? 2 rest
  | _ => none

/-- A whole number of any size: decimal, or marked as hexadecimal, octal or binary. -/
def integer? (cs : List Char) : Option Int :=
  match cs with
  | '-' :: rest =>
    match marked? rest with
    | some n => some (-n)
    | none => if isZeroLed cs then none else (inBase? 10 rest).map fun n => -n
  | '+' :: rest => natural? rest
  | _ => natural? cs
where
  natural? (digits : List Char) : Option Int :=
    match marked? digits with
    | some n => some n
    | none => if isZeroLed digits then none else (inBase? 10 digits).map fun n => n

def namedFloat? (s : String) : Option Binary64 :=
  if s = ".inf" || s = ".Inf" || s = ".INF" || s = "+.inf" || s = "+.Inf" || s = "+.INF" then
    some (.infinity false)
  else if s = "-.inf" || s = "-.Inf" || s = "-.INF" then some (.infinity true)
  else if s = ".nan" || s = ".NaN" || s = ".NAN" then some .nan
  else none

def float? (s : String) : Option Binary64 :=
  match namedFloat? s with
  | some f => some f
  | none =>
    let cs := s.toList
    let unsigned := match cs with
      | '+' :: rest => rest
      | _ => cs
    -- what is left is read with a sign of its own, which must not be a second one
    if unsigned.length < cs.length && unsigned.head?.any (fun c => c = '+' || c = '-') then none
    else (Binary64.read? unsigned).filter Binary64.isFinite

inductive Scalar where
  | null
  | bool (b : Bool)
  | whole (n : Int)
  | float (f : Binary64)
  | text (s : String)

/-- Whole numbers beyond this are floats. -/
def wholeLimit : Int := Nat.pow 2 128

def integerWithin? (s : String) : Option Int :=
  (integer? s.toList).filter fun n => -(wholeLimit / 2) ≤ n && n < wholeLimit

def Scalar.ofPlain (s : String) : Scalar :=
  if s.isEmpty || isNull s then .null
  else match bool? s with
    | some b => .bool b
    | none => match integerWithin? s with
      | some n => .whole n
      | none => match (if isZeroLed s.toList then none else float? s) with
        | some f => .float f
        | none => .text s

end Reshape.Yaml
