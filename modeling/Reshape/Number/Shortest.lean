import Reshape.Number.Binary64

namespace Reshape

structure Decimal where
  digits : Nat
  exponent : Int
  deriving DecidableEq, Inhabited

namespace Decimal

/-- Moves trailing zeros of the digits into the exponent, at most `count` of them. -/
def strip : Nat → Decimal → Decimal
  | 0, d => d
  | count + 1, d =>
    if d.digits ≠ 0 ∧ d.digits % 10 = 0 then strip count ⟨d.digits / 10, d.exponent + 1⟩ else d

end Decimal

namespace Binary64

/-- The reals that round to a number: a fraction between two others over one denominator, the
ends belonging to it when `closed`. -/
structure Interval where
  low : Nat
  value : Nat
  high : Nat
  den : Nat
  closed : Bool

/-- The interval of a finite number other than zero. Below a power of two the numbers lie twice
as close. -/
def interval (f : Binary64) : Interval :=
  let m := f.mantissa
  let gap := if f.fractionField = 0 && 1 < f.exponentField then 1 else 2
  -- in quarters of the last place the ends of the interval are whole
  let q := f.scale - 2
  let (up, den) := if 0 ≤ q then (Nat.pow 2 q.toNat, 1) else (1, Nat.pow 2 (-q).toNat)
  ⟨(4 * m - gap) * up, 4 * m * up, (4 * m + 2) * up, den, m % 2 = 0⟩

namespace Interval

def holds (i : Interval) (num den' : Nat) : Bool :=
  if i.closed then i.low * den' ≤ num * i.den && num * i.den ≤ i.high * den'
  else i.low * den' < num * i.den && num * i.den < i.high * den'

/-- The point of the grid of multiples of `10 ^ e` that lies in the interval and nearest to the
value, an exact half going to the even multiple. -/
def onGrid (i : Interval) (e : Int) : Option Decimal :=
  let (up, down) := if 0 ≤ e then (Nat.pow 10 e.toNat, 1) else (1, Nat.pow 10 (-e).toNat)
  -- the value measured in steps of the grid
  let num := i.value * down
  let den := i.den * up
  let below := num / den
  let nearer := divideEven num den
  let other := if nearer = below then below + 1 else below
  if i.holds (nearer * up) down then some ⟨nearer, e⟩
  else if i.holds (other * up) down then some ⟨other, e⟩
  else none

/-- Tries the grids of `count` more and more places, the first of them at `10 ^ e`. -/
def search (i : Interval) (e : Int) : Nat → Decimal
  | 0 => ⟨i.value / i.den, 0⟩
  | count + 1 => match i.onGrid e with
    | some d => d
    | none => search i (e - 1) count

end Interval

/-- The number of decimal places before the point, for a positive fraction: the least `k` with
`num / den < 10 ^ k`. -/
def decimalPlaces (num den : Nat) : Int :=
  let k : Int := floorLog2 num den * 30103 / 100000
  let below (k : Int) : Bool :=
    if 0 ≤ k then num < den * Nat.pow 10 k.toNat else num * Nat.pow 10 (-k).toNat < den
  if below (k - 1) then k - 1 else if below k then k else if below (k + 1) then k + 1 else k + 2

/-- The shortest decimal that reads back as a finite number's magnitude and, of the shortest ones,
the nearest to it. -/
def shortest (f : Binary64) : Decimal :=
  if f.isZero then ⟨0, 0⟩
  else
    let i := f.interval
    -- no two numbers agree in seventeen digits
    (i.search (decimalPlaces i.value i.den - 1) 17).strip 17

end Binary64

end Reshape
