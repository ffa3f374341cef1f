namespace Reshape

/-- A binary64 number. Equality is equality of bits, so `0.0` and `-0.0` differ. -/
structure Binary64 where
  bits : UInt64
  deriving DecidableEq, Inhabited

namespace Binary64

def signBit : Nat := 0x8000000000000000

def fractionLimit : Nat := 0x10000000000000

def negative (f : Binary64) : Bool := signBit ≤ f.bits.toNat

def exponentField (f : Binary64) : Nat := f.bits.toNat / fractionLimit % 2048

def fractionField (f : Binary64) : Nat := f.bits.toNat % fractionLimit

def isNaN (f : Binary64) : Bool := f.exponentField = 2047 && f.fractionField ≠ 0

def isInfinite (f : Binary64) : Bool := f.exponentField = 2047 && f.fractionField = 0

def isFinite (f : Binary64) : Bool := f.exponentField < 2047

/-- A finite number is `mantissa * 2 ^ scale` up to its sign. -/
def mantissa (f : Binary64) : Nat :=
  if f.exponentField = 0 then f.fractionField else f.fractionField + fractionLimit

def scale (f : Binary64) : Int := (max f.exponentField 1 : Nat) - 1075

def isZero (f : Binary64) : Bool := f.bits.toNat % signBit = 0

def withSign (negative : Bool) (magnitude : Nat) : Binary64 :=
  ⟨UInt64.ofNat (if negative then signBit + magnitude else magnitude)⟩

def infinity (negative : Bool) : Binary64 := withSign negative (2047 * fractionLimit)

def nan : Binary64 := withSign false (2047 * fractionLimit + fractionLimit / 2)

def zero (negative : Bool) : Binary64 := withSign negative 0

def neg (f : Binary64) : Binary64 := withSign (!f.negative) (f.bits.toNat % signBit)

def abs (f : Binary64) : Binary64 := withSign false (f.bits.toNat % signBit)

/-- The quotient rounded to the nearest whole number, an exact half to the even one. -/
def divideEven (num den : Nat) : Nat :=
  let q := num / den
  let twice := 2 * (num % den)
  if twice > den || (twice = den && q % 2 = 1) then q + 1 else q

/-- The greatest `k` with `2 ^ k ≤ num / den`, for positive `num` and `den`. -/
def floorLog2 (num den : Nat) : Int :=
  let k : Int := (Nat.log2 num : Int) - Nat.log2 den
  let small := if 0 ≤ k then num < den * Nat.pow 2 k.toNat else num * Nat.pow 2 (-k).toNat < den
  if small then k - 1 else k

/-- The binary64 number nearest to `num / den`. Beyond the largest it is infinite. -/
def ofRatio (negative : Bool) (num den : Nat) : Binary64 :=
  if num = 0 then zero negative
  else
    -- the exponent of the last place, which subnormal numbers share
    let q : Int := max (floorLog2 num den - 52) (-1074)
    let m :=
      if 0 ≤ q then divideEven num (den * Nat.pow 2 q.toNat)
      else divideEven (num * Nat.pow 2 (-q).toNat) den
    -- the leading bit of `m` adds one to the exponent field, and so does a carry out of rounding
    withSign negative (min ((q + 1074).toNat * fractionLimit + m) (2047 * fractionLimit))

def ofNat (n : Nat) : Binary64 := ofRatio false n 1

def ofInt (n : Int) : Binary64 := ofRatio (n < 0) n.natAbs 1

/-- The number nearest to `digits * 10 ^ exponent`. Exponents far out of range are settled by the
size of the number alone. -/
def ofDecimal (negative : Bool) (digits : Nat) (exponent : Int) : Binary64 :=
  -- 0.30103 places for each bit; the bounds below leave room for the error
  let places : Int := exponent + (Nat.log2 digits * 30103 / 100000 : Nat)
  if digits = 0 then zero negative
  else if places > 400 then infinity negative
  else if places < -400 then zero negative
  else if 0 ≤ exponent then ofRatio negative (digits * Nat.pow 10 exponent.toNat) 1
  else ofRatio negative digits (Nat.pow 10 (-exponent).toNat)

def ratio (f : Binary64) : Nat × Nat :=
  if 0 ≤ f.scale then (f.mantissa * Nat.pow 2 f.scale.toNat, 1)
  else (f.mantissa, Nat.pow 2 (-f.scale).toNat)

/-- The exact product is a fraction, which is rounded once. -/
def mul (a b : Binary64) : Binary64 :=
  let negative := a.negative != b.negative
  if a.isNaN || b.isNaN then nan
  else if a.isInfinite || b.isInfinite then
    if a.isZero || b.isZero then nan else infinity negative
  else
    let (n, d) := a.ratio
    let (n', d') := b.ratio
    ofRatio negative (n * n') (d * d')

def div (a b : Binary64) : Binary64 :=
  let negative := a.negative != b.negative
  if a.isNaN || b.isNaN then nan
  else if a.isInfinite then if b.isInfinite then nan else infinity negative
  else if b.isInfinite then zero negative
  else if b.isZero then if a.isZero then nan else infinity negative
  else
    let (n, d) := a.ratio
    let (n', d') := b.ratio
    ofRatio negative (n * d') (d * n')

def floorMagnitude (f : Binary64) : Nat := f.ratio.1 / f.ratio.2

def truncate (f : Binary64) : Int :=
  if f.negative then -(f.floorMagnitude : Int) else f.floorMagnitude

/-- The whole number nearest to a finite number's magnitude, an exact half upwards. -/
def roundMagnitude (f : Binary64) : Nat := (2 * f.ratio.1 + f.ratio.2) / (2 * f.ratio.2)

/-- A finite number rounded to a whole number, an exact half away from zero. -/
def roundToInt (f : Binary64) : Int :=
  if f.negative then -(f.roundMagnitude : Int) else f.roundMagnitude

/-- Rounds to a whole number and keeps the sign, zero's too; what is not finite stays. -/
def round (f : Binary64) : Binary64 :=
  if f.isFinite then ofRatio f.negative f.roundMagnitude 1 else f

end Binary64

end Reshape
