/-! Binary numbers of double width, exactly: a whole number below 2^53 times a power of two, or
beyond range, or no number. Decimals are rounded to the nearest, a tie to the even neighbour. -/
namespace BrokerGate.Decimal

inductive Magnitude
  | finite (mantissa : Nat) (exponent : Int)
  | infinite
  | nan
  deriving DecidableEq

structure Double where
  negative : Bool
  magnitude : Magnitude
  deriving DecidableEq

namespace Double

def isFinite (d : Double) : Bool :=
  match d.magnitude with
  | .finite _ _ => true
  | _ => false

end Double

def leastExponent : Int := -1074
def greatestExponent : Int := 971

/-- The quotient rounded to the nearest whole number. -/
def roundRatio (num den : Nat) : Nat :=
  let q := num / den
  let r := num % den
  if 2 * r > den || (2 * r = den && q % 2 = 1) then q + 1 else q

/-- `num / den * 2 ^ e` as a ratio. -/
private def scaled (num den : Nat) (e : Int) : Nat × Nat :=
  if e ≥ 0 then (num * Nat.pow 2 e.toNat, den) else (num, den * Nat.pow 2 (-e).toNat)

/-- The exponent that leaves 53 bits before the point. -/
private def exponentFor (num den : Nat) : Int :=
  let guess : Int := (num.log2 : Int) - den.log2 - 52
  let (n, d) := scaled num den (-guess)
  if n / d < 0x10000000000000 then guess - 1 else guess

def ofRatio (num den : Nat) : Magnitude :=
  if num = 0 then .finite 0 0
  else
    let e := max (exponentFor num den) leastExponent
    let (n, d) := scaled num den (-e)
    let m := roundRatio n d
    let (m, e) := if m = 0x20000000000000 then (0x10000000000000, e + 1) else (m, e)
    if e > greatestExponent then .infinite else .finite m e

/-- `digits * 10 ^ exponent`. Exponents far out of range are settled by size alone. -/
def ofDecimal (digits : Nat) (exponent : Int) : Magnitude :=
  let size : Int := (Nat.toDigits 10 digits).length + exponent
  if digits = 0 || size < -400 then .finite 0 0
  else if size > 400 then .infinite
  else if exponent ≥ 0 then ofRatio (digits * Nat.pow 10 exponent.toNat) 1
  else ofRatio digits (Nat.pow 10 (-exponent).toNat)

end BrokerGate.Decimal
