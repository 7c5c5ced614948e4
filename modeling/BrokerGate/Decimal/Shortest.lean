import BrokerGate.Decimal.Double

/-! The decimal with the fewest digits that reads back as a given double, and of several the
nearest; and its texts. -/
namespace BrokerGate.Decimal

/-- The numbers that round to `mantissa * 2 ^ exponent`, in quarters of its last bit. -/
structure Interval where
  low : Nat
  value : Nat
  high : Nat
  closed : Bool

def Interval.of (mantissa : Nat) (exponent : Int) : Interval :=
  let gap := if mantissa = 0x10000000000000 && exponent > leastExponent then 1 else 2
  ⟨4 * mantissa - gap, 4 * mantissa, 4 * mantissa + 2, mantissa % 2 = 0⟩

/-- `digits * 10 ^ k` as a multiple of quarters of the last bit, over a common denominator. -/
private structure Grid where
  step : Nat
  unit : Nat

private def Grid.of (exponent k : Int) : Grid :=
  let e := exponent - 2
  ⟨(if k ≥ 0 then Nat.pow 10 k.toNat else 1) * (if e < 0 then Nat.pow 2 (-e).toNat else 1),
    (if k < 0 then Nat.pow 10 (-k).toNat else 1) * (if e ≥ 0 then Nat.pow 2 e.toNat else 1)⟩

private def Grid.holds (g : Grid) (i : Interval) (digits : Nat) : Bool :=
  let x := digits * g.step
  if i.closed then i.low * g.unit ≤ x && x ≤ i.high * g.unit
  else i.low * g.unit < x && x < i.high * g.unit

private def distance (a b : Nat) : Nat := (a - b) + (b - a)

/-- The value's neighbour on the grid, if it reads back; of two the nearer, of equals the even. -/
private def Grid.hit? (g : Grid) (i : Interval) : Option Nat :=
  let x := i.value * g.unit
  let below := x / g.step
  let above := below + 1
  match g.holds i below, g.holds i above with
  | true, false => some below
  | false, true => some above
  | false, false => none
  | true, true =>
    let db := distance x (below * g.step)
    let da := distance x (above * g.step)
    if db < da || (db = da && below % 2 = 0) then some below else some above

/-- Tries ever finer grids. -/
private def search (i : Interval) (exponent : Int) (fuel : Nat) (k : Int) : Nat × Int :=
  match fuel with
  | 0 => (0, 0)
  | fuel + 1 =>
    match (Grid.of exponent k).hit? i with
    | some (d + 1) => (d + 1, k)
    | _ => search i exponent fuel (k - 1)

private def stripZeros (fuel digits : Nat) (k : Int) : Nat × Int :=
  match fuel with
  | 0 => (digits, k)
  | fuel + 1 => if digits % 10 = 0 && digits ≠ 0 then stripZeros fuel (digits / 10) (k + 1) else (digits, k)

/-- Digits and the power of ten of the last one. -/
def shortest (mantissa : Nat) (exponent : Int) : Nat × Int :=
  let top : Int := ((mantissa.log2 : Int) + exponent) * 30103 / 100000 + 1
  let r := search (.of mantissa exponent) exponent 24 top
  stripZeros 24 r.1 r.2

private def zeros (n : Nat) : List Char := List.replicate n '0'

/-- Digits with a point `places` after the first; without `whole` digits a zero leads. -/
private def pointed (digits : List Char) (point : Int) : List Char :=
  if point ≤ 0 then '0' :: '.' :: zeros (-point).toNat ++ digits
  else digits.take point.toNat ++ '.' :: digits.drop point.toNat

private def signed (d : Double) (text : List Char) : List Char :=
  if d.negative then '-' :: text else text

/-- All digits written out, no exponent, and no point in a whole number. -/
def plainText (d : Double) : List Char :=
  match d.magnitude with
  | .nan => "NaN".toList
  | .infinite => signed d "inf".toList
  | .finite 0 _ => signed d ['0']
  | .finite m e =>
    let (n, k) := shortest m e
    let digits := Nat.toDigits 10 n
    signed d (if k ≥ 0 then digits ++ zeros k.toNat else pointed digits (digits.length + k))

/-- Positional from 10^-5 up to 10^16 with at least one decimal, an exponent elsewhere. -/
def scientificText (d : Double) : List Char :=
  match d.magnitude with
  | .nan => "NaN".toList
  | .infinite => signed d "inf".toList
  | .finite 0 _ => signed d "0.0".toList
  | .finite m e =>
    let (n, k) := shortest m e
    let digits := Nat.toDigits 10 n
    let point : Int := digits.length + k
    signed d <|
      if 0 ≤ k && point ≤ 16 then digits ++ zeros k.toNat ++ ['.', '0']
      else if -5 < point && point ≤ 16 then pointed digits point
      else
        let exponent := point - 1
        (match digits with
          | [c] => [c]
          | c :: rest => c :: '.' :: rest
          | [] => []) ++ 'e' :: (toString exponent).toList

end BrokerGate.Decimal
