import BrokerGate.Decimal.Double

/-! Reading numbers: whole numbers in a base, and decimals with point and exponent. -/
namespace BrokerGate.Decimal

def digitIn? (base : Nat) (c : Char) : Option Nat :=
  let n := c.toNat
  let d :=
    if 48 ≤ n && n ≤ 57 then n - 48
    else if 97 ≤ n && n ≤ 122 then n - 87
    else if 65 ≤ n && n ≤ 90 then n - 55
    else base
  if d < base then some d else none

def valueFrom? (base acc : Nat) : List Char → Option Nat
  | [] => some acc
  | c :: cs => (digitIn? base c).bind fun d => valueFrom? base (acc * base + d) cs

/-- A whole number without sign. -/
def natural? (base : Nat) (cs : List Char) : Option Nat :=
  if cs.isEmpty then none else valueFrom? base 0 cs

/-- A whole number, a plus sign allowed. -/
def unsigned? (base : Nat) (cs : List Char) : Option Nat :=
  match cs with
  | '+' :: r => natural? base r
  | _ => natural? base cs

def integer? (base : Nat) (cs : List Char) : Option Int :=
  match cs with
  | '-' :: r => (natural? base r).map fun n => -(n : Int)
  | _ => (unsigned? base cs).map Int.ofNat

def within (low high : Int) (n : Int) : Option Int := if low ≤ n && n ≤ high then some n else none

def lower (cs : List Char) : String := String.ofList (cs.map Char.toLower)

def exponent? (cs : List Char) : Option Int :=
  match cs with
  | [] => some 0
  | e :: r => if e = 'e' || e = 'E' then integer? 10 r else none

/-- A decimal without sign: digits around at most one point, then an exponent. -/
def magnitude? (cs : List Char) : Option Magnitude :=
  match lower cs with
  | "inf" | "infinity" => some .infinite
  | "nan" => some .nan
  | _ =>
    let whole := cs.takeWhile Char.isDigit
    let rest := cs.drop whole.length
    let (fraction, rest) := match rest with
      | '.' :: r => (r.takeWhile Char.isDigit, r.dropWhile Char.isDigit)
      | _ => ([], rest)
    match natural? 10 (whole ++ fraction), exponent? rest with
    | some n, some e => some (ofDecimal n (e - fraction.length))
    | _, _ => none

def double? (cs : List Char) : Option Double :=
  match cs with
  | '-' :: r => (magnitude? r).map (⟨true, ·⟩)
  | '+' :: r => (magnitude? r).map (⟨false, ·⟩)
  | _ => (magnitude? cs).map (⟨false, ·⟩)

end BrokerGate.Decimal
