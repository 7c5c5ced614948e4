import BrokerGate.Text.CharClass
import BrokerGate.Text.Split

/-! Numeric hosts: the address of four octets in its decimal, octal and hexadecimal spellings, and
the address of eight pieces with its longest run of zeros written as `::`. -/
namespace BrokerGate.Url
open Text

def decimalText (n : Nat) : List Char := Nat.toDigits 10 n

def hexText (n : Nat) : List Char := Nat.toDigits 16 n

def digitsValue (base : Nat) (cs : List Char) : Nat :=
  cs.foldl (fun n c => n * base + (hexDigit? c).getD 0) 0

def isHexDigit (c : Char) : Bool := (hexDigit? c).isSome

structure Ipv4 where
  value : Nat
  small : value < 0x100000000 := by omega
  deriving DecidableEq

namespace Ipv4

def text (a : Ipv4) : List Char :=
  decimalText (a.value / 0x1000000) ++ '.' :: decimalText (a.value / 0x10000 % 256) ++
    '.' :: decimalText (a.value / 256 % 256) ++ '.' :: decimalText (a.value % 256)

/-- One part of an address: `0x` starts a hexadecimal number, `0` an octal one. -/
def number? (cs : List Char) : Option Nat :=
  let inBase (base : Nat) (ok : Char → Bool) (ds : List Char) : Option Nat :=
    if ds.all ok then some (digitsValue base ds) else none
  match cs with
  | [] => none
  | '0' :: 'x' :: ds => inBase 16 isHexDigit ds
  | '0' :: 'X' :: ds => inBase 16 isHexDigit ds
  | '0' :: d :: ds => inBase 8 (fun c => '0' ≤ c && c ≤ '7') (d :: ds)
  | ds => inBase 10 Char.isDigit ds

def parts (cs : List Char) : List (List Char) :=
  let ps := pieces '.' cs
  if ps.getLast? = some [] then ps.dropLast else ps

/-- A name whose last part is a number, one final dot aside, has to be an address. -/
def endsInNumber (cs : List Char) : Bool :=
  match (parts cs).getLast? with
  | none => false
  | some last => (!last.isEmpty && last.all Char.isDigit) || (number? last).isSome

/-- The last number fills all octets that the others leave. -/
def parse? (cs : List Char) : Option Ipv4 :=
  match (parts cs).mapM number? with
  | none => none
  | some ns =>
    let lead := ns.dropLast
    let high := lead.zipIdx.foldl (fun n p => n + p.1 * Nat.pow 256 (3 - p.2)) 0
    match ns.getLast? with
    | none => none
    | some last =>
      if ns.length ≤ 4 && lead.all (· < 256) && last < Nat.pow 256 (4 - lead.length) then
        if h : high + last < 0x100000000 then some ⟨high + last, h⟩ else none
      else none

end Ipv4

structure Ipv6 where
  groups : List Nat
  size : groups.length = 8
  small : ∀ g ∈ groups, g < 65536
  deriving DecidableEq

namespace Ipv6

def ofGroups? (gs : List Nat) : Option Ipv6 :=
  if h : gs.length = 8 ∧ ∀ g ∈ gs, g < 65536 then some ⟨gs, h.1, h.2⟩ else none

def zerosAt (gs : List Nat) (i : Nat) : Nat := ((gs.drop i).takeWhile (· = 0)).length

/-- Where the longest run of at least two zeros starts, the first of equals. -/
def zeroRun (gs : List Nat) : Option (Nat × Nat) :=
  (List.range gs.length).foldl (fun best i =>
    let n := zerosAt gs i
    if n ≥ 2 && n > (best.map (·.2)).getD 0 then some (i, n) else best) none

def groupsText (gs : List Nat) : List Char := joinWith [':'] (gs.map hexText)

def text (a : Ipv6) : List Char :=
  match zeroRun a.groups with
  | none => groupsText a.groups
  | some (i, n) =>
    groupsText (a.groups.take i) ++ ':' :: ':' :: groupsText (a.groups.drop (i + n))

def group? (cs : List Char) : Option Nat :=
  if 1 ≤ cs.length && cs.length ≤ 4 && cs.all isHexDigit then some (digitsValue 16 cs) else none

def octet? (cs : List Char) : Option Nat :=
  if !cs.isEmpty && cs.all Char.isDigit && (cs.length = 1 || cs.head? ≠ some '0') then
    let n := digitsValue 10 cs
    if n ≤ 255 then some n else none
  else none

def quad? (cs : List Char) : Option (List Nat) :=
  match (pieces '.' cs).mapM octet? with
  | some [a, b, c, d] => some [a * 256 + b, c * 256 + d]
  | _ => none

def groups? (cs : List Char) : Option (List Nat) :=
  if cs.isEmpty then some [] else (pieces ':' cs).mapM group?

/-- The last piece may be four decimal octets. -/
def tailGroups? (cs : List Char) : Option (List Nat) :=
  if cs.contains '.' then
    match cutLast ':' cs with
    | none => quad? cs
    | some (front, back) =>
      match (pieces ':' front).mapM group?, quad? back with
      | some gs, some q => some (gs ++ q)
      | _, _ => none
  else groups? cs

def cutDouble : List Char → Option (List Char × List Char)
  | [] => none
  | ':' :: ':' :: cs => some ([], cs)
  | c :: cs => (cutDouble cs).map fun p => (c :: p.1, p.2)

/-- `::` stands for at least one group of zeros. -/
def parse? (cs : List Char) : Option Ipv6 :=
  match cutDouble cs with
  | none => (tailGroups? cs).bind ofGroups?
  | some (front, back) =>
    match groups? front, tailGroups? back with
    | some f, some b =>
      if f.length + b.length ≤ 7 then
        ofGroups? (f ++ List.replicate (8 - f.length - b.length) 0 ++ b)
      else none
    | _, _ => none

end Ipv6

end BrokerGate.Url
