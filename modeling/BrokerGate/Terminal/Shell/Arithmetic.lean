import BrokerGate.Decimal.Read
import BrokerGate.Terminal.Shell.Syntax

/-! Whole-number expressions: the usual operators with their precedence, comparisons giving 1 or 0,
a choice, assignments, and names standing for the numbers that they hold. -/
namespace BrokerGate.Terminal.Shell.Arithmetic
open Decimal

inductive Operator
  | or
  | and
  | bitOr
  | bitXor
  | bitAnd
  | equal
  | unequal
  | less
  | lessEqual
  | greater
  | greaterEqual
  | shiftLeft
  | shiftRight
  | add
  | sub
  | mul
  | div
  | mod
  deriving DecidableEq

/-- Longer marks come first. -/
private def operators : List (String × Operator × Nat) :=
  [("||", .or, 1), ("&&", .and, 2), ("==", .equal, 6), ("!=", .unequal, 6), ("<=", .lessEqual, 7),
    (">=", .greaterEqual, 7), ("<<", .shiftLeft, 8), (">>", .shiftRight, 8), ("<", .less, 7),
    (">", .greater, 7), ("|", .bitOr, 3), ("^", .bitXor, 4), ("&", .bitAnd, 5), ("+", .add, 9),
    ("-", .sub, 9), ("*", .mul, 10), ("/", .div, 10), ("%", .mod, 10)]

/-- What is wrong with an expression. -/
inductive Fault
  | expecting (what : String)
  | divisionByZero
  | illegalNumber (text : Octets)
  deriving DecidableEq

private def ofBool (b : Bool) : Int := if b then 1 else 0

/-- Results wrap to 64 bits. -/
def wrap (n : Int) : Int := Int.bmod n 0x10000000000000000

private def bits (f : Nat → Nat → Nat) (a b : Int) : Int :=
  wrap (f (a % 0x10000000000000000).toNat (b % 0x10000000000000000).toNat)

def combine (op : Operator) (a b : Int) : Except Fault Int :=
  match op with
  | .or => .ok (ofBool (a ≠ 0 || b ≠ 0))
  | .and => .ok (ofBool (a ≠ 0 && b ≠ 0))
  | .bitOr => .ok (bits Nat.lor a b)
  | .bitXor => .ok (bits Nat.xor a b)
  | .bitAnd => .ok (bits Nat.land a b)
  | .equal => .ok (ofBool (a = b))
  | .unequal => .ok (ofBool (a ≠ b))
  | .less => .ok (ofBool (a < b))
  | .lessEqual => .ok (ofBool (a ≤ b))
  | .greater => .ok (ofBool (a > b))
  | .greaterEqual => .ok (ofBool (a ≥ b))
  | .shiftLeft => .ok (wrap (a * Nat.pow 2 (b % 64).toNat))
  | .shiftRight => .ok (Int.fdiv a (Nat.pow 2 (b % 64).toNat))
  | .add => .ok (wrap (a + b))
  | .sub => .ok (wrap (a - b))
  | .mul => .ok (wrap (a * b))
  | .div => if b = 0 then .error .divisionByZero else .ok (wrap (Int.tdiv a b))
  | .mod => if b = 0 then .error .divisionByZero else .ok (Int.tmod a b)

private def isGap (c : Char) : Bool := c = ' ' || c = '\t' || c = '\n'

private def skipSpaces (cs : Octets) : Octets := cs.dropWhile isGap

private def saturated (n : Nat) : Int := min n 0x7FFFFFFFFFFFFFFF

/-- A number with its base marker, and what follows it. -/
private def numeral? (cs : Octets) : Option (Int × Octets) :=
  let run (base : Nat) (cs : Octets) : Option (Int × Octets) :=
    let ds := cs.takeWhile fun c => (digitIn? base c).isSome
    (natural? base ds).map fun n => (saturated n, cs.drop ds.length)
  match cs with
  | '0' :: 'x' :: r | '0' :: 'X' :: r => (run 16 r).or (run 8 cs)
  | '0' :: _ => run 8 cs
  | _ => run 10 cs

/-- The number that a text holds, spaces around it allowed. -/
def held (cs : Octets) : Except Fault Int :=
  let body := ((skipSpaces cs).reverse.dropWhile isGap).reverse
  let (negative, digits) := match body with
    | '-' :: r => (true, r)
    | '+' :: r => (false, r)
    | r => (false, r)
  match body.isEmpty, numeral? digits with
  | true, _ => .ok 0
  | _, some (n, []) => .ok (if negative then -n else n)
  | _, _ => .error (.illegalNumber cs)

/-- Operators that may be joined with an assignment. -/
private def assigning : List String := ["<<", ">>", "|", "^", "&", "+", "-", "*", "/", "%"]

private def operator? (least : Nat) (cs : Octets) : Option (Operator × Nat × Octets) :=
  match operators.find? fun o => o.1.toList.isPrefixOf cs with
  | some (mark, op, level) =>
    let after := cs.drop mark.length
    let assigns := after.head? = some '=' && assigning.contains mark
    if level ≥ least && !assigns then some (op, level, after) else none
  | none => none

/-- The mark of an assignment, with the operator that it applies first. -/
private def assignment? (cs : Octets) : Option (Option Operator × Octets) :=
  match cs with
  | '=' :: '=' :: _ => none
  | '=' :: r => some (none, r)
  | _ =>
    let marks := operators.filter fun o => assigning.contains o.1
    (marks.find? fun o => (o.1.toList ++ ['=']).isPrefixOf cs).map fun o =>
      (some o.2.1, cs.drop (o.1.length + 1))

private def isNameOctet (c : Char) : Bool := c.isAlphanum || c = '_'

/-- A value, what follows it, and the variables as they are now, the last assignment first. -/
structure Reached where
  value : Int
  rest : Octets
  bindings : List (Octets × Octets)

abbrev Reading := Except Fault Reached

mutual

/-- `live` says that the value is needed: a part that is passed over assigns nothing and cannot
fail. -/
private def assigned (fuel : Nat) (live : Bool) (vs : List (Octets × Octets)) (cs : Octets) :
    Reading :=
  match fuel with
  | 0 => .error (.expecting "primary")
  | fuel + 1 => do
    let body := skipSpaces cs
    let name := if body.head?.any Char.isDigit then [] else body.takeWhile isNameOctet
    match (if name.isEmpty then none else assignment? (skipSpaces (body.drop name.length))) with
    | none => chosen fuel live vs body
    | some (op, rest) =>
      let r ← assigned fuel live vs rest
      if !live then return r
      let value ← match op with
        | none => pure r.value
        | some op => do combine op (← held ((r.bindings.lookup name).getD [])) r.value
      return ⟨value, r.rest, (name, (toString value).toList) :: r.bindings⟩

private def chosen (fuel : Nat) (live : Bool) (vs : List (Octets × Octets)) (cs : Octets) :
    Reading :=
  match fuel with
  | 0 => .error (.expecting "primary")
  | fuel + 1 => do
    let c ← binary fuel live vs 0 cs
    match skipSpaces c.rest with
    | '?' :: rest =>
      let a ← assigned fuel (live && c.value ≠ 0) c.bindings rest
      match skipSpaces a.rest with
      | ':' :: rest =>
        let b ← chosen fuel (live && c.value = 0) a.bindings rest
        return { b with value := if c.value ≠ 0 then a.value else b.value }
      | _ => throw (.expecting "':'")
    | _ => return c

private def unary (fuel : Nat) (live : Bool) (vs : List (Octets × Octets)) (cs : Octets) :
    Reading :=
  match fuel with
  | 0 => .error (.expecting "primary")
  | fuel + 1 =>
    let mapped (f : Int → Int) (r : Octets) : Reading :=
      (unary fuel live vs r).map fun p => { p with value := f p.value }
    match skipSpaces cs with
    | '-' :: r => mapped (fun n => wrap (-n)) r
    | '+' :: r => unary fuel live vs r
    | '!' :: r => mapped (fun n => ofBool (n = 0)) r
    | '~' :: r => mapped (fun n => -n - 1) r
    | '(' :: r => do
      let p ← assigned fuel live vs r
      match skipSpaces p.rest with
      | ')' :: rest => return { p with rest }
      | _ => throw (.expecting "')'")
    | body => do
      if body.head?.any Char.isDigit then
        let (n, rest) := (numeral? body).getD (0, body.drop 1)
        return ⟨n, rest, vs⟩
      let name := body.takeWhile isNameOctet
      if name.isEmpty then throw (.expecting "primary")
      let value ← if live then held ((vs.lookup name).getD []) else pure 0
      return ⟨value, body.drop name.length, vs⟩

private def binary (fuel : Nat) (live : Bool) (vs : List (Octets × Octets)) (least : Nat)
    (cs : Octets) : Reading :=
  match fuel with
  | 0 => .error (.expecting "primary")
  | fuel + 1 => do climb fuel live least (← unary fuel live vs cs)

private def climb (fuel : Nat) (live : Bool) (least : Nat) (left : Reached) : Reading :=
  match fuel with
  | 0 => .error (.expecting "primary")
  | fuel + 1 =>
    match operator? least (skipSpaces left.rest) with
    | none => .ok left
    | some (op, level, rest) => do
      let needed := match op with
        | .or => left.value = 0
        | .and => left.value ≠ 0
        | _ => true
      let right ← binary fuel (live && needed) left.bindings (level + 1) rest
      let value ← if live then combine op left.value right.value else pure 0
      climb fuel live least { right with value }

end

/-- The value of a whole expression and the variables after it; an empty one is 0. -/
def evaluate (vs : List (Octets × Octets)) (cs : Octets) :
    Except Fault (Int × List (Octets × Octets)) := do
  if (skipSpaces cs).isEmpty then return (0, vs)
  let r ← assigned (8 * cs.length + 16) true vs cs
  if (skipSpaces r.rest).isEmpty then return (r.value, r.bindings)
  throw (.expecting "EOF")

def Fault.message (expression : Octets) : Fault → Octets
  | .expecting what =>
    ("arithmetic expression: expecting " ++ what ++ ": \"").toList ++ expression ++ ['"']
  | .divisionByZero => "arithmetic expression: division by zero: \"".toList ++ expression ++ ['"']
  | .illegalNumber text => "Illegal number: ".toList ++ text

end BrokerGate.Terminal.Shell.Arithmetic
