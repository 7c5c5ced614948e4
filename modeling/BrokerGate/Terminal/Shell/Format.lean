import BrokerGate.Decimal.Read
import BrokerGate.Terminal.Shell.Reply
import BrokerGate.Text.CharClass

/-! Backslash escapes, and output by a format that its arguments fill. -/
namespace BrokerGate.Terminal.Shell
open Decimal Text

private def octalRun (limit : Nat) (cs : Octets) : Octets :=
  (cs.take limit).takeWhile fun c => '0' ≤ c && c ≤ '7'

private def byteOf (n : Nat) : Char := Char.ofNat (n % 256)

private def simpleEscape? : Char → Option Char
  | 'e' => some '\x1b'
  | 'a' => some '\x07'
  | 'b' => some '\x08'
  | 'f' => some '\x0c'
  | 'n' => some '\n'
  | 'r' => some '\r'
  | 't' => some '\t'
  | 'v' => some '\x0b'
  | '\\' => some '\\'
  | _ => none

/-- The byte of an octal escape: three digits, or four if the first is a zero. -/
private def octalEscape? (cs : Octets) : Option (Char × Octets) :=
  let ds := octalRun (if cs.head? = some '0' then 4 else 3) cs
  if ds.isEmpty then none else some (byteOf ((natural? 8 ds).getD 0), cs.drop ds.length)

private def hexEscape? (cs : Octets) : Option (Char × Octets) :=
  match cs with
  | 'x' :: rest =>
    let ds := (rest.take 2).takeWhile fun c => (hexDigit? c).isSome
    if ds.isEmpty then none else some (byteOf ((natural? 16 ds).getD 0), rest.drop ds.length)
  | _ => none

/-- The escape at the start of a text that follows a backslash. -/
private def escape? (manner : Manner) (octal : Octets → Option (Char × Octets)) (cs : Octets) :
    Option (Char × Octets) :=
  match octal cs with
  | some r => some r
  | none =>
    match (if manner = .program then hexEscape? cs else none), cs with
    | some r, _ => some r
    | none, c :: rest => (simpleEscape? c).map fun d => (d, rest)
    | none, [] => none

/-- Text with the escapes of `echo`; the flag says that `\c` ended it. -/
def echoEscapes (manner : Manner) (fuel : Nat) (cs : Octets) : Octets × Bool :=
  match fuel, cs with
  | fuel + 1, '\\' :: 'c' :: _ => if fuel = 0 then ([], false) else ([], true)
  | fuel + 1, '\\' :: rest =>
    match escape? manner octalEscape? rest with
    | some (c, rest) =>
      let r := echoEscapes manner fuel rest
      (c :: r.1, r.2)
    | none =>
      let r := echoEscapes manner fuel rest
      ('\\' :: r.1, r.2)
  | fuel + 1, c :: rest =>
    let r := echoEscapes manner fuel rest
    (c :: r.1, r.2)
  | _, _ => ([], false)

/-- A formatted output in the making. -/
structure Formatting where
  output : Octets
  args : List Octets
  used : Bool
  stopped : Bool
  status : Nat
  complaints : List Octets

private def push (s : Formatting) (text : Octets) : Formatting :=
  { s with output := text.reverse ++ s.output }

private def pop (s : Formatting) : Octets × Formatting :=
  match s.args with
  | [] => ([], { s with used := true })
  | a :: rest => (a, { s with args := rest, used := true })

structure Spec where
  left : Bool
  zero : Bool
  plus : Bool
  space : Bool
  alternate : Bool
  width : Nat
  precision : Option Nat

private def padded (spec : Spec) (text : Octets) : Octets :=
  let pad := spec.width - text.length
  if spec.left then text ++ List.replicate pad ' ' else List.replicate pad ' ' ++ text

/-- What became of an argument that stands for a number. -/
private inductive Doubt
  | nothing
  | partly
  | outOfRange
  | sound
  deriving DecidableEq

private def digitsOf (base : Nat) (cs : Octets) : Octets :=
  cs.takeWhile fun c => ((hexDigit? c).any (· < base))

/-- Digits with a base marker, and what follows them. -/
private def magnitude? (cs : Octets) : Option (Nat × Octets) :=
  let number (base : Nat) (cs : Octets) : Option (Nat × Octets) :=
    let ds := digitsOf base cs
    (natural? base ds).map fun n => (n, cs.drop ds.length)
  match cs with
  | '0' :: 'x' :: r | '0' :: 'X' :: r => (number 16 r).or (number 8 cs)
  | '0' :: _ => number 8 cs
  | _ => number 10 cs

/-- A number, with a base marker or as the code of a quoted character. -/
private def argumentNumber (isSigned : Bool) (cs : Octets) : Int × Doubt :=
  match cs with
  | [] => (0, .sound)
  | '\'' :: c :: _ | '"' :: c :: _ => (c.toNat, .sound)
  | _ =>
    let body := cs.dropWhile fun c => c = ' ' || ('\t' ≤ c && c ≤ '\r')
    let (negative, body) := match body with
      | '-' :: r => (true, r)
      | '+' :: r => (false, r)
      | r => (false, r)
    match magnitude? body with
    | none => (0, .nothing)
    | some (n, rest) =>
      let value : Int := if negative then -(n : Int) else n
      let high : Int := if isSigned then 0x7FFFFFFFFFFFFFFF else 0xFFFFFFFFFFFFFFFF
      let low : Int := if isSigned then -0x8000000000000000 else -0xFFFFFFFFFFFFFFFF
      if value > high then (high, .outOfRange)
      else if value < low then (if isSigned then low else high, .outOfRange)
      else (value, if rest.isEmpty then .sound else .partly)

private def doubtText (manner : Manner) (arg : Octets) (d : Doubt) : Octets :=
  match manner with
  | .builtin => arg ++ (match d with
      | .nothing => ": expected numeric value"
      | .partly => ": not completely converted"
      | _ => ": Numerical result out of range").toList
  | .program => '\'' :: arg ++ (match d with
      | .nothing => "': expected a numeric value"
      | .partly => "': value not completely converted"
      | _ => "': Numerical result out of range").toList

private def doubted (manner : Manner) (arg : Octets) (d : Doubt) (s : Formatting) : Formatting :=
  if d = .sound then s
  else { s with status := 1, complaints := doubtText manner arg d :: s.complaints }

private def numeral (spec : Spec) (conversion : Char) (n : Int) : Octets :=
  let magnitude := if conversion = 'd' || conversion = 'i' then n.natAbs
    else (n % 0x10000000000000000).toNat
  let base := if conversion = 'o' then 8 else if conversion.toLower = 'x' then 16 else 10
  let digits := Nat.toDigits base magnitude
  let digits := if conversion = 'X' then digits.map Char.toUpper else digits
  let digits := List.replicate ((spec.precision.getD 1) - digits.length) '0' ++ digits
  let sign : Octets :=
    if conversion = 'd' || conversion = 'i' then
      if n < 0 then ['-'] else if spec.plus then ['+'] else if spec.space then [' '] else []
    else if spec.alternate && n ≠ 0 then
      (if conversion = 'o' then ['0'] else if base = 16 then ['0', conversion] else [])
    else []
  if spec.zero && !spec.left && spec.precision.isNone then
    sign ++ List.replicate (spec.width - sign.length - digits.length) '0' ++ digits
  else padded spec (sign ++ digits)

private def readFlags (fuel : Nat) (spec : Spec) (cs : Octets) : Spec × Octets :=
  match fuel, cs with
  | fuel + 1, '-' :: r => readFlags fuel { spec with left := true } r
  | fuel + 1, '0' :: r => readFlags fuel { spec with zero := true } r
  | fuel + 1, '+' :: r => readFlags fuel { spec with plus := true } r
  | fuel + 1, ' ' :: r => readFlags fuel { spec with space := true } r
  | fuel + 1, '#' :: r => readFlags fuel { spec with alternate := true } r
  | _, _ => (spec, cs)

/-- A size that is written out, or a star for which an argument stands. -/
private def readSize (manner : Manner) (cs : Octets) (s : Formatting) :
    Int × Octets × Formatting :=
  match cs with
  | '*' :: rest =>
    let (a, s) := pop s
    let (n, d) := argumentNumber true a
    (n, rest, doubted manner a d s)
  | _ =>
    let ds := cs.takeWhile Char.isDigit
    ((natural? 10 ds).getD 0, cs.drop ds.length, s)

private def readSpec (manner : Manner) (cs : Octets) (s : Formatting) :
    Spec × Octets × Formatting :=
  let (spec, cs) := readFlags cs.length ⟨false, false, false, false, false, 0, none⟩ cs
  let (width, cs, s) := readSize manner cs s
  let spec := { spec with left := spec.left || width < 0, width := width.natAbs }
  match cs with
  | '.' :: r =>
    let (n, r, s) := readSize manner r s
    ({ spec with precision := if n < 0 then none else some n.toNat }, r, s)
  | _ => (spec, cs, s)

/-- A fraction with a fixed number of places; a tie goes to the even neighbour. -/
private def fixedPoint (m : Magnitude) (places : Nat) : Octets :=
  match m with
  | .infinite => "inf".toList
  | .nan => "nan".toList
  | .finite mantissa e =>
    let (num, den) := if e ≥ 0 then (mantissa * Nat.pow 2 e.toNat, 1) else (mantissa, Nat.pow 2 (-e).toNat)
    let digits := Nat.toDigits 10 (roundRatio (num * Nat.pow 10 places) den)
    let digits := List.replicate (places + 1 - digits.length) '0' ++ digits
    let whole := digits.take (digits.length - places)
    if places = 0 then whole else whole ++ '.' :: digits.drop whole.length

/-- The fraction at the start of an argument. -/
private def argumentFraction (cs : Octets) : Double × Doubt :=
  let body := cs.dropWhile fun c => c = ' ' || ('\t' ≤ c && c ≤ '\r')
  let starts := (List.range (body.length + 1)).reverse.filter (· > 0)
  match cs, starts.findSome? fun n => (double? (body.take n)).map fun d => (d, n) with
  | [], _ => (⟨false, .finite 0 0⟩, .sound)
  | _, some (d, n) => (d, if n = body.length then .sound else .partly)
  | _, none => (⟨false, .finite 0 0⟩, .nothing)

private def fraction (spec : Spec) (d : Double) : Octets :=
  let text := fixedPoint d.magnitude (spec.precision.getD 6)
  let sign : Octets := if d.negative then ['-'] else if spec.plus then ['+']
    else if spec.space then [' '] else []
  if spec.zero && !spec.left then
    sign ++ List.replicate (spec.width - sign.length - text.length) '0' ++ text
  else padded spec (sign ++ text)

/-- A directive that means nothing ends the output. -/
private def refuseDirective (manner : Manner) (directive : Octets) (s : Formatting) : Formatting :=
  let (status, text) : Nat × Octets := match manner with
    | .builtin => (2, if directive = ['%'] then "missing format character".toList
        else directive ++ ": invalid directive".toList)
    | .program => (1, directive ++ ": invalid conversion specification".toList)
  { s with status, stopped := true, complaints := text :: s.complaints }

private def convert (manner : Manner) (spec : Spec) (directive : Octets) (conversion : Char)
    (s : Formatting) : Formatting :=
  match conversion with
  | 's' =>
    let (a, s) := pop s
    push s (padded spec (match spec.precision with
      | some n => a.take n
      | none => a))
  | 'b' =>
    let (a, s) := pop s
    let (text, stop) := echoEscapes manner (a.length + 1) a
    { push s (padded spec text) with stopped := stop }
  | 'c' =>
    let (a, s) := pop s
    push s (padded spec [a.headD '\x00'])
  | c =>
    if "diouxX".toList.contains c then
      let (a, s) := pop s
      let (n, d) := argumentNumber (c = 'd' || c = 'i') a
      doubted manner a d (push s (numeral spec c n))
    else if c = 'f' || c = 'F' then
      let (a, s) := pop s
      let (value, d) := argumentFraction a
      doubted manner a d (push s (fraction spec value))
    else refuseDirective manner directive s

private def plainOctal? (cs : Octets) : Option (Char × Octets) :=
  let ds := octalRun 3 cs
  if ds.isEmpty then none else some (byteOf ((natural? 8 ds).getD 0), cs.drop ds.length)

/-- Writes the format once. -/
private def formatOnce (manner : Manner) (fuel : Nat) (s : Formatting) (cs : Octets) :
    Formatting :=
  match fuel with
  | 0 => s
  | fuel + 1 =>
    if s.stopped then s
    else
      match cs with
      | [] => s
      | '%' :: '%' :: rest => formatOnce manner fuel (push s ['%']) rest
      | '%' :: rest =>
        let (spec, after, s) := readSpec manner rest s
        let directive := '%' :: rest.take (rest.length - after.length + 1)
        match after with
        | c :: after => formatOnce manner fuel (convert manner spec directive c s) after
        | [] => refuseDirective manner directive s
      | '\\' :: rest =>
        if rest.head? = some '"' then formatOnce manner fuel (push s ['"']) (rest.drop 1)
        else if rest.head? = some 'c' then { s with stopped := true }
        else
          match escape? manner plainOctal? rest with
          | some (c, rest) => formatOnce manner fuel (push s [c]) rest
          | none => formatOnce manner fuel (push s ['\\']) rest
      | c :: rest => formatOnce manner fuel (push s [c]) rest

/-- The format is used again while arguments are left. -/
private def formatAll (manner : Manner) (fuel : Nat) (format : Octets) (s : Formatting) :
    Formatting :=
  match fuel with
  | 0 => s
  | fuel + 1 =>
    let s := formatOnce manner (format.length + 1) { s with used := false } format
    if s.stopped || s.args.isEmpty || !s.used then s else formatAll manner fuel format s

/-- What comes of a format: output, complaints in order, and a status. -/
structure Formatted where
  output : Octets
  complaints : List Octets
  status : Nat

def printFormat (manner : Manner) (format : Octets) (args : List Octets) : Formatted :=
  let s := formatAll manner (args.length + 1) format ⟨[], args, false, false, 0, []⟩
  ⟨s.output.reverse, s.complaints.reverse, s.status⟩

end BrokerGate.Terminal.Shell
