import BrokerGate.Decimal.Read
import BrokerGate.Terminal.Shell.Reply

/-!
Conditions on texts, numbers and files. Both kinds of `test` know the same operators. They read
longer conditions differently, and each has its own words for one that makes no sense.
-/
namespace BrokerGate.Terminal.Shell.Condition
open Decimal

private def isBlankOctet (c : Char) : Bool := c = ' ' || ('\t' ≤ c && c ≤ '\r')

def integer? (cs : Octets) : Option Int :=
  let body := (cs.dropWhile isBlankOctet).reverse.dropWhile isBlankOctet |>.reverse
  match body with
  | '-' :: ds => (natural? 10 ds).map fun n => -(n : Int)
  | '+' :: ds => (natural? 10 ds).map Int.ofNat
  | ds => (natural? 10 ds).map Int.ofNat

private def relation? (op : String) : Option (Int → Int → Bool) :=
  match op with
  | "-eq" => some (· == ·)
  | "-ne" => some (· != ·)
  | "-lt" => some fun x y => decide (x < y)
  | "-le" => some fun x y => decide (x ≤ y)
  | "-gt" => some fun x y => decide (x > y)
  | "-ge" => some fun x y => decide (x ≥ y)
  | _ => none

/-- The value of two operands joined by an operator; the first text that is no number refuses. -/
private def joined (fs : Files) (op : String) (a b : Octets) : Except Octets Bool :=
  match relation? op with
  | some f =>
    match integer? a, integer? b with
    | some x, some y => .ok (f x y)
    | none, _ => .error a
    | _, none => .error b
  | none =>
    .ok (match op with
    | "=" | "==" => a = b
    | "!=" => a ≠ b
    | "<" => decide (String.ofList a < String.ofList b)
    | ">" => decide (String.ofList a > String.ofList b)
    | "-ef" => fs.exists? a && Files.normal a = Files.normal b
    | "-nt" => fs.exists? a && !fs.exists? b
    | "-ot" => fs.exists? b && !fs.exists? a
    | _ => false)

private def inspected (fs : Files) (op : String) (a : Octets) : Except Octets Bool :=
  match op with
  | "-n" => .ok (!a.isEmpty)
  | "-z" => .ok a.isEmpty
  | "-e" | "-r" | "-w" | "-O" | "-G" => .ok (fs.exists? a)
  | "-f" => .ok (fs.isFile a && !Files.isDevice a)
  | "-c" => .ok (Files.isDevice a)
  | "-d" => .ok (fs.isDirectory a)
  | "-s" => .ok (((fs.read? a).map fun c => !c.isEmpty).getD (fs.isDirectory a))
  | "-x" => .ok (fs.isDirectory a || Files.isProgram a)
  | "-t" => if (integer? a).isSome then .ok false else .error a
  | _ => .ok false

/-! ### The condition of the shell -/

private def isUnary (w : Octets) : Bool :=
  match w with
  | ['-', c] => "rwxefdcbpugkstznhOGLS".toList.contains c
  | _ => false

private def isBinary (w : Octets) : Bool :=
  (["=", "!=", "<", ">", "-eq", "-ne", "-gt", "-lt", "-le", "-ge", "-nt", "-ot", "-ef"] :
    List String).contains (String.ofList w)

private def isMark (w : Octets) : Bool :=
  (["!", "-a", "-o", "(", ")"] : List String).contains (String.ofList w)

/-- What the first of some words is. -/
private inductive Lexeme
  | finish
  | operand
  | operator (w : Octets)
  deriving DecidableEq

/-- A word that looks like a unary operator is an operand if nothing follows, or if a binary
operator and a word follow. -/
private def lexeme : List Octets → Lexeme
  | [] => .finish
  | w :: rest =>
    let standsAlone := match rest with
      | [] => true
      | [_] => false
      | next :: _ => isBinary next
    if isUnary w then (if standsAlone then .operand else .operator w)
    else if w = ['('] && rest.isEmpty then .operand
    else if isBinary w || isMark w then .operator w
    else .operand

private def about (w : Octets) (text : String) : Octets :=
  if w.isEmpty then text.toList else w ++ ": ".toList ++ text.toList

private def illegal (w : Octets) : Octets := "Illegal number: ".toList ++ w

abbrev Judged := Except Octets (Bool × List Octets)

mutual

/-- The words of a result begin with the last one that was read. -/
private def primary (fuel : Nat) (fs : Files) (n : Lexeme) (ws : List Octets) : Judged :=
  match fuel with
  | 0 => .ok (false, ws)
  | fuel + 1 =>
    let plain : Judged :=
      match lexeme (ws.drop 1) with
      | .operator op =>
        if isBinary op then
          match ws.drop 2 with
          | [] => .error (about op "argument expected")
          | b :: _ =>
            match joined fs (String.ofList op) (ws.headD []) b with
            | .ok r => .ok (r, ws.drop 2)
            | .error w => .error (illegal w)
        else .ok (!(ws.headD []).isEmpty, ws)
      | _ => .ok (!(ws.headD []).isEmpty, ws)
    match n with
    | .finish => .ok (false, ws)
    | .operand => plain
    | .operator op =>
      if op = ['('] then
        let inner := ws.drop 1
        if lexeme inner = .operator [')'] then .ok (false, inner)
        else
          match anyOf fuel fs false (lexeme inner) inner with
          | .error e => .error e
          | .ok (r, rest) =>
            if lexeme (rest.drop 1) = .operator [')'] then .ok (r, rest.drop 1)
            else .error "closing paren expected".toList
      else if isUnary op then
        match ws.drop 1 with
        | [] => .error (about op "argument expected")
        | a :: _ =>
          match inspected fs (String.ofList op) a with
          | .ok r => .ok (r, ws.drop 1)
          | .error w => .error (illegal w)
      else plain

private def denied (fuel : Nat) (fs : Files) (n : Lexeme) (ws : List Octets) : Judged :=
  match fuel with
  | 0 => .ok (false, ws)
  | fuel + 1 =>
    if n = .operator ['!'] then
      let next := lexeme (ws.drop 1)
      (denied fuel fs next (if next = .finish then ws else ws.drop 1)).map fun r => (!r.1, r.2)
    else primary fuel fs n ws

private def allOf (fuel : Nat) (fs : Files) (held : Bool) (n : Lexeme) (ws : List Octets) :
    Judged :=
  match fuel with
  | 0 => .ok (false, ws)
  | fuel + 1 =>
    match denied fuel fs n ws with
    | .error e => .error e
    | .ok (r, ws) =>
      if lexeme (ws.drop 1) = .operator ['-', 'a'] then
        allOf fuel fs (held && r) (lexeme (ws.drop 2)) (ws.drop 2)
      else .ok (held && r, ws)

private def anyOf (fuel : Nat) (fs : Files) (held : Bool) (n : Lexeme) (ws : List Octets) :
    Judged :=
  match fuel with
  | 0 => .ok (false, ws)
  | fuel + 1 =>
    match allOf fuel fs true n ws with
    | .error e => .error e
    | .ok (r, ws) =>
      if lexeme (ws.drop 1) = .operator ['-', 'o'] then
        anyOf fuel fs (held || r) (lexeme (ws.drop 2)) (ws.drop 2)
      else .ok (held || r, ws)

end

private def whole (fs : Files) (n : Lexeme) (ws : List Octets) : Except Octets Bool :=
  match anyOf (4 * ws.length + 8) fs false n ws with
  | .error e => .error e
  | .ok (_, w :: _ :: _) => .error (about w "unexpected operator")
  | .ok (r, _) => .ok r

private def opened (fs : Files) (ws : List Octets) : Except Octets Bool := whole fs (lexeme ws) ws

private def inParentheses? (ws : List Octets) : Option (List Octets) :=
  if ws.head? = some ['('] && ws.getLast? = some [')'] then some (ws.drop 1).dropLast else none

/-- The value of three words, and whether it is the value of a denial. -/
private def ofThree (fs : Files) (ws : List Octets) : Bool × Except Octets Bool :=
  if (ws.drop 1).head?.any isBinary then (false, whole fs .operand ws)
  else
    match inParentheses? ws with
    | some inner => (false, opened fs inner)
    | none =>
      if ws.head? = some ['!'] then (true, opened fs (ws.drop 1)) else (false, opened fs ws)

/-- Three and four words have readings of their own: a binary operator in the middle of three wins,
and of leading marks of denial only one counts. -/
def ofShell (fs : Files) (args : List Octets) : Except Octets Bool :=
  match args.length with
  | 3 =>
    let (denies, r) := ofThree fs args
    r.map (· != denies)
  | 4 =>
    match inParentheses? args with
    | some inner => opened fs inner
    | none =>
      if args.head? = some ['!'] then (ofThree fs (args.drop 1)).2.map (!·) else opened fs args
  | _ => opened fs args

/-! ### The condition of a program -/

private def shown (w : Octets) : String := "'" ++ String.ofList w ++ "'"

private def isJoining (w : Octets) : Bool :=
  (["=", "!=", "==", "-nt", "-ot", "-ef", "-eq", "-ne", "-lt", "-le", "-gt", "-ge"] :
    List String).contains (String.ofList w)

private def isDashed : Octets → Bool
  | ['-', _] => true
  | _ => false

private def missingAfter (last : Octets) : Octets :=
  ("missing argument after " ++ shown last).toList

private def noInteger (w : Octets) : Octets := ("invalid integer " ++ shown w).toList

private def joinedBy (fs : Files) (a op b : Octets) (rest : List Octets) : Judged :=
  match joined fs (String.ofList op) a b with
  | .ok r => .ok (r, rest)
  | .error w => .error (noInteger w)

/-- A unary operator and its operand. `last` is the last word of the whole condition. -/
private def unary (fs : Files) (last : Octets) (ws : List Octets) : Judged :=
  match ws with
  | op :: rest =>
    if !("eGNOSLbcdfghknprstuwxz".toList.contains ((op.drop 1).headD ' ')) then
      .error (shown op ++ ": unary operator expected").toList
    else
      match rest with
      | [] => .error (missingAfter last)
      | a :: rest =>
        match inspected fs (String.ofList op) a with
        | .ok r => .ok (r, rest)
        | .error w => .error (noInteger w)
  | [] => .error (missingAfter last)

private def single (last : Octets) : List Octets → Judged
  | a :: rest => .ok (!a.isEmpty, rest)
  | [] => .error (missingAfter last)

private def double (fs : Files) (last : Octets) (ws : List Octets) : Judged :=
  match ws with
  | ['!'] :: rest => (single last rest).map fun r => (!r.1, r.2)
  | w :: _ => if isDashed w then unary fs last ws else .error (missingAfter last)
  | [] => .error (missingAfter last)

mutual

private def counted (fuel : Nat) (fs : Files) (last : Octets) (n : Nat) (ws : List Octets) :
    Judged :=
  match fuel with
  | 0 => .ok (false, [])
  | fuel + 1 =>
    match n, ws with
    | 1, ws => single last ws
    | 2, ws => double fs last ws
    | 3, ws => triple fuel fs last ws
    | 4, ['!'] :: rest => (triple fuel fs last rest).map fun r => (!r.1, r.2)
    | 4, ['('] :: a :: b :: [')'] :: rest => (double fs last [a, b]).map fun r => (r.1, rest)
    | _, ws => either fuel fs last false ws

private def triple (fuel : Nat) (fs : Files) (last : Octets) (ws : List Octets) : Judged :=
  match fuel with
  | 0 => .ok (false, [])
  | fuel + 1 =>
    match ws with
    | a :: op :: b :: rest =>
      if isJoining op then joinedBy fs a op b rest
      else if a = ['!'] then (double fs last (op :: b :: rest)).map fun r => (!r.1, r.2)
      else if a = ['('] && b = [')'] then .ok (!op.isEmpty, rest)
      else if op = ['-', 'a'] || op = ['-', 'o'] then either fuel fs last false ws
      else .error (shown op ++ ": binary operator expected").toList
    | _ => .error (missingAfter last)

private def either (fuel : Nat) (fs : Files) (last : Octets) (held : Bool) (ws : List Octets) :
    Judged :=
  match fuel with
  | 0 => .ok (false, [])
  | fuel + 1 =>
    match both fuel fs last true ws with
    | .error e => .error e
    | .ok (r, ['-', 'o'] :: rest) => either fuel fs last (held || r) rest
    | .ok (r, rest) => .ok (held || r, rest)

private def both (fuel : Nat) (fs : Files) (last : Octets) (held : Bool) (ws : List Octets) :
    Judged :=
  match fuel with
  | 0 => .ok (false, [])
  | fuel + 1 =>
    match term fuel fs last ws with
    | .error e => .error e
    | .ok (r, ['-', 'a'] :: rest) => both fuel fs last (held && r) rest
    | .ok (r, rest) => .ok (held && r, rest)

private def term (fuel : Nat) (fs : Files) (last : Octets) (ws : List Octets) : Judged :=
  match fuel with
  | 0 => .ok (false, [])
  | fuel + 1 =>
    match ws with
    | [] => .error (missingAfter last)
    | ['!'] :: rest => (term fuel fs last rest).map fun r => (!r.1, r.2)
    | ['('] :: rest =>
      let inside := rest.takeWhile (· ≠ [')'])
      if rest.isEmpty then .error (missingAfter last)
      else
        let n := if inside.length > 3 then rest.length else max 1 inside.length
        match counted fuel fs last n rest with
        | .error e => .error e
        | .ok (r, [')'] :: rest) => .ok (r, rest)
        | .ok (_, []) => .error "')' expected".toList
        | .ok (_, w :: _) => .error ("')' expected, found " ++ shown w).toList
    | a :: op :: b :: rest =>
      if isJoining op then joinedBy fs a op b rest
      else if isDashed a then unary fs last ws
      else .ok (!a.isEmpty, op :: b :: rest)
    | a :: rest => if isDashed a then unary fs last ws else .ok (!a.isEmpty, rest)

end

def ofProgram (fs : Files) (args : List Octets) : Except Octets Bool :=
  match args with
  | [] => .ok false
  | args =>
    match counted (4 * args.length + 8) fs (args.getLast?.getD []) args.length args with
    | .error e => .error e
    | .ok (r, []) => .ok r
    | .ok (_, w :: _) => .error ("extra argument " ++ shown w).toList

end BrokerGate.Terminal.Shell.Condition
