import BrokerGate.Config.Value
import BrokerGate.Decimal.Read
import BrokerGate.Text.Split
import BrokerGate.Text.CharClass

/-! Settings from environment variables. A variable `BROXY_A__B` sets the key `b` of the table `a`;
its text is a flag, a number, a quoted text, a list or a table where it reads as one, and stands for
itself otherwise. -/
namespace BrokerGate.Config
open Text Decimal

def variableMark : List Char := "BROXY_".toList

def isGap (c : Char) : Bool := c = ' ' || c = '\t'

def skipGap (cs : List Char) : List Char := cs.dropWhile isGap

def isSeparator (c : Char) : Bool :=
  c = ',' || c = '\x7b' || c = '\x7d' || c = '[' || c = ']'

def isKeyChar (c : Char) : Bool := c.isAlphanum || c = '_' || c = '-'

/-- A bare text: a decimal if it has a point, else a whole number, else itself. -/
def bareScalar (cs : List Char) : Scalar :=
  let asDecimal := if cs.contains '.' then double? cs else none
  match asDecimal with
  | some d => .real d
  | none =>
    match unsigned? 10 cs with
    | some n =>
      if n < 0x10000000000000000 then .unsigned n else .text (String.ofList cs)
    | none =>
      match (integer? 10 cs).bind (within (-0x8000000000000000) 0x7FFFFFFFFFFFFFFF) with
      | some n => .signed n
      | none => .text (String.ofList cs)

def hexChar? (cs : List Char) : Option Char :=
  match natural? 16 cs with
  | some n => if n < 0x110000 && !(0xD800 ≤ n && n ≤ 0xDFFF) then some (Char.ofNat n) else none
  | none => none

def simpleEscape? : Char → Option Char
  | '"' => some '"'
  | '\\' => some '\\'
  | 'b' => some '\x08'
  | 'f' => some '\x0c'
  | 'n' => some '\n'
  | 'r' => some '\r'
  | 't' => some '\t'
  | _ => none

def isPlainInQuotes (c : Char) : Bool := c = '\t' || (c.toNat ≥ 0x20 && c.toNat ≠ 0x7F)

/-- What follows an opening quote, up to the closing one. -/
def quotedBody (fuel : Nat) (acc : List Char) (cs : List Char) :
    Option (List Char × List Char) :=
  match fuel, cs with
  | _ + 1, '"' :: rest => some (acc.reverse, rest)
  | fuel + 1, '\\' :: 'u' :: rest =>
    (hexChar? (rest.take 4)).bind fun c =>
      if rest.length < 4 then none else quotedBody fuel (c :: acc) (rest.drop 4)
  | fuel + 1, '\\' :: 'U' :: rest =>
    (hexChar? (rest.take 8)).bind fun c =>
      if rest.length < 8 then none else quotedBody fuel (c :: acc) (rest.drop 8)
  | fuel + 1, '\\' :: e :: rest =>
    (simpleEscape? e).bind fun c => quotedBody fuel (c :: acc) rest
  | fuel + 1, c :: rest =>
    if c ≠ '\\' && isPlainInQuotes c then quotedBody fuel (c :: acc) rest else none
  | _, _ => none

def key? (cs : List Char) : Option (String × List Char) :=
  match cs with
  | '"' :: rest => (quotedBody (rest.length + 1) [] rest).map fun p => (String.ofList p.1, p.2)
  | _ =>
    let name := cs.takeWhile isKeyChar
    if name.isEmpty then none else some (String.ofList name, cs.drop name.length)

def scalarOf (s : Scalar) : Value := .scalar .environment s

mutual

def valueAt (fuel : Nat) (cs : List Char) : Option (Value × List Char) :=
  match fuel with
  | 0 => none
  | fuel + 1 =>
    let cs := skipGap cs
    let done (s : Scalar) (rest : List Char) : Option (Value × List Char) :=
      some (scalarOf s, skipGap rest)
    match cs with
    | 't' :: 'r' :: 'u' :: 'e' :: rest => done (.flag true) rest
    | 'f' :: 'a' :: 'l' :: 's' :: 'e' :: rest => done (.flag false) rest
    | '\x7b' :: rest =>
      (entriesAt fuel rest).map fun p =>
        (.table .environment (Entries.ofList p.1), skipGap p.2)
    | '[' :: rest => (itemsAt fuel rest).map fun p => (.list .environment p.1, skipGap p.2)
    | '"' :: rest =>
      match quotedBody (rest.length + 1) [] rest with
      | some (s, rest) => done (.text (String.ofList s)) rest
      | none => none
    | '\'' :: c :: '\'' :: rest => done (.char c) rest
    | '\'' :: _ => none
    | _ =>
      let bare := cs.takeWhile fun c => !isSeparator c
      done (bareScalar (trimBlank bare)) (cs.drop bare.length)

/-- The items of a list; a comma may stand before its end. -/
def itemsAt (fuel : Nat) (cs : List Char) : Option (List Value × List Char) :=
  match fuel, cs with
  | 0, _ => none
  | _, ']' :: rest => some ([], rest)
  | fuel + 1, cs =>
    match valueAt fuel cs with
    | some (v, ',' :: rest) => (itemsAt fuel rest).map fun p => (v :: p.1, p.2)
    | some (v, ']' :: rest) => some ([v], rest)
    | _ => none

def entriesAt (fuel : Nat) (cs : List Char) :
    Option (List (String × Value) × List Char) :=
  match fuel, cs with
  | 0, _ => none
  | _, '\x7d' :: rest => some ([], rest)
  | fuel + 1, cs =>
    match key? (skipGap cs) with
    | none => none
    | some (k, rest) =>
      match skipGap rest with
      | '=' :: rest =>
        match valueAt fuel rest with
        | some (v, ',' :: rest) => (entriesAt fuel rest).map fun p => ((k, v) :: p.1, p.2)
        | some (v, '\x7d' :: rest) => some ([(k, v)], rest)
        | _ => none
      | _ => none

end

/-- The value of a variable. -/
def variableValue (text : String) : Value :=
  let cs := trimBlank text.toList
  match valueAt (2 * cs.length + 2) cs with
  | some (v, []) => v
  | _ => scalarOf (.text (String.ofList cs))

private def dotted (sep : List Char) (fuel : Nat) (cs : List Char) : List Char :=
  match fuel, cs with
  | fuel + 1, c :: rest =>
    match dropWord? sep (c :: rest) with
    | some rest => '.' :: dotted sep fuel rest
    | none => c :: dotted sep fuel rest
  | _, _ => []

/-- The keys that a variable's name leads through, if it is one of the program's. -/
def variablePath? (name : String) : Option (List String) :=
  let cs := (trimBlank name.toList).map Char.toLower
  match dropWord? (variableMark.map Char.toLower) cs with
  | none => none
  | some rest =>
    let keys := pieces '.' (dotted ['_', '_'] (rest.length + 1) (trimBlank rest))
    if keys.any List.isEmpty then none else some (keys.map String.ofList)

def nested : List String → Value → Value
  | [], v => v
  | k :: ks, v => .table .environment [(k, nested ks v)]

/-- All variables as one layer; later ones are merged over earlier ones. -/
def environmentLayer (environment : List (String × String)) : Value :=
  environment.foldl (fun acc v =>
    match variablePath? v.1 with
    | some path => acc.merge (nested path (variableValue v.2))
    | none => acc) (.table .environment [])

end BrokerGate.Config
