import BrokerGate.Config.Value
import BrokerGate.Decimal.Read
import BrokerGate.Text.Split
import BrokerGate.Yaml.Node

/-! Settings from a YAML document: what plain scalars stand for, what tags ask for, and the table at
the root. -/
namespace BrokerGate.Config
open Decimal Yaml Text

private def isOneOf (names : List String) (cs : List Char) : Bool :=
  names.any fun n => n.toList = cs

def isNullText (cs : List Char) : Bool := isOneOf ["~", "null", "Null", "NULL"] cs

def flagOfText? (cs : List Char) : Option Bool :=
  if isOneOf ["true", "True", "TRUE"] cs then some true
  else if isOneOf ["false", "False", "FALSE"] cs then some false
  else none

private def withoutSign (cs : List Char) : List Char :=
  match cs with
  | '+' :: r | '-' :: r => r
  | _ => cs

/-- Digits behind a leading zero are a text. -/
private def isZeroLed (cs : List Char) : Bool :=
  match withoutSign cs with
  | '0' :: d :: rest => (d :: rest).all Char.isDigit
  | _ => false

private def basePrefixes : List (List Char × Nat) :=
  [(['0', 'x'], 16), (['0', 'o'], 8), (['0', 'b'], 2)]

/-- The number behind a base marker, bounded. -/
private def basedNatural? (bound : Nat) (cs : List Char) : Option Nat :=
  basePrefixes.findSome? fun p =>
    ((dropWord? p.1 cs).bind (natural? p.2)).bind fun n => if n ≤ bound then some n else none

/-- Below a limit, in any of the bases; one plus sign is allowed. -/
private def unsignedBelow? (bound : Nat) (cs : List Char) : Option Nat :=
  let body := match cs with
    | '+' :: r => r
    | _ => cs
  match basedNatural? bound body with
  | some n => some n
  | none =>
    if isZeroLed cs || body.head? = some '+' || body.head? = some '-' then none
    else (natural? 10 body).bind fun n => if n ≤ bound then some n else none

private def signedWithin? (bits : Nat) (cs : List Char) : Option Int :=
  let bound := Nat.pow 2 (bits - 1)
  let low : Int := -bound
  let high : Int := bound - 1
  let based := match cs with
    | '-' :: r => (basedNatural? bound r).map fun n => -(n : Int)
    | _ => none
  match based with
  | some n => some n
  | none => if isZeroLed cs then none else (integer? 10 cs).bind (within low high)

/-- A whole number in the narrowest of four widths. -/
def wholeOfText? (cs : List Char) : Option Scalar :=
  match unsignedBelow? 0xFFFFFFFFFFFFFFFF cs with
  | some n => some (.unsigned n)
  | none =>
    match signedWithin? 64 cs with
    | some n => some (.signed n)
    | none =>
      match unsignedBelow? 0xFFFFFFFFFFFFFFFFFFFFFFFFFFFFFFFF cs with
      | some n => some (.wide n)
      | none => (signedWithin? 128 cs).map .wideSigned

def realOfText? (cs : List Char) : Option Double :=
  let body := match cs with
    | '+' :: r => r
    | _ => cs
  if cs.head? = some '+' && (body.head? = some '+' || body.head? = some '-') then none
  else if isOneOf [".inf", ".Inf", ".INF"] body then some ⟨false, .infinite⟩
  else if isOneOf ["-.inf", "-.Inf", "-.INF"] cs then some ⟨true, .infinite⟩
  else if isOneOf [".nan", ".NaN", ".NAN"] cs then some ⟨false, .nan⟩
  else (double? body).bind fun d => if d.isFinite then some d else none

/-- What a plain scalar without tag stands for. -/
def plainScalar (cs : List Char) : Scalar :=
  if cs.isEmpty || isNullText cs then .unit
  else
    match flagOfText? cs with
    | some b => .flag b
    | none =>
      match wholeOfText? cs with
      | some s => s
      | none =>
        match (if isZeroLed cs then none else realOfText? cs) with
        | some d => .real d
        | none => .text (String.ofList cs)

private def coreTag (name : String) : List Char := ("tag:yaml.org,2002:" ++ name).toList

/-- A core tag asks for its kind of scalar; any other leaves the text. -/
def taggedScalar? (tag cs : List Char) : Option Scalar :=
  if tag = coreTag "bool" then (flagOfText? cs).map .flag
  else if tag = coreTag "int" then wholeOfText? cs
  else if tag = coreTag "float" then (realOfText? cs).map .real
  else if tag = coreTag "null" then
    if isNullText cs then some .unit else none
  else some (.text (String.ofList cs))

/-- The name of a local tag, which stands for a table of one entry. -/
def localTag? (tag : Option (List Char)) : Option String :=
  match tag with
  | some ['!'] => some "!"
  | some ('!' :: name) => some (String.ofList name)
  | _ => none

def depthLimit : Nat := 128

def scalarKey? : Node → Option String
  | .scalar _ text _ => some (String.ofList text)
  | .alias (.scalar _ text _) => some (String.ofList text)
  | _ => none

def wrapLocal (source : Source) (tag : Option (List Char)) (v : Value) : Value :=
  match localTag? tag with
  | some name => .table source [(name, v)]
  | none => v

/-! `depth` counts the collections that may still open, `jumps` the aliases that may still be
followed. -/

mutual

def valueOf (source : Source) (depth jumps : Nat) : Node → Option (Value × Nat)
  | .scalar tag text plain =>
    let scalar : Option Scalar :=
      match tag with
      | some t =>
        if (localTag? tag).isSome then
          some (if plain then plainScalar text else .text (String.ofList text))
        else taggedScalar? t text
      | none => some (if plain then plainScalar text else .text (String.ofList text))
    scalar.map fun s => (wrapLocal source tag (.scalar source s), jumps)
  | .sequence tag items =>
    match depth with
    | 0 => none
    | depth + 1 =>
      (itemsOf source depth jumps items).map fun p =>
        (wrapLocal source tag (.list source p.1), p.2)
  | .mapping tag entries =>
    match depth with
    | 0 => none
    | depth + 1 =>
      (entriesOf source depth jumps [] entries).map fun p =>
        (wrapLocal source tag (.table source p.1), p.2)
  | .alias target =>
    match jumps with
    | 0 => none
    | jumps + 1 => valueOf source depth jumps target

def itemsOf (source : Source) (depth jumps : Nat) :
    List Node → Option (List Value × Nat)
  | [] => some ([], jumps)
  | n :: rest =>
    match valueOf source depth jumps n with
    | none => none
    | some (v, jumps) => (itemsOf source depth jumps rest).map fun p => (v :: p.1, p.2)

def entriesOf (source : Source) (depth jumps : Nat) (acc : Entries) :
    List (Node × Node) → Option (Entries × Nat)
  | [] => some (acc, jumps)
  | (k, n) :: rest =>
    match scalarKey? k, valueOf source depth jumps n with
    | some key, some (v, jumps) => entriesOf source depth jumps (Entries.put key v acc) rest
    | _, _ => none

end

def jumpsPerEvent : Nat := 100

/-- The table that a YAML text holds; an empty document is an empty table, and a text with anything
else at its root is refused. -/
def documentLayer? (source : Source) (text : String) : Option Value :=
  match Node.ofText? text.toList with
  | none => none
  | some none => some (.table source [])
  | some (some (root, events)) =>
    match root with
    | .scalar _ [] true => some (.table source [])
    | .mapping _ entries =>
      (entriesOf source (depthLimit - 1) (jumpsPerEvent * events) [] entries).map fun p =>
        .table source p.1
    | _ => none

end BrokerGate.Config
