import BrokerGate.Terminal.Shell.Machine
import BrokerGate.Terminal.Shell.Syntax

/-! Values of parameters, how expanded text falls into fields, and the patterns of `case`, of file
names, and of the ends that an expansion drops. -/
namespace BrokerGate.Terminal.Shell
open Text Decimal

/-- A character of a pattern; a quoted one stands for itself. -/
structure PatternChar where
  char : Char
  isQuoted : Bool
  deriving DecidableEq

abbrev Pattern := List PatternChar

def Pattern.isLiteral (p : Pattern) : Bool :=
  p.all fun c => c.isQuoted || !(c.char = '*' || c.char = '?' || c.char = '[')

def Pattern.text (p : Pattern) : Octets := p.map (·.char)

private def inClass (c : Char) : Pattern → Bool
  | a :: ⟨'-', false⟩ :: b :: rest => (a.char ≤ c && c ≤ b.char) || inClass c rest
  | a :: rest => a.char = c || inClass c rest
  | [] => false

/-- The members of a bracket, whether they are excluded, and what follows. -/
private def bracket? (p : Pattern) : Option (Bool × Pattern × Pattern) :=
  let (negated, body) := match p with
    | ⟨'!', false⟩ :: r => (true, r)
    | ⟨'^', false⟩ :: r => (true, r)
    | r => (false, r)
  let (first, rest) := (body.take 1, body.drop 1)
  let members := first ++ rest.takeWhile fun c => c.isQuoted || c.char ≠ ']'
  match body.drop members.length with
  | _ :: after => if members.isEmpty then none else some (negated, members, after)
  | [] => none

def Pattern.matchesWithin (fuel : Nat) (p : Pattern) (cs : Octets) : Bool :=
  match fuel with
  | 0 => false
  | fuel + 1 =>
    match p with
    | [] => cs.isEmpty
    | ⟨'*', false⟩ :: rest =>
      matchesWithin fuel rest cs ||
        (match cs with
        | [] => false
        | _ :: more => matchesWithin fuel p more)
    | ⟨'?', false⟩ :: rest =>
      match cs with
      | [] => false
      | _ :: more => matchesWithin fuel rest more
    | ⟨'[', false⟩ :: rest =>
      match bracket? rest, cs with
      | some (negated, members, after), c :: more =>
        (inClass c members != negated) && matchesWithin fuel after more
      | some _, [] => false
      | none, '[' :: more => matchesWithin fuel rest more
      | none, _ => false
    | c :: rest =>
      match cs with
      | d :: more => c.char = d && matchesWithin fuel rest more
      | [] => false

def Pattern.accepts (p : Pattern) (cs : Octets) : Bool :=
  p.matchesWithin (p.length + cs.length + 2) cs

/-- Drops a matching start or end, the shortest or the longest. -/
def Pattern.drop (p : Pattern) (atEnd longest : Bool) (cs : Octets) : Octets :=
  let sizes := (List.range (cs.length + 1))
  let sizes := if longest then sizes.reverse else sizes
  let cut (n : Nat) : Octets × Octets :=
    if atEnd then (cs.drop (cs.length - n), cs.take (cs.length - n)) else (cs.take n, cs.drop n)
  match sizes.find? fun n => p.accepts (cut n).1 with
  | some n => (cut n).2
  | none => cs

/-- Pieces of an expanded word. `mark` is an empty quoted text, `border` parts two fields. -/
inductive Item
  | char (c : Char) (isQuoted splits : Bool)
  | mark
  | border

/-- A field in the making. -/
private structure Field where
  text : Pattern
  /-- There is a field, even if it is empty. -/
  isPresent : Bool
  /-- Blanks have just ended a field, so that a separator after them starts no further one. -/
  isClosed : Bool

private def noField : Field := ⟨[], false, false⟩

private def fieldsFrom (ifs : Octets) (f : Field) : List Item → List Pattern
  | [] => if f.isPresent then [f.text.reverse] else []
  | .char c isQuoted splits :: rest =>
    if splits && !isQuoted && ifs.contains c then
      if isIfsBlank c then
        if f.isPresent then f.text.reverse :: fieldsFrom ifs ⟨[], false, true⟩ rest
        else fieldsFrom ifs f rest
      else if f.isClosed then fieldsFrom ifs noField rest
      else f.text.reverse :: fieldsFrom ifs noField rest
    else fieldsFrom ifs ⟨⟨c, isQuoted⟩ :: f.text, true, false⟩ rest
  | .mark :: rest => fieldsFrom ifs ⟨f.text, true, false⟩ rest
  | .border :: rest =>
    if f.isPresent then f.text.reverse :: fieldsFrom ifs noField rest
    else fieldsFrom ifs noField rest

def itemsText (items : List Item) : Octets :=
  items.filterMap fun
    | .char c _ _ => some c
    | .border => some ' '
    | .mark => none

def itemsPattern (items : List Item) : Pattern :=
  items.filterMap fun
    | .char c q _ => some ⟨c, q⟩
    | _ => none

/-- File names that a field matches; a field that matches none stands for itself. -/
private def globbed (fs : Files) (p : Pattern) : List Octets :=
  if p.isLiteral then [p.text]
  else
    let visible := fs.names.filter fun n => n.head? ≠ some '.' || p.head?.any (·.char = '.')
    match visible.filter p.accepts with
    | [] => [p.text]
    | found => found

def fieldsOf (m : Machine) (items : List Item) : List Octets :=
  (fieldsFrom (ifsOf m) noField items).flatMap (globbed m.files)

def valueItems (isQuoted : Bool) (text : Octets) : List Item :=
  (if isQuoted then [.mark] else []) ++ text.map fun c => .char c isQuoted true

private def bordered (groups : List (List Item)) : List Item :=
  (groups.intersperse [.border]).flatten

/-- The value of a parameter, none if it is not set. -/
def parameter? (m : Machine) (name : Octets) : Option Octets :=
  match name with
  | ['#'] => some (toString m.arguments.length).toList
  | ['?'] => some (toString m.status).toList
  | ['$'] => some (toString m.pid).toList
  | ['@'] => if m.arguments.isEmpty then none else some (joinWith [' '] m.arguments)
  | ['*'] =>
    if m.arguments.isEmpty then none else some (joinWith ((ifsOf m).take 1) m.arguments)
  | ['0'] => some m.name
  | ['!'] => some []
  | ['-'] => some ((if m.strict then ['e'] else []) ++ (if m.needsSet then ['u'] else []))
  | _ =>
    match natural? 10 name with
    | some (n + 1) => m.arguments[n]?
    | _ => m.lookUp name

/-- A parameter that has to be set and is not. -/
def isMissing (m : Machine) (name : Octets) : Bool :=
  m.needsSet && name ≠ ['@'] && name ≠ ['*'] && (parameter? m name).isNone

def parameterItems (m : Machine) (name : Octets) (isQuoted : Bool) : List Item :=
  if name = ['@'] || (name = ['*'] && !isQuoted) then
    if m.arguments.isEmpty then [] else bordered (m.arguments.map (valueItems isQuoted))
  else valueItems isQuoted ((parameter? m name).getD [])

end BrokerGate.Terminal.Shell
