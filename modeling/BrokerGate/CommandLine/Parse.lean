import BrokerGate.CommandLine
import BrokerGate.Config.Settings
import BrokerGate.Text.Split

/-! Reading a command line. An option waits for its value until the next option or the end; only
then is the value looked at. -/
namespace BrokerGate
open Text Decimal

/-- How an argument reads by its form alone. -/
inductive Argument
  | plain (text : String)
  /-- Two hyphens: everything behind is plain. -/
  | rest
  | long (name : String) (value : Option String)
  | short (letter : Char) (more : List Char)

namespace Argument

def ofText (s : String) : Argument :=
  match s.toList with
  | ['-', '-'] => rest
  | '-' :: '-' :: cs =>
    match cutFirst '=' cs with
    | some (n, v) => long (String.ofList n) (some (String.ofList v))
    | none => long (String.ofList cs) none
  | '-' :: c :: cs => short c cs
  | _ => plain s

end Argument

private def portOf (s : String) : Except UsageError Nat :=
  match integer? 10 s.toList with
  | some n => if 0 ≤ n && n.toNat ≤ Config.maxPort then .ok n.toNat else .error .badNumber
  | none => .error .badNumber

namespace Invocation

/-- Sets an option, once. -/
def set (i : Invocation) (f : Flag) (value : String) : Except UsageError Invocation :=
  if i.has f then .error .repeated
  else
    match f with
    | .config => if value = "" then .error .valueMissing else .ok { i with config := some value }
    | .port => (portOf value).map fun n => { i with port := some n }
    | .host => .ok { i with host := some value }
    | .backendUrl => .ok { i with backendUrl := some value }

end Invocation

/-- An option that was begun, and its value if that has come. -/
abbrev Pending := Option (Flag × Option String)

def settle (i : Invocation) : Pending → Except UsageError Invocation
  | none => .ok i
  | some (_, none) => .error .valueMissing
  | some (f, some v) => i.set f v

def begin (i : Invocation) (p : Pending) (f : Flag) (value : Option String) :
    Except UsageError (Invocation × Pending) := do
  let i ← settle i p
  match value with
  | some v => return (← i.set f v, none)
  | none => return (i, some (f, none))

def helped {α : Type} (i : Invocation) (p : Pending) : Except UsageError α := do
  let _ ← settle i p
  throw .helpWanted

/-- The value that stands in the same argument as a short option. -/
private def attached : List Char → Option String
  | [] => none
  | '=' :: v => some (String.ofList v)
  | v => some (String.ofList v)

def takeArgument (i : Invocation) (p : Pending) (a : Argument) :
    Except UsageError (Invocation × Pending) :=
  match a with
  | .plain s =>
    match p with
    | some (f, none) => .ok (i, some (f, some s))
    | _ => .error .unknownArgument
  | .long name value =>
    match i.verb.flags.find? (·.long = name) with
    | some f => begin i p f value
    | none =>
      if name ≠ "help" then .error .unknownArgument
      else if value.isSome then .error .unwantedValue
      else helped i p
  | .short letter more =>
    match i.verb.flags.find? (·.short? = some letter) with
    | some f => begin i p f (attached more)
    | none => if letter = 'h' then helped i p else .error .unknownArgument
  | .rest => .error .unknownArgument

/-- The arguments behind a verb. -/
def parseOptions (i : Invocation) (p : Pending) : List String → Except UsageError Invocation
  | [] => settle i p
  | s :: more =>
    match Argument.ofText s with
    | .rest => if more.isEmpty then settle i p else .error .unknownArgument
    | a => do
      let (i, p) ← takeArgument i p a
      parseOptions i p more

private def helpName : String := "help"

private def helpOn : List String → UsageError
  | [] => .helpWanted
  | [s] => if (Verb.ofName? s).isSome || s = helpName then .helpWanted else .unknownVerb
  | _ => .unknownVerb

private def withoutVerb (a : Argument) (more : List String) : UsageError :=
  match a with
  | .plain _ => .unknownVerb
  | .long name value =>
    if name ≠ helpName then .unknownArgument
    else if value.isSome then .unwantedValue
    else .helpWanted
  | .short letter _ => if letter = 'h' then .helpWanted else .unknownArgument
  | .rest =>
    match more with
    | [] => .verbMissing
    | s :: _ =>
      if (Verb.ofName? s).isSome || s = helpName then .unknownArgument else .unknownVerb

/-- What the arguments of the program ask for. -/
def Invocation.parse : List String → Except UsageError Invocation
  | [] => .error .verbMissing
  | s :: more =>
    match Verb.ofName? s with
    | some v => parseOptions (.ofVerb v) none more
    | none =>
      if s = helpName then .error (helpOn more)
      else .error (withoutVerb (Argument.ofText s) more)

end BrokerGate
