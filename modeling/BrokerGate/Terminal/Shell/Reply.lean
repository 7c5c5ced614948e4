import BrokerGate.Terminal.Shell.Files

/-! What a utility answers. -/
namespace BrokerGate.Terminal.Shell

/-- Whether a utility belongs to the shell or is a program of its own. The two word their
complaints differently, and only programs know hexadecimal escapes. -/
inductive Manner
  | builtin
  | program
  deriving DecidableEq

/-- What a utility says on the error output, after its name. A wrong call leads to its help. -/
structure Complaint where
  text : Octets
  leadsToHelp : Bool

namespace Complaint

def of (text : String) : Complaint := ⟨text.toList, false⟩

def ofCall (text : String) : Complaint := ⟨text.toList, true⟩

/-- The complaint in the name of a utility as it was called. -/
def write (program : Octets) (c : Complaint) : Octets :=
  program ++ ": ".toList ++ c.text ++
    (if c.leadsToHelp then
      "\nTry '".toList ++ program ++ " --help' for more information.".toList
    else [])

end Complaint

structure Reply where
  status : Nat
  out : Octets
  complaints : List Complaint
  files : Files

namespace Reply

def done (fs : Files) (out : Octets) : Reply := ⟨0, out, [], fs⟩

def failed (fs : Files) (status : Nat) (c : Complaint) : Reply := ⟨status, [], [c], fs⟩

/-- Notes a complaint and goes on. -/
def complain (text : Octets) (r : Reply) : Reply :=
  { r with status := 1, complaints := r.complaints ++ [⟨text, false⟩] }

end Reply

/-- Options that a program was called with, and the words that are none. -/
structure Called where
  options : List (Char × Octets)
  operands : List Octets

namespace Called

def has (c : Char) (k : Called) : Bool := k.options.any (·.1 = c)

def value? (c : Char) (k : Called) : Option Octets :=
  (k.options.reverse.find? (·.1 = c)).map (·.2)

private def option (c : Char) (value : Octets) (k : Called) : Called :=
  { k with options := (c, value) :: k.options }

private def operand (word : Octets) (k : Called) : Called :=
  { k with operands := word :: k.operands }

/-- A cluster of letters; one that takes a value takes the rest of it, or the next word. -/
private def cluster (alone valued : List Char) (k : Called)
    (cs : Octets) (words : List Octets) : Except Complaint (Called × List Octets) :=
  match cs with
  | [] => .ok (k, words)
  | c :: rest =>
    if alone.contains c then cluster alone valued (k.option c []) rest words
    else if valued.contains c then
      match rest, words with
      | [], [] =>
        .error (.ofCall ("option requires an argument -- '" ++ String.ofList [c] ++ "'"))
      | [], w :: words => .ok (k.option c w, words)
      | rest, words => .ok (k.option c rest, words)
    else .error (.ofCall ("invalid option -- '" ++ String.ofList [c] ++ "'"))

private def scan (fuel : Nat) (alone valued : List Char) (early : Bool) (k : Called)
    (words : List Octets) : Except Complaint Called :=
  match fuel, words with
  | 0, _ | _, [] => .ok k
  | fuel + 1, word :: rest =>
    match word with
    | ['-', '-'] => .ok { k with operands := rest.reverse ++ k.operands }
    | '-' :: '-' :: _ =>
      .error (.ofCall ("unrecognized option '" ++ String.ofList word ++ "'"))
    | '-' :: c :: cs =>
      match cluster alone valued k (c :: cs) rest with
      | .error e => .error e
      | .ok (k, rest) => scan fuel alone valued early k rest
    | _ =>
      if early then .ok { k with operands := words.reverse ++ k.operands }
      else scan fuel alone valued early (k.operand word) rest

/-- Parts the words of a call. `early` says that the first operand ends the options. -/
def read (alone valued : String) (early : Bool) (words : List Octets) :
    Except Complaint Called :=
  (scan (words.length + 1) alone.toList valued.toList early ⟨[], []⟩ words).map fun k =>
    ⟨k.options.reverse, k.operands.reverse⟩

end Called

end BrokerGate.Terminal.Shell
