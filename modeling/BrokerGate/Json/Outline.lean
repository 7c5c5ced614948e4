import BrokerGate.Json.Read
import BrokerGate.Text.Utf8

/-! The outline of a JSON document: where its items and members begin and end. A character stands
for one byte, and what a string holds is looked at only where it is asked for, so that stray bytes
and unpaired surrogates do no harm elsewhere. -/
namespace BrokerGate.Json
open Text

/-- Bytes as characters of the same number. -/
def octets (bs : Utf8.Bytes) : List Char := bs.map fun b => Char.ofNat b.toNat

/-- What follows a string whose opening quote is read. -/
def afterString? : List Char → Option (List Char)
  | '"' :: rest => some rest
  | '\\' :: 'u' :: a :: b :: c :: d :: rest =>
    if [a, b, c, d].all fun x => (hexDigit? x).isSome then afterString? rest else none
  | '\\' :: c :: rest =>
    if ['"', '\\', '/', 'b', 'f', 'n', 'r', 't'].contains c then afterString? rest else none
  | c :: rest => if c.toNat < 0x20 then none else afterString? rest
  | [] => none

mutual

/-- What follows a value. -/
def afterValue? (fuel : Nat) (cs : List Char) : Option (List Char) :=
  match fuel with
  | 0 => none
  | fuel + 1 =>
    match skipBlank cs with
    | '"' :: rest => afterString? rest
    | '[' :: rest =>
      match skipBlank rest with
      | ']' :: rest => some rest
      | rest => afterItems? fuel rest
    | '\x7b' :: rest =>
      match skipBlank rest with
      | '\x7d' :: rest => some rest
      | rest => afterMembers? fuel rest
    | 'n' :: 'u' :: 'l' :: 'l' :: rest => some rest
    | 't' :: 'r' :: 'u' :: 'e' :: rest => some rest
    | 'f' :: 'a' :: 'l' :: 's' :: 'e' :: rest => some rest
    | rest => (number? rest).map (·.2)

def afterItems? (fuel : Nat) (cs : List Char) : Option (List Char) :=
  match fuel with
  | 0 => none
  | fuel + 1 =>
    match (afterValue? fuel cs).map skipBlank with
    | some (',' :: rest) => afterItems? fuel rest
    | some (']' :: rest) => some rest
    | _ => none

def afterMembers? (fuel : Nat) (cs : List Char) : Option (List Char) :=
  match fuel with
  | 0 => none
  | fuel + 1 =>
    match skipBlank cs with
    | '"' :: rest =>
      match (afterString? rest).map skipBlank with
      | some (':' :: rest) =>
        match (afterValue? fuel rest).map skipBlank with
        | some (',' :: rest) => afterMembers? fuel rest
        | some ('\x7d' :: rest) => some rest
        | _ => none
      | _ => none
    | _ => none

end

/-- The part of a text in front of what follows it. -/
def upTo (cs rest : List Char) : List Char := cs.take (cs.length - rest.length)

/-- The texts of the items of an array whose opening bracket is read, with what follows it. -/
def itemTexts (fuel : Nat) (cs : List Char) : Option (List (List Char) × List Char) :=
  match fuel with
  | 0 => none
  | fuel + 1 =>
    match afterValue? (cs.length + 1) cs with
    | none => none
    | some rest =>
      let item := upTo (skipBlank cs) rest
      match skipBlank rest with
      | ',' :: rest => (itemTexts fuel rest).map fun p => (item :: p.1, p.2)
      | ']' :: rest => some ([item], rest)
      | _ => none

/-- The texts of the names and values of an object whose opening brace is read. -/
def memberTexts (fuel : Nat) (cs : List Char) :
    Option (List (List Char × List Char) × List Char) :=
  match fuel with
  | 0 => none
  | fuel + 1 =>
    match skipBlank cs with
    | '"' :: body =>
      match afterString? body with
      | none => none
      | some rest =>
        let name := '"' :: upTo body rest
        match skipBlank rest with
        | ':' :: value =>
          match afterValue? (value.length + 1) value with
          | none => none
          | some rest =>
            let member := (name, upTo (skipBlank value) rest)
            match skipBlank rest with
            | ',' :: rest => (memberTexts fuel rest).map fun p => (member :: p.1, p.2)
            | '\x7d' :: rest => some ([member], rest)
            | _ => none
        | _ => none
    | _ => none

/-- The outermost layer of a document. -/
inductive Outline
  | items (texts : List (List Char))
  | members (texts : List (List Char × List Char))
  deriving DecidableEq

def ended {α β : Type} (f : α → β) (p : α × List Char) : Option β :=
  if (skipBlank p.2).isEmpty then some (f p.1) else none

/-- The outline of an array or an object. -/
def outline? (cs : List Char) : Option Outline :=
  match skipBlank cs with
  | '[' :: rest =>
    match skipBlank rest with
    | ']' :: rest => ended .items ([], rest)
    | rest => (itemTexts (rest.length + 1) rest).bind (ended .items)
  | '\x7b' :: rest =>
    match skipBlank rest with
    | '\x7d' :: rest => ended .members ([], rest)
    | rest => (memberTexts (rest.length + 1) rest).bind (ended .members)
  | _ => none

/-- The text that a part of an outline is in UTF-8. -/
def decoded? (cs : List Char) : Option (List Char) :=
  Utf8.decode? (cs.map fun c => UInt8.ofNat c.toNat)

/-- The document that a part of an outline is. -/
def ofOctets? (cs : List Char) : Option Json := (decoded? cs).bind parse?

end BrokerGate.Json
