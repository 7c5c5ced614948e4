import BrokerGate.Config.Value
import BrokerGate.Text.Quoted

/-! Values that do not fit the setting they stand for, and the texts that say so. -/
namespace BrokerGate.Config
open Text Decimal

/-- What stands where something else was expected. -/
inductive Found
  | scalar (s : Scalar)
  | list
  | table
  deriving DecidableEq

def Value.found : Value → Found
  | .scalar _ s => .scalar s
  | .list _ _ => .list
  | .table _ _ => .table

inductive Mismatch
  | type (found : Found) (expected : String)
  | value (found : Found) (expected : String)
  | length (n : Nat) (expected : String)
  | variant (name : String) (known : List String)
  | missing (field : String)
  deriving DecidableEq

private def ticked (s : String) : String := "\x60" ++ s ++ "\x60"

namespace Found

def text : Found → String
  | scalar (.text s) => "string " ++ quoted s
  | scalar (.char c) => "char " ++ quotedSingle c
  | scalar (.flag b) => "bool " ++ toString b
  | scalar (.unsigned n) => "unsigned int " ++ ticked (toString n)
  | scalar (.signed n) => "signed int " ++ ticked (toString n)
  | scalar (.wide n) => "integer " ++ ticked (toString n) ++ " as u128"
  | scalar (.wideSigned n) => "integer " ++ ticked (toString n) ++ " as i128"
  | scalar (.real d) => "float " ++ ticked (String.ofList (plainText d))
  | scalar .unit => "unit"
  | list => "sequence"
  | table => "map"

/-- The words for a value of a JSON document. -/
def jsonText : Found → String
  | scalar (.text s) => "string " ++ quoted s
  | scalar (.char c) => "character " ++ ticked (String.singleton c)
  | scalar (.flag b) => "boolean " ++ ticked (toString b)
  | scalar (.unsigned n) | scalar (.wide n) => "integer " ++ ticked (toString n)
  | scalar (.signed n) | scalar (.wideSigned n) => "integer " ++ ticked (toString n)
  | scalar (.real d) => "floating point " ++ ticked (String.ofList (scientificText d))
  | scalar .unit => "null"
  | list => "sequence"
  | table => "map"

end Found

def oneOf (names : List String) : String :=
  match names.map ticked with
  | [] => "there are no variants"
  | [a] => a
  | [a, b] => a ++ " or " ++ b
  | all => "one of " ++ ", ".intercalate all

namespace Mismatch

def kind : Mismatch → String
  | type _ _ => "InvalidType"
  | value _ _ => "InvalidValue"
  | length _ _ => "InvalidLength"
  | variant _ _ => "UnknownVariant"
  | missing _ => "MissingField"

def text : Mismatch → String
  | type f e => "invalid type: found " ++ f.text ++ ", expected " ++ e
  | value f e => "invalid value " ++ f.text ++ ", expected " ++ e
  | length n e => "invalid length " ++ toString n ++ ", expected " ++ e
  | variant n known => "unknown variant: found " ++ ticked n ++ ", expected " ++ ticked (oneOf known)
  | missing f => "missing field " ++ ticked f

def jsonText : Mismatch → String
  | type f e => "invalid type: " ++ f.jsonText ++ ", expected " ++ e
  | value f e => "invalid value: " ++ f.jsonText ++ ", expected " ++ e
  | length n e => "invalid length " ++ toString n ++ ", expected " ++ e
  | variant n known => "unknown variant " ++ ticked n ++ ", expected " ++ oneOf known
  | missing f => "missing field " ++ ticked f

end Mismatch

/-- A mismatch, the keys that lead to it, and the layer that set the value. -/
structure Misfit where
  path : List String
  source : Source
  mismatch : Mismatch
  deriving DecidableEq

/-- Where a value was set, as messages end. -/
def Source.suffix : Source → String
  | .defaults => " in Config"
  | .text => " in YAML source string"
  | .file p => " in " ++ p ++ " YAML file"
  | .environment => " in \x60BROXY_\x60 environment variable(s)"

namespace Misfit

def under (key : String) (m : Misfit) : Misfit := { m with path := key :: m.path }

private def keyText (path : List String) : Source → String
  | .environment => ".".intercalate (path.map fun k => String.ofList (k.toList.map Char.toUpper))
  | _ => ".".intercalate ("default" :: path)

def message (m : Misfit) : String :=
  m.mismatch.text ++
    (if m.path.isEmpty then "" else " for key " ++ quoted (keyText m.path m.source)) ++
    m.source.suffix

end Misfit

abbrev Read (α : Type) := Except Misfit α

def Value.misfit {α : Type} (v : Value) (m : Mismatch) : Read α := .error ⟨[], v.source, m⟩

/-- Reads the value of a key; a misfit inside is reported under that key. -/
def readKey {α : Type} (key : String) (read : Value → Read α) (v : Value) : Read α :=
  match read v with
  | .ok a => .ok a
  | .error m => .error (m.under key)

end BrokerGate.Config
