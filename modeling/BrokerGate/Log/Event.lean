import BrokerGate.Config.Settings
import BrokerGate.Json

/-! Events that the program reports, and how they are written, apart from the time: one JSON object,
or a line with colours. -/
namespace BrokerGate.Log
open Text

/-- From the most urgent to the most detailed. -/
inductive Level
  | error
  | warn
  | info
  | debug
  | trace
  deriving DecidableEq

def Level.name : Level → String
  | error => "ERROR"
  | warn => "WARN"
  | info => "INFO"
  | debug => "DEBUG"
  | trace => "TRACE"

/-- The value of a field: a number stays one where the format knows numbers. -/
inductive FieldContent
  | text (s : String)
  | number (n : Nat)
  deriving DecidableEq

structure Event where
  level : Level
  target : String
  message : String
  fields : List (String × FieldContent)
  deriving DecidableEq

def FieldContent.toJson : FieldContent → Json
  | text s => .string s
  | number n => .number (toString n).toList

def FieldContent.shown : FieldContent → String
  | text s => s
  | number n => toString n

/-- The level, the fields with the message among them, and the target. -/
def Event.toJson (e : Event) : Json :=
  .object [("level", .string e.level.name),
    ("fields", .object (("message", .string e.message) ::
      e.fields.map fun f => (f.1, f.2.toJson))),
    ("target", .string e.target)]

private def styled (code text : String) : String := "\x1b[" ++ code ++ "m" ++ text ++ "\x1b[0m"

def Level.colour : Level → String
  | error => "31"
  | warn => "33"
  | info => "32"
  | debug => "34"
  | trace => "35"

private def padded (s : String) : String := String.ofList (List.replicate (5 - s.length) ' ') ++ s

/-- The level in its colour, the message, then the fields with their names in italics. -/
def Event.pretty (e : Event) : String :=
  " ".intercalate (styled e.level.colour (padded e.level.name) :: e.message ::
    e.fields.map fun f => styled "3" f.1 ++ styled "2" "=" ++ f.2.shown)

def Event.line (format : Config.LogFormat) (e : Event) : String :=
  match format with
  | .json => String.ofList e.toJson.text
  | .pretty => e.pretty

end BrokerGate.Log
