import BrokerGate.Decimal.Read

/-! What a command line asks for. -/
namespace BrokerGate

inductive Verb
  /-- Check the broker, then serve. -/
  | serve
  /-- Check the broker only. -/
  | check
  deriving DecidableEq

/-- The options of the verbs; each takes a value. -/
inductive Flag
  | config
  | port
  | host
  | backendUrl
  deriving DecidableEq

/-- A verb and the values of its options. -/
structure Invocation where
  verb : Verb
  config : Option String
  port : Option Nat
  host : Option String
  backendUrl : Option String
  deriving DecidableEq

/-- Why a command line asks for nothing that can be done. -/
inductive UsageError
  | helpWanted
  | verbMissing
  | unknownVerb
  | unknownArgument
  | valueMissing
  | badNumber
  | repeated
  | unwantedValue
  deriving DecidableEq

namespace UsageError

def name : UsageError → String
  | helpWanted => "DisplayHelp"
  | verbMissing => "DisplayHelpOnMissingArgumentOrSubcommand"
  | unknownVerb => "InvalidSubcommand"
  | unknownArgument => "UnknownArgument"
  | valueMissing => "InvalidValue"
  | badNumber => "ValueValidation"
  | repeated => "ArgumentConflict"
  | unwantedValue => "TooManyValues"

/-- Only a wish for help is no failure. -/
def exitStatus : UsageError → Nat
  | helpWanted => 0
  | _ => 2

end UsageError

namespace Verb

def name : Verb → String
  | serve => "serve"
  | check => "check"

def flags : Verb → List Flag
  | serve => [.config, .port, .host, .backendUrl]
  | check => [.config, .backendUrl]

def ofName? (s : String) : Option Verb := [serve, check].find? (·.name = s)

end Verb

namespace Flag

def long : Flag → String
  | config => "config"
  | port => "port"
  | host => "host"
  | backendUrl => "backend-url"

def short? : Flag → Option Char
  | config => some 'c'
  | port => some 'p'
  | host | backendUrl => none

end Flag

namespace Invocation

def ofVerb (v : Verb) : Invocation := ⟨v, none, none, none, none⟩

def has (i : Invocation) : Flag → Bool
  | .config => i.config.isSome
  | .port => i.port.isSome
  | .host => i.host.isSome
  | .backendUrl => i.backendUrl.isSome

end Invocation

end BrokerGate
