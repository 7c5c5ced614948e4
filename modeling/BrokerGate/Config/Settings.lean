import BrokerGate.Config.Value
import BrokerGate.Endpoint
import BrokerGate.Text.Split

/-! The settings of the program, their defaults, their untyped form, and what they have to fulfil
before anything starts. -/
namespace BrokerGate.Config
open Text

/-- Where bearer tokens come from. -/
inductive TokenSettings
  | fixed (token : String)
  | command (program : String) (args : List String)
  | metadata (url : Option String)
  deriving DecidableEq

inductive LogFormat
  | pretty
  | json
  deriving DecidableEq

structure LogSettings where
  level : String
  format : LogFormat
  deriving DecidableEq

structure Settings where
  port : Nat
  host : String
  backendUrl : Option String
  proxyUrl : Option String
  timeoutSecs : Option Nat
  tokenSource : Option TokenSettings
  log : LogSettings
  deriving DecidableEq

def maxPort : Nat := 65535

def maxSeconds : Nat := 0xFFFFFFFFFFFFFFFF

def LogSettings.default : LogSettings := ⟨"info", .pretty⟩

def Settings.default : Settings := ⟨8080, "127.0.0.1", none, none, none, none, .default⟩

def LogFormat.name : LogFormat → String
  | .pretty => "pretty"
  | .json => "json"

/-- Its name in diagnostics. -/
def LogFormat.debugText : LogFormat → String
  | .pretty => "Pretty"
  | .json => "Json"

private def optionText {α : Type} (text : α → String) : Option α → String
  | some a => "Some(" ++ text a ++ ")"
  | none => "None"

private def textValue (s : String) : Value := .scalar .defaults (.text s)

private def optional (key : String) (v : Option Value) : List (String × Value) :=
  (v.map fun w => (key, w)).toList

namespace TokenSettings

/-- An absent URL is left out; arguments are always listed. -/
def toValue : TokenSettings → Value
  | fixed token =>
    .table .defaults (Entries.ofList [("type", textValue "static"), ("token", textValue token)])
  | command program args =>
    .table .defaults (Entries.ofList [("type", textValue "command"),
      ("command", textValue program), ("args", .list .defaults (args.map textValue))])
  | metadata url =>
    .table .defaults (Entries.ofList (("type", textValue "metadata") ::
      optional "url" (url.map textValue)))

/-- A fixed token is not shown. -/
def debugText : TokenSettings → String
  | fixed _ => "Static \x7b token: \"[REDACTED]\" \x7d"
  | command program args =>
    "Command \x7b command: " ++ quoted program ++ ", args: [" ++
      ", ".intercalate (args.map quoted) ++ "] \x7d"
  | metadata url => "Metadata \x7b url: " ++ optionText quoted url ++ " \x7d"

end TokenSettings

def LogSettings.toValue (s : LogSettings) : Value :=
  .table .defaults (Entries.ofList [("level", textValue s.level),
    ("format", textValue s.format.name)])

def LogSettings.debugText (s : LogSettings) : String :=
  "LogConfig \x7b level: " ++ quoted s.level ++ ", format: " ++ s.format.debugText ++ " \x7d"

namespace Settings

/-- All settings on one line; of a token source only what it shows of itself. -/
def debugText (s : Settings) : String :=
  "Config \x7b port: " ++ toString s.port ++ ", host: " ++ quoted s.host ++
    ", backend_url: " ++ optionText quoted s.backendUrl ++
    ", proxy_url: " ++ optionText quoted s.proxyUrl ++
    ", timeout_secs: " ++ optionText toString s.timeoutSecs ++
    ", token_source: " ++ optionText TokenSettings.debugText s.tokenSource ++
    ", log: " ++ s.log.debugText ++ " \x7d"

/-- Options that are not set are left out. -/
def toValue (s : Settings) : Value :=
  .table .defaults (Entries.ofList (
    [("port", .scalar .defaults (.unsigned s.port)), ("host", textValue s.host)] ++
    optional "backend_url" (s.backendUrl.map textValue) ++
    optional "proxy_url" (s.proxyUrl.map textValue) ++
    optional "timeout_secs" (s.timeoutSecs.map fun n => .scalar .defaults (.unsigned n)) ++
    optional "token_source" (s.tokenSource.map TokenSettings.toValue) ++
    [("log", s.log.toValue)]))

def endpoint (s : Settings) : Except GateError Endpoint :=
  match s.backendUrl with
  | none => .error (.configuration "backend_url is not configured")
  | some raw => Endpoint.parse raw

def checkTokenSource : Option TokenSettings → Except GateError Unit
  | none => .error (.configuration "token_source is not configured")
  | some (.fixed token) =>
    if allBlank token then .error (.configuration "static token is empty") else .ok ()
  | some (.command program _) =>
    if allBlank program then .error (.configuration "token command is empty") else .ok ()
  | some (.metadata _) => .ok ()

/-- The first thing that keeps the proxy from starting. -/
def validate (s : Settings) : Except GateError Unit := do
  let _ ← s.endpoint
  checkTokenSource s.tokenSource
  if s.timeoutSecs = some 0 then throw (.configuration "timeout_secs must be positive")

/-- `host:port` to listen on. -/
def listenAddress (s : Settings) : String := s.host ++ ":" ++ toString s.port

end Settings

end BrokerGate.Config
