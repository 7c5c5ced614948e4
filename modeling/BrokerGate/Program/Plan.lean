import BrokerGate.CommandLine
import BrokerGate.Config.Load
import BrokerGate.Error
import BrokerGate.Http.Client
import BrokerGate.Proxy.Forward
import BrokerGate.Proxy.Startup

/-! From a command line to an operation: settings are loaded and judged, and what they describe is
put together before anything is asked of the broker. A run that ends without success has an exit
status and last words. -/
namespace BrokerGate.Program
open Config Http

inductive Failure
  | usage (e : UsageError)
  | fileMissing (path : String)
  | layers (e : LoadError)
  /-- The settings cannot be used. -/
  | settings (e : GateError)
  | startup (e : GateError)
  | bind (address reason : String)

namespace Failure

def exitStatus : Failure → Nat
  | usage e => e.exitStatus
  | _ => 1

private def explained (what why : String) : String :=
  what ++ "\n\nCaused by:\n    " ++ "\n    ".intercalate (why.splitOn "\n")

/-- What is said about a failure; a wrong use of the command line speaks for itself. -/
def text (wording : String → String) : Failure → Option String
  | usage _ => none
  | fileMissing path => some ("config file " ++ path ++ " not found")
  | layers e => some ("config error: " ++ e.message wording)
  | settings e => some e.message
  | startup e => some (explained "startup check failed" e.message)
  | bind address reason => some (explained ("failed to bind " ++ address) reason)

end Failure

/-- Files and variables that settings come from. -/
structure Place where
  files : FileTree
  current : List String
  environment : List (String × String)

namespace Place

def value? (p : Place) (name : String) : Option String :=
  (p.environment.find? (·.1 = name)).map (·.2)

/-- Settings as the layers and the command line give them, not yet judged. -/
def loadSettings (p : Place) (i : Invocation) : Except Failure Settings :=
  match i.config with
  | some path =>
    if p.files.reaches p.current path then loaded (some path)
    else .error (.fileMissing path)
  | none => loaded none
where
  loaded (path : Option String) : Except Failure Settings :=
    match load p.files p.current path p.environment with
    | .error e => .error (.layers e)
    | .ok s => .ok { s with backendUrl := i.backendUrl.or s.backendUrl }

end Place

/-- Everything that a startup check needs, and where to listen afterwards. -/
structure Plan where
  verb : Verb
  backend : Endpoint
  client : Client
  tokens : TokenSettings
  address : String

def tokenSourceMissing : GateError := .configuration "token_source is not configured"

/-- The plan of valid settings; the command line has the last word on where to listen. -/
def Plan.make (i : Invocation) (s : Settings) : Except GateError Plan := do
  s.validate
  let s := { s with port := i.port.getD s.port, host := i.host.getD s.host }
  let backend ← s.endpoint
  let client ← Client.build s.proxyUrl s.timeoutSecs
  match s.tokenSource with
  | some tokens => return ⟨i.verb, backend, client, tokens, s.listenAddress⟩
  | none => throw tokenSourceMissing

/-- Where a run stands once its startup check is over. -/
inductive Phase
  | failed (f : Failure)
  /-- All that was asked for is done. -/
  | approved (backend : Endpoint)
  /-- The broker accepts the credentials, so that callers may be served at an address. -/
  | ready (address : String)
  /-- The listener is bound. -/
  | serving (address : String)

def startupFailedEvent (e : GateError) : Log.Event :=
  ⟨.error, "broxy", "broker startup check failed", [("error", .text e.message)]⟩

def listeningEvent (p : Plan) : Log.Event :=
  ⟨.info, "broxy", "broxy listening",
    [("addr", .text p.address), ("backend", .text p.backend.displayText)]⟩

namespace Plan

def conclude (p : Plan) : Except GateError Unit → Exchange Phase
  | .ok _ =>
    match p.verb with
    | .check => .done (.approved p.backend)
    | .serve => .done (.ready p.address)
  | .error e =>
    match p.verb with
    | .check => .done (.failed (.startup e))
    | .serve => .note (startupFailedEvent e) (.done (.failed (.startup e)))

/-- The startup check of a plan, and what follows from it. -/
def start (p : Plan) : Exchange Phase := (Proxy.startupCheck p.backend).andThen p.conclude

/-- What serving does with each request. -/
def serve (p : Plan) (request : Inbound) : Exchange Response := Proxy.forward p.backend request

end Plan

end BrokerGate.Program
