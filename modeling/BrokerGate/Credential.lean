import BrokerGate.Error
import BrokerGate.Http.Field
import BrokerGate.Log.Event
import BrokerGate.Text.Split
import BrokerGate.Text.Utf8

/-! Bearer tokens, the header value that carries one, and the commands that print them. -/
namespace BrokerGate
open Text Utf8 Http

/-- How a process ends. -/
inductive Ending
  | exited (status : Nat)
  | killed (signal : Nat)
  deriving DecidableEq

/-- What comes of running a command: it does not start, or it ends and leaves what it wrote. -/
inductive CommandOutcome
  | notStarted (reason : String)
  | ended (ending : Ending) (out err : Bytes)
  deriving DecidableEq

/-- Names and numbers of the signals. -/
def signals : List (String × Nat) :=
  [("HUP", 1), ("INT", 2), ("QUIT", 3), ("ILL", 4), ("TRAP", 5), ("ABRT", 6), ("BUS", 7),
    ("FPE", 8), ("KILL", 9), ("USR1", 10), ("SEGV", 11), ("USR2", 12), ("PIPE", 13), ("ALRM", 14),
    ("TERM", 15), ("STKFLT", 16), ("CHLD", 17), ("CONT", 18), ("STOP", 19), ("TSTP", 20),
    ("TTIN", 21), ("TTOU", 22), ("URG", 23), ("XCPU", 24), ("XFSZ", 25), ("VTALRM", 26),
    ("PROF", 27), ("WINCH", 28), ("IO", 29), ("PWR", 30), ("SYS", 31)]

private def signalName (n : Nat) : String :=
  match signals.find? (·.2 = n) with
  | some s => " (SIG" ++ s.1 ++ ")"
  | none => ""

def Ending.text : Ending → String
  | exited n => "exit status: " ++ toString n
  | killed n => "signal: " ++ toString n ++ signalName n

structure BearerToken where
  secret : String
  deriving DecidableEq

namespace BearerToken

/-- The secret is not shown. -/
def debugText (_ : BearerToken) : String := "BearerToken([REDACTED])"

/-- `Bearer` and the token, marked sensitive. -/
def authorization (t : BearerToken) : Except GateError FieldValue :=
  match FieldValue.ofBytes? (Utf8.ofString ("Bearer " ++ t.secret)) with
  | some v => .ok { v with sensitive := true }
  | none => .error (.credential "token is not a valid header value")

end BearerToken

end BrokerGate

namespace BrokerGate.Credential
open Text Utf8

/-- Why a command gives no token. -/
inductive CommandFailure
  | notStarted (reason : String)
  | unsuccessful (ending : Ending) (err : Bytes)
  | notText
  | blank
  deriving DecidableEq

def CommandFailure.message (program : String) : CommandFailure → String
  | notStarted reason => "failed to run " ++ program ++ ": " ++ reason
  | unsuccessful ending err =>
    program ++ " exited with " ++ ending.text ++ ": " ++ trimmed (toStringLossy err)
  | notText => program ++ " printed a non UTF-8 token"
  | blank => program ++ " printed an empty token"

/-- What a successful command printed, without blanks around it. -/
def printedToken : CommandOutcome → Except CommandFailure BearerToken
  | .notStarted reason => .error (.notStarted reason)
  | .ended (.exited 0) out _ =>
    match decode? out with
    | none => .error .notText
    | some cs =>
      let token := trimBlank cs
      if token.isEmpty then .error .blank else .ok ⟨String.ofList token⟩
  | .ended ending _ err => .error (.unsuccessful ending err)

def commandToken (program : String) (outcome : CommandOutcome) : Except GateError BearerToken :=
  (printedToken outcome).mapError fun f => .credential (f.message program)

def printedEvent (program : String) : Log.Event :=
  ⟨.debug, "broxy_auth::command", "obtained token from command", [("program", .text program)]⟩

end BrokerGate.Credential
