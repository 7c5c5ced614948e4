import BrokerGate.Text.Quoted
import BrokerGate.Text.Split

/-! What can go wrong between a caller and the broker, and one line for an error and its causes. -/
namespace BrokerGate
open Text

namespace ErrorChain

def separator : List Char := [':', ' ']

def extend (line message : List Char) : List Char :=
  if hasInfix message line then line else line ++ separator ++ message

def render : List (List Char) → Option (List Char)
  | [] => none
  | outermost :: causes => some (causes.foldl extend outermost)

def text (messages : List String) : Option String :=
  (render (messages.map String.toList)).map String.ofList

end ErrorChain

inductive GateError
  /-- The token source gave no bearer token. -/
  | credential (reason : String)
  /-- The exchange with the broker did not complete. -/
  | transport (reason : String)
  /-- The broker answered with another status than the expected one. -/
  | rejection (status : Nat) (body : String)
  | invalidBackend (reason : String)
  /-- The path or query of a request cannot be sent on unchanged. -/
  | unforwardable (reason : String)
  | configuration (reason : String)
  deriving DecidableEq

namespace GateError

def kind : GateError → String
  | credential _ => "Credential"
  | transport _ => "Transport"
  | rejection _ _ => "BackendRejection"
  | invalidBackend _ => "InvalidBackendUrl"
  | unforwardable _ => "UnforwardableTarget"
  | configuration _ => "Config"

def message : GateError → String
  | credential r => "failed to obtain token: " ++ r
  | transport r => "broker request failed: " ++ r
  | rejection status body =>
    "broker responded with non-successful status code " ++ toString status ++ ": " ++ body
  | invalidBackend r => "invalid backend url: " ++ r
  | unforwardable r => "request target cannot be forwarded unchanged: " ++ r
  | configuration r => "configuration error: " ++ r

def debugText (e : GateError) : String :=
  e.kind ++ match e with
    | credential r | transport r | invalidBackend r | unforwardable r | configuration r =>
      "(" ++ quoted r ++ ")"
    | rejection status body =>
      " \x7b status: " ++ toString status ++ ", body: " ++ quoted body ++ " \x7d"

/-- The same failure seen as a failure to obtain a token. -/
def asCredential : GateError → GateError
  | credential r => credential r
  | e => credential e.message

@[simp] theorem asCredential_asCredential (e : GateError) :
    e.asCredential.asCredential = e.asCredential := by cases e <;> rfl

end GateError

end BrokerGate
