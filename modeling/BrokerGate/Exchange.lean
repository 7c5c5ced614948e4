import BrokerGate.Credential
import BrokerGate.Http.Message
import BrokerGate.Log.Event

/-! One operation of the proxy as a program: it asks for a token, hands a request to the
transport, or reports an event, and goes on with the answer. Whoever runs it decides what answers
and how several of them take turns. -/
namespace BrokerGate
open Http Log

inductive Exchange (α : Type) where
  | done (result : α)
  | note (event : Event) (next : Exchange α)
  | fetch (next : Except GateError BearerToken → Exchange α)
  | send (request : Outbound) (next : Except GateError Response → Exchange α)

namespace Exchange

/-- Goes on with another operation where this one ends. -/
def andThen {α β : Type} (f : α → Exchange β) : Exchange α → Exchange β
  | done a => f a
  | note e next => note e (next.andThen f)
  | fetch next => fetch fun t => (next t).andThen f
  | send request next => send request fun r => (next r).andThen f

/-- What answers an operation, with a state of its own. -/
structure Answers (σ : Type) where
  token : σ → Except GateError BearerToken × σ
  reply : Outbound → σ → Except GateError Response × σ

/-- What an operation did: its calls in order, with the answers that it got. -/
inductive Call
  | token (answer : Except GateError BearerToken)
  | request (sent : Outbound) (answer : Except GateError Response)
  | event (e : Event)

structure Outcome (σ α : Type) where
  result : α
  calls : List Call
  state : σ

def run {σ α : Type} (answers : Answers σ) (state : σ) : Exchange α → Outcome σ α
  | done a => ⟨a, [], state⟩
  | note e next =>
    let r := next.run answers state
    { r with calls := .event e :: r.calls }
  | fetch next =>
    let (t, state) := answers.token state
    let r := (next t).run answers state
    { r with calls := .token t :: r.calls }
  | send request next =>
    let (reply, state) := answers.reply request state
    let r := (next reply).run answers state
    { r with calls := .request request reply :: r.calls }

def tokenCalls (calls : List Call) : Nat :=
  calls.countP fun | .token _ => true | _ => false

def requests (calls : List Call) : List Outbound :=
  calls.filterMap fun | .request sent _ => some sent | _ => none

def events (calls : List Call) : List Event :=
  calls.filterMap fun | .event e => some e | _ => none

end Exchange

end BrokerGate
