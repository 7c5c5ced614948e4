import BrokerGate.Proxy.Forward
import BrokerGate.Proxy.Startup

/-! What the proxy does for its operator and for its callers, all of which may go on at the same
time. -/
namespace BrokerGate.Proxy
open Http

inductive Operation
  | check
  | forward (request : Inbound)

namespace Operation

def Result : Operation → Type
  | check => Except GateError Unit
  | forward _ => Response

def program (backend : Endpoint) : (o : Operation) → Exchange o.Result
  | check => startupCheck backend
  | forward request => Proxy.forward backend request

def isCheck : Operation → Bool
  | check => true
  | forward _ => false

/-- A request that is forwarded to a target under the endpoint. -/
def isJoined (backend : Endpoint) : Operation → Bool
  | check => false
  | forward request => (backend.join (String.ofList request.target.forwarded)).isOk

end Operation

/-- An operation and what came of it. -/
structure Entry (σ : Type) where
  operation : Operation
  outcome : Exchange.Outcome σ operation.Result

/-- Operations one after another; whoever answers keeps its state between them. -/
def runAll {σ : Type} (backend : Endpoint) (answers : Exchange.Answers σ) (state : σ) :
    List Operation → List (Entry σ)
  | [] => []
  | o :: more =>
    let outcome := (o.program backend).run answers state
    ⟨o, outcome⟩ :: runAll backend answers outcome.state more

end BrokerGate.Proxy
