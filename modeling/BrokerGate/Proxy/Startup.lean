import BrokerGate.Endpoint
import BrokerGate.Exchange
import BrokerGate.Proxy.Forward

/-! The check before anything is served: the broker has to answer its catalog path with 200. -/
namespace BrokerGate.Proxy
open Text Http

def catalogPath : String := "/v2/catalog"

def unreadableBody : String := "<unreadable body: error decoding response body>"

/-- A body that breaks off is not shown in part. -/
def rejectionText (b : Body) : String :=
  match b.complete? with
  | some bytes => Utf8.toStringLossy bytes
  | none => unreadableBody

def passedEvent (backend : Endpoint) : Log.Event :=
  ⟨.info, "broxy_proxy::startup", "broker catalog check passed",
    [("backend", .text backend.displayText)]⟩

def startupCheck (backend : Endpoint) : Exchange (Except GateError Unit) :=
  .fetch fun
    | .error e => fail e.asCredential
    | .ok token =>
      match backend.join catalogPath with
      | .error e => fail e
      | .ok url =>
        match applyBrokerFields [] token with
        | .error e => fail e
        | .ok fields => .send ⟨.get, url, fields, none⟩ fun
          | .error e => fail e
          | .ok reply =>
            if reply.status = 200 then .note (passedEvent backend) (.done (.ok ()))
            else fail (.rejection reply.status (rejectionText reply.body))

end BrokerGate.Proxy
