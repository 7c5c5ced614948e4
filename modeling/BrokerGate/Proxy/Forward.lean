import BrokerGate.Credential
import BrokerGate.Endpoint
import BrokerGate.Error
import BrokerGate.Exchange
import BrokerGate.Http.Field
import BrokerGate.Http.Message
import BrokerGate.Json
import BrokerGate.Log.Event
import BrokerGate.Text.Split

/-! Forwarding one request. The target is checked first, then a token is fetched, and only then is
anything sent: the fields of the caller that may pass, the list of hops that it came over, and the
two fields that the proxy sets itself. The caller gets the broker's response, or a JSON body that
names the kind of failure. -/
namespace BrokerGate.Proxy
open Text Http

def hopByHopNames : List FieldName :=
  ["connection", "keep-alive", "proxy-authenticate", "proxy-authorization", "proxy-connection",
    "te", "trailer", "transfer-encoding", "upgrade"].map FieldName.mk

/-- The members of a list value that are field names. -/
def listedIn (value : List Char) : List FieldName :=
  (pieces ',' value).filterMap fun member =>
    FieldName.ofBytes? (Utf8.encode (trimBlank member))

def connectionListed (fs : Fields) : List FieldName :=
  ((fs.values .connection).filterMap FieldValue.text?).flatMap listedIn

def stripHopByHop (fs : Fields) : Fields :=
  fs.filter fun f => !hopByHopNames.contains f.1 && !(connectionListed fs).contains f.1

def apiVersion : String := "2.14"

/-- The list of hops with the caller's address at its end. -/
def forwardedForValue (fs : Fields) (peer : IpAddress) : List Char :=
  let prior := ((fs.values .forwardedFor).filterMap FieldValue.text?).filter (!·.isEmpty)
  joinWith [',', ' '] (prior ++ [peer.text])

/-- A list that made no field value would be left as it was. -/
def appendForwardedFor (fs : Fields) : Option IpAddress → Fields
  | none => fs
  | some peer =>
    match FieldValue.ofBytes? (Utf8.encode (forwardedForValue fs peer)) with
    | some v => fs.set .forwardedFor v
    | none => fs

def applyBrokerFields (fs : Fields) (token : BearerToken) : Except GateError Fields :=
  match token.authorization with
  | .ok v => .ok ((fs.set .authorization v).set .apiVersion (.ofText apiVersion))
  | .error e => .error e

/-- `Host` is left to the client, which takes it from the URL. -/
def passedFields (request : Inbound) : Fields :=
  appendForwardedFor ((stripHopByHop request.fields).erase .host) request.peer

structure Classification where
  status : Nat
  type : String
  code : String
  deriving DecidableEq

/-- Only a target that cannot be forwarded is the caller's fault. -/
def classify : GateError → Classification
  | .credential _ => ⟨500, "server_error", "credential_error"⟩
  | .unforwardable _ => ⟨400, "invalid_request_error", "invalid_request_target"⟩
  | .transport _ | .rejection _ _ => ⟨502, "server_error", "upstream_error"⟩
  | .invalidBackend _ | .configuration _ => ⟨500, "server_error", "internal_error"⟩

def errorDocument (e : GateError) : Json :=
  let c := classify e
  .object [("error", .object
    [("code", .string c.code), ("message", .string e.message), ("type", .string c.type)])]

def errorResponse (e : GateError) : Response :=
  ⟨(classify e).status, [(.contentType, .ofText "application/json")],
    .ofBytes (Utf8.encode (errorDocument e).text)⟩

def failureEvent (e : GateError) : Log.Event :=
  let c := classify e
  ⟨.warn, "broxy_proxy::error", "forward failed",
    [("status", .number c.status), ("code", .text c.code), ("error", .text e.message)]⟩

/-- The path as it is reported; a bare authority has none. -/
def reportedPath (t : RequestTarget) : List Char :=
  match t.pathQuery with
  | none => []
  | some cs =>
    let path := cs.takeWhile (· ≠ '?')
    if path.isEmpty then ['/'] else path

def forwardEvent (request : Inbound) : Log.Event :=
  ⟨.debug, "broxy_proxy::forward", "forwarding to broker",
    [("method", .text request.method.text),
      ("path", .text (String.ofList (reportedPath request.target)))]⟩

/-- The broker's response as it is relayed. -/
def relay (reply : Response) : Response := { reply with fields := stripHopByHop reply.fields }

def fail {α : Type} (e : GateError) : Exchange (Except GateError α) := .done (.error e)

/-- Either the broker's response or why there is none. -/
def exchange (backend : Endpoint) (request : Inbound) : Exchange (Except GateError Response) :=
  match backend.join (String.ofList request.target.forwarded) with
  | .error e => fail e
  | .ok url => .fetch fun
    | .error e => fail e.asCredential
    | .ok token =>
      match applyBrokerFields (passedFields request) token with
      | .error e => fail e
      | .ok fields => .note (forwardEvent request) <|
        .send ⟨request.method, url, fields, request.body⟩ fun
          | .error e => fail e
          | .ok reply => .done (.ok (relay reply))

/-- A response whose length is known says so. -/
def withLength (r : Response) : Response :=
  if Fields.has r.fields .contentLength then r
  else { r with fields := r.fields ++
    [(.contentLength, .ofText (toString r.body.bytes.length))] }

/-- No body answers `HEAD`, and none a successful `CONNECT` that announces one. -/
def withoutUnwantedBody (m : Method) (r : Response) : Response :=
  let announces := Fields.has r.fields .contentLength || Fields.has r.fields .transferEncoding
  if m = .head || (m = .connect && r.isSuccess && announces) then { r with body := .empty } else r

/-- The answer to the caller, and the event that goes with a failure. -/
def deliver (m : Method) : Except GateError Response → Exchange Response
  | .ok r => .done (withoutUnwantedBody m r)
  | .error e =>
    .note (failureEvent e) (.done (withoutUnwantedBody m (withLength (errorResponse e))))

def forward (backend : Endpoint) (request : Inbound) : Exchange Response :=
  (exchange backend request).andThen (deliver request.method)

end BrokerGate.Proxy
