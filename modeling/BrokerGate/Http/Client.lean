import BrokerGate.Endpoint
import BrokerGate.Http.Message
import BrokerGate.Url.Percent

/-! The web client that calls the broker: which proxy it goes through, how long it waits, and why an
exchange fails before any answer. -/
namespace BrokerGate.Http
open Text

inductive ClientError
  /-- The text is no URL. -/
  | notUrl (e : Url.UrlError)
  /-- The URL is not one that a web client can ask. -/
  | schemeNotAllowed (url : Url)
  /-- The URL cannot stand on a request line. -/
  | notRequestTarget (url : Url)
  /-- Something went wrong on the way; network and peers have the say in what it is called. -/
  | failed (outermost : String) (causes : List String)
  deriving DecidableEq

namespace ClientError

def shown (u : Url) : String := " for url (" ++ String.ofList u.text ++ ")"

/-- The messages of a failure, outermost first. -/
def messages : ClientError → List String
  | notUrl e => ["builder error", e.message]
  | schemeNotAllowed u => ["builder error" ++ shown u, "URL scheme is not allowed"]
  | notRequestTarget u => ["builder error" ++ shown u, "Parsed Url is not a valid Uri"]
  | failed outermost causes => outermost :: causes

def text (e : ClientError) : String := (ErrorChain.text e.messages).getD ""

def toGateError (e : ClientError) : GateError := .transport e.text

end ClientError

/-- What keeps a web client from asking for a URL, if anything does. -/
def refusal? (u : Url) : Option ClientError :=
  if !u.hasHost || !Endpoint.webSchemes.contains u.scheme then some (.schemeNotAllowed u)
  else
    match RequestTarget.parse u.text with
    | .ok _ => none
    | .error _ => some (.notRequestTarget u)

/-- Six bits as a character. -/
private def sextet (n : Nat) : Char :=
  "ABCDEFGHIJKLMNOPQRSTUVWXYZabcdefghijklmnopqrstuvwxyz0123456789+/".toList[n]?.getD '='

/-- Three bytes as four characters; what is missing at the end is filled up. -/
private def base64 : Utf8.Bytes → List Char
  | a :: b :: c :: rest =>
    let n := a.toNat * 0x10000 + b.toNat * 0x100 + c.toNat
    sextet (n / 0x40000) :: sextet (n / 0x1000 % 64) :: sextet (n / 64 % 64) :: sextet (n % 64) ::
      base64 rest
  | [a, b] =>
    let n := a.toNat * 0x400 + b.toNat * 4
    [sextet (n / 0x1000), sextet (n / 64 % 64), sextet (n % 64), '=']
  | [a] => [sextet (a.toNat / 4), sextet (a.toNat * 16 % 64), '=', '=']
  | [] => []

private def unescaped? (cs : List Char) : Option (List Char) := Utf8.decode? (Url.unescape cs)

/-- User name and password of a URL become a field of the request; texts that are none stay. -/
def detachUserinfo (u : Url) : Url × Fields :=
  match u.authority.bind fun a => (unescaped? a.username).map fun name =>
      (name, if a.password.isEmpty then none else unescaped? a.password) with
  | none => (u, [])
  | some (name, password) =>
    if name.isEmpty && password.isNone then (u, [])
    else
      let pair := Utf8.encode (name ++ ':' :: password.getD [])
      let value := FieldValue.ofText (String.ofList ("Basic ".toList ++ base64 pair))
      (u.withoutUserinfo, [(.authorization, { value with sensitive := true })])

structure Client where
  proxy : Option Url
  timeoutSecs : Option Nat
  deriving DecidableEq

private def withHost? (text : List Char) : Option Url :=
  match Url.parse text with
  | .ok u => if u.hasHost then some u else none
  | .error _ => none

/-- The URL of a proxy. A text without a scheme, or with one that leads to no host, is taken for
what follows `http://`. -/
def proxyUrl? (text : List Char) : Option Url :=
  let presumed := withHost? ("http://".toList ++ text)
  match Url.parse text with
  | .ok u => if u.hasHost then some u else presumed
  | .error .relativeWithoutBase => presumed
  | .error _ => none

def Client.build (proxyUrl : Option String) (timeoutSecs : Option Nat) :
    Except GateError Client :=
  match proxyUrl with
  | none => .ok ⟨none, timeoutSecs⟩
  | some text =>
    match proxyUrl? text.toList with
    | some u => .ok ⟨some u, timeoutSecs⟩
    | none => .error (.configuration ("invalid proxy_url " ++ text ++ ": builder error"))

/-- The proxy that variables name for a URL: one for its scheme, or one for all. -/
def environmentProxy? (environment : List (String × String)) (u : Url) : Option Url :=
  let scheme := String.ofList u.scheme
  [scheme.toUpper ++ "_PROXY", scheme ++ "_proxy", "ALL_PROXY", "all_proxy"].findSome? fun name =>
    (environment.find? (·.1 = name)).bind fun v => proxyUrl? v.2.toList

def unreachableReason : String := "Network is unreachable (os error 101)"

/-- What is said where no packet leaves: an address is not reached, and a name is not even found. -/
def connectFailure (u : Url) : List String :=
  match u.authority.map Url.Authority.host with
  | some (.name n) =>
    if n = "localhost".toList then ["tcp connect error", unreachableReason]
    else ["dns error", "failed to lookup address information: Temporary failure in name resolution"]
  | _ => ["tcp connect error", unreachableReason]

/-- A network that no packet leaves, for a client that goes through a proxy or straight to the
host of its request. -/
def offline (proxy : Option Url) (request : Outbound) : Except ClientError Response :=
  .error ((refusal? request.url).getD
    (.failed ("error sending request" ++ ClientError.shown request.url)
      ("client error (Connect)" :: connectFailure (proxy.getD request.url))))

end BrokerGate.Http
