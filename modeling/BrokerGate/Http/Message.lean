import BrokerGate.Http.Field
import BrokerGate.Http.Target
import BrokerGate.Url.Address
import BrokerGate.Url.Basic

/-! Requests and responses, the addresses that requests come from, and the phrases that go with
status codes. A body is a stream of chunks that ends in order or breaks off. -/
namespace BrokerGate.Http
open Text Utf8 Url

inductive IpAddress
  | v4 (address : Ipv4)
  | v6 (address : Ipv6)
  deriving DecidableEq

namespace IpAddress

/-- An address of four octets inside one of eight pieces is shown as such. -/
def text : IpAddress → List Char
  | .v4 a => a.text
  | .v6 a =>
    match a.groups with
    | [0, 0, 0, 0, 0, 0xFFFF, high, low] =>
      "::ffff:".toList ++ decimalText (high / 256) ++ '.' :: decimalText (high % 256) ++
        '.' :: decimalText (low / 256) ++ '.' :: decimalText (low % 256)
    | _ => a.text

/-- The address of `address:port`; brackets hold one of eight pieces, whose zone is dropped. -/
def ofSocket? (cs : List Char) : Option IpAddress :=
  match cs with
  | '[' :: rest =>
    (Ipv6.parse? (rest.takeWhile fun c => c ≠ '%' && c ≠ ']')).map .v6
  | _ => (cutLast ':' cs).bind fun p => (Ipv4.parse? p.1).map .v4

end IpAddress

/-- Status codes and the phrases that go with them. -/
private def phrases : List (Nat × String) :=
  [(100, "Continue"), (101, "Switching Protocols"), (102, "Processing"), (200, "OK"),
    (201, "Created"), (202, "Accepted"), (203, "Non Authoritative Information"),
    (204, "No Content"), (205, "Reset Content"), (206, "Partial Content"), (207, "Multi-Status"),
    (208, "Already Reported"), (226, "IM Used"), (300, "Multiple Choices"),
    (301, "Moved Permanently"), (302, "Found"), (303, "See Other"), (304, "Not Modified"),
    (305, "Use Proxy"), (307, "Temporary Redirect"), (308, "Permanent Redirect"),
    (400, "Bad Request"), (401, "Unauthorized"), (402, "Payment Required"), (403, "Forbidden"),
    (404, "Not Found"), (405, "Method Not Allowed"), (406, "Not Acceptable"),
    (407, "Proxy Authentication Required"), (408, "Request Timeout"), (409, "Conflict"),
    (410, "Gone"), (411, "Length Required"), (412, "Precondition Failed"),
    (413, "Payload Too Large"), (414, "URI Too Long"), (415, "Unsupported Media Type"),
    (416, "Range Not Satisfiable"), (417, "Expectation Failed"), (418, "I'm a teapot"),
    (421, "Misdirected Request"), (422, "Unprocessable Entity"), (423, "Locked"),
    (424, "Failed Dependency"), (425, "Too Early"), (426, "Upgrade Required"),
    (428, "Precondition Required"), (429, "Too Many Requests"),
    (431, "Request Header Fields Too Large"), (451, "Unavailable For Legal Reasons"),
    (500, "Internal Server Error"), (501, "Not Implemented"), (502, "Bad Gateway"),
    (503, "Service Unavailable"), (504, "Gateway Timeout"), (505, "HTTP Version Not Supported"),
    (506, "Variant Also Negotiates"), (507, "Insufficient Storage"), (508, "Loop Detected"),
    (510, "Not Extended"), (511, "Network Authentication Required")]

/-- A code and its phrase. -/
def statusText (status : Nat) : String :=
  toString status ++ " " ++
    ((phrases.find? (·.1 = status)).map (·.2)).getD "<unknown status code>"

structure Body where
  chunks : List Bytes
  broken : Bool
  deriving DecidableEq

namespace Body

def empty : Body := ⟨[], false⟩

def ofBytes (bs : Bytes) : Body := ⟨[bs], false⟩

/-- What arrives before the stream ends or breaks. -/
def bytes (b : Body) : Bytes := b.chunks.flatten

/-- The whole of a stream that ends in order. -/
def complete? (b : Body) : Option Bytes := if b.broken then none else some b.bytes

end Body

structure Method where
  text : String
  deriving DecidableEq

namespace Method

def ofText? (s : String) : Option Method :=
  let bs := ofString s
  if bs ≠ [] && bs.all isTokenByte then some ⟨s⟩ else none

def get : Method := ⟨"GET"⟩
def head : Method := ⟨"HEAD"⟩
def connect : Method := ⟨"CONNECT"⟩

end Method

/-- A request from a caller; `body` is absent if nothing follows the header. -/
structure Inbound where
  method : Method
  target : RequestTarget
  fields : Fields
  body : Option Body
  peer : Option IpAddress

/-- Why the parts of a request do not make one. -/
inductive RequestError
  | method
  | target (e : TargetError)
  | fieldName
  | fieldValue
  deriving DecidableEq

def RequestError.message : RequestError → String
  | .method => "invalid HTTP method"
  | .target e => e.message
  | .fieldName => "invalid HTTP header name"
  | .fieldValue => "failed to parse header value"

def readField (p : Bytes × Bytes) : Except RequestError (FieldName × FieldValue) :=
  match FieldName.ofBytes? p.1, FieldValue.ofBytes? p.2 with
  | none, _ => .error .fieldName
  | _, none => .error .fieldValue
  | some n, some v => .ok (n, v)

/-- The first faulty part is reported: method, target, then the fields in order. -/
def Inbound.ofParts (method target : String) (fields : List (Bytes × Bytes)) (body : Option Body)
    (peer : Option IpAddress) : Except RequestError Inbound := do
  let some m := Method.ofText? method | throw .method
  let t ← (RequestTarget.parse target.toList).mapError RequestError.target
  let fs ← fields.mapM readField
  pure ⟨m, t, fs, body, peer⟩

/-- A request to the broker. -/
structure Outbound where
  method : Method
  url : Url
  fields : Fields
  body : Option Body

/-- A response of the broker, or one to a caller. -/
structure Response where
  status : Nat
  fields : Fields
  body : Body
  deriving DecidableEq

def Response.isSuccess (r : Response) : Bool := 200 ≤ r.status && r.status < 300

end BrokerGate.Http
