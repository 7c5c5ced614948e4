import BrokerGate.Error
import BrokerGate.Url.Parse

/-! The broker's base URL, and the URLs under it that request targets name. -/
namespace BrokerGate
open Text

/-- An `http` or `https` URL with a host and without query and fragment. -/
structure Endpoint where
  base : Url
  deriving DecidableEq

namespace Endpoint

def webSchemes : List (List Char) := ["http".toList, "https".toList]

def parse (raw : String) : Except GateError Endpoint :=
  let refuse (why : String) : Except GateError Endpoint :=
    .error (.invalidBackend (raw ++ ": " ++ why))
  match Url.parse raw.toList with
  | .error e => refuse e.message
  | .ok u =>
    if !webSchemes.contains u.scheme then
      refuse ("unsupported scheme '" ++ String.ofList u.scheme ++ "'")
    else if !u.hasHost then refuse "missing host"
    else if u.query.isSome || u.fragment.isSome then refuse "query and fragment are not allowed"
    else .ok ⟨u⟩

def scheme (e : Endpoint) : List Char := e.base.scheme

def host (e : Endpoint) : List Char := (e.base.authority.map (·.host.text)).getD []

def port (e : Endpoint) : Option Nat := e.base.authority.bind (·.port)

/-- `host[:port]`. -/
def authority (e : Endpoint) : List Char := (e.base.authority.map (·.hostPort)).getD []

def path (e : Endpoint) : List Char := e.base.path.text

def isSlash (c : Char) : Bool := c = '/'

/-- The base URL without slashes at its end. -/
def display (e : Endpoint) : List Char := trimEndBy isSlash e.base.text

def displayText (e : Endpoint) : String := String.ofList e.display

/-- Path and query of a request target; the first question mark parts them. -/
def cutTarget (target : List Char) : List Char × Option (List Char) :=
  match cutFirst '?' target with
  | some (p, q) => (p, some q)
  | none => (target, none)

/-- The endpoint's path without slashes at its end, followed by the target's path with exactly one
slash before it. -/
def joinedPath (e : Endpoint) (path : List Char) : List Char :=
  trimEndBy isSlash e.path ++ (if path.head? = some '/' then path else '/' :: path)

/-- What the base's text holds before its path; all of it, should it not end with the path. -/
def originText (e : Endpoint) : List Char := (dropSuffix? e.path e.base.text).getD e.base.text

/-- The text that is read as the URL of a target. -/
def targetText (e : Endpoint) (target : List Char) : List Char :=
  let (path, query) := cutTarget target
  e.originText ++ e.joinedPath path ++ Url.suffixText '?' query

/-- The URL of a target under the endpoint, if path and query arrive as they are. -/
def join (e : Endpoint) (target : String) : Except GateError Url :=
  let (path, query) := cutTarget target.toList
  let refuse (why : String) : Except GateError Url := .error (.unforwardable (target ++ why))
  match Url.parse (e.targetText target.toList) with
  | .error err => refuse (": " ++ err.message)
  | .ok u =>
    if u.path.text = e.joinedPath path ∧ u.query = query ∧ u.fragment = none then .ok u
    else refuse (" would be sent as " ++
      String.ofList (u.path.text ++ Url.suffixText '?' u.query))

end Endpoint

end BrokerGate
