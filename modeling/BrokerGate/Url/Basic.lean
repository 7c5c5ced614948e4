import BrokerGate.Url.Host
import BrokerGate.Url.Path

/-! Parsed URLs and their written form. -/
namespace BrokerGate.Url
open Text

/-- Parts between the slashes of a scheme and the path. An absent password is the same as an empty
one; so is an absent user name. -/
structure Authority where
  username : List Char
  password : List Char
  host : Host
  port : Option Nat
  deriving DecidableEq

/-- A path of segments, or the text of a URL that is no hierarchy. -/
inductive Path
  | segments (parts : List Segment)
  | rootless (text : List Char)
  deriving DecidableEq

def Path.text : Path → List Char
  | .segments ps => pathText ps
  | .rootless t => t

namespace Authority

def userinfoText (a : Authority) : List Char :=
  if a.username.isEmpty && a.password.isEmpty then []
  else a.username ++ (if a.password.isEmpty then [] else ':' :: a.password) ++ ['@']

def portText (a : Authority) : List Char :=
  match a.port with
  | none => []
  | some p => ':' :: decimalText p

/-- `host[:port]`. -/
def hostPort (a : Authority) : List Char := a.host.text ++ a.portText

def text (a : Authority) : List Char := a.userinfoText ++ a.hostPort

end Authority

end BrokerGate.Url

namespace BrokerGate
open Text Url

structure Url where
  scheme : List Char
  authority : Option Authority
  path : Path
  query : Option (List Char)
  fragment : Option (List Char)
  deriving DecidableEq

namespace Url

/-- What stands before the path. A path without authority that starts with two slashes gets a dot
in front, so that it is not taken for one. -/
def origin (u : Url) : List Char :=
  u.scheme ++ ':' ::
    (match u.authority with
    | some a => '/' :: '/' :: a.text
    | none => if "//".toList.isPrefixOf u.path.text then ['/', '.'] else [])

def suffixText (mark : Char) : Option (List Char) → List Char
  | none => []
  | some t => mark :: t

def text (u : Url) : List Char :=
  u.origin ++ u.path.text ++ suffixText '?' u.query ++ suffixText '#' u.fragment

def hasHost (u : Url) : Bool := u.authority.any fun a => !a.host.isEmpty

/-- The URL without user name and password, as error texts show it. -/
def withoutUserinfo (u : Url) : Url :=
  { u with authority := u.authority.map fun a => { a with username := [], password := [] } }

end Url

end BrokerGate
