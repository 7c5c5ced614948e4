import BrokerGate.Idna.Name
import BrokerGate.Url.Address
import BrokerGate.Url.Percent

/-! Hosts of a URL and why a text is no URL. A web host is a name in its ASCII form or an address;
other schemes take any text without separators. -/
namespace BrokerGate.Url
open Text

inductive UrlError
  | relativeWithoutBase
  | emptyHost
  | invalidPort
  | invalidIpv4
  | invalidIpv6
  | invalidName
  | invalidHostCharacter
  deriving DecidableEq

def UrlError.message : UrlError → String
  | .relativeWithoutBase => "relative URL without a base"
  | .emptyHost => "empty host"
  | .invalidPort => "invalid port number"
  | .invalidIpv4 => "invalid IPv4 address"
  | .invalidIpv6 => "invalid IPv6 address"
  | .invalidName => "invalid international domain name"
  | .invalidHostCharacter => "invalid domain character"

inductive Host
  | name (text : List Char)
  | ipv4 (address : Ipv4)
  | ipv6 (address : Ipv6)
  deriving DecidableEq

namespace Host

def text : Host → List Char
  | .name t => t
  | .ipv4 a => a.text
  | .ipv6 a => '[' :: a.text ++ [']']

def isEmpty : Host → Bool
  | .name t => t.isEmpty
  | _ => false

/-- What brackets hold is an address. -/
def parseBracketed (cs : List Char) : Except UrlError Host :=
  if cs.getLast? = some ']' && cs.length ≥ 2 then
    match Ipv6.parse? (cs.drop 1).dropLast with
    | some a => .ok (.ipv6 a)
    | none => .error .invalidIpv6
  else .error .invalidIpv6

def parse (cs : List Char) : Except UrlError Host :=
  if cs.head? = some '[' then parseBracketed cs
  else
    match (Utf8.decode? (unescape cs)).bind Idna.toAscii? with
    | none => .error .invalidName
    | some [] => .error .emptyHost
    | some n =>
      if Ipv4.endsInNumber n then
        match Ipv4.parse? n with
        | some a => .ok (.ipv4 a)
        | none => .error .invalidIpv4
      else .ok (.name n)

def isSeparator (c : Char) : Bool :=
  ['\x00', '\t', '\n', '\r', ' ', '#', '/', ':', '<', '>', '?', '@', '[', '\\', ']', '^', '|'].contains c

/-- The host of a scheme about which nothing is known. -/
def parsePlain (cs : List Char) : Except UrlError Host :=
  if cs.head? = some '[' then parseBracketed cs
  else if cs.any isSeparator then .error .invalidHostCharacter
  else .ok (.name (escape .controls cs))

end Host

end BrokerGate.Url
