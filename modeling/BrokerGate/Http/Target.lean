import BrokerGate.Text.Split
import BrokerGate.Text.Utf8

/-! Request targets as they stand on a request line: a path with query, an absolute URL, a bare
authority, or an asterisk. -/
namespace BrokerGate.Http
open Text

inductive TargetError
  | empty
  | tooLong
  | badCharacter
  | badAuthority
  | badFormat
  | schemeTooLong
  deriving DecidableEq

def TargetError.message : TargetError → String
  | .empty => "empty string"
  | .tooLong => "uri too long"
  | .badCharacter => "invalid uri character"
  | .badAuthority => "invalid authority"
  | .badFormat => "invalid format"
  | .schemeTooLong => "scheme too long"

/-- Only what a proxy passes on is kept: path and query, which a bare authority lacks. -/
structure RequestTarget where
  pathQuery : Option (List Char)
  deriving DecidableEq

namespace RequestTarget

def maxLength : Nat := 65534
def maxScheme : Nat := 64
def maxColons : Nat := 8

def isAuthorityChar (c : Char) : Bool :=
  c.isAlphanum || "!#$&'()*+,-./:;=?@[]_~".toList.contains c

def endsTargetAuthority (c : Char) : Bool := c = '/' || c = '?' || c = '#'

/-- What has been seen of an authority. Colons and percent signs before an `@` or inside brackets
are forgotten. -/
structure Seen where
  colons : Nat
  opened : Bool
  closed : Bool
  percent : Bool
  endsAt : Bool

def see (s : Seen) (c : Char) : Except TargetError Seen :=
  let s' := { s with endsAt := false }
  if c = ':' then
    if s.colons ≥ maxColons then .error .badAuthority else .ok { s' with colons := s.colons + 1 }
  else if c = '[' then
    if s.percent || s.opened then .error .badAuthority else .ok { s' with opened := true }
  else if c = ']' then
    if !s.opened || s.closed then .error .badAuthority
    else .ok { s' with closed := true, colons := 0, percent := false }
  else if c = '@' then .ok { s with colons := 0, percent := false, endsAt := true }
  else if c = '%' then .ok { s' with percent := true }
  else if isAuthorityChar c then .ok s'
  else .error .badCharacter

/-- The authority at the start of a text, and what follows it. -/
def cutAuthority (cs : List Char) : Except TargetError (List Char × List Char) :=
  let text := cs.takeWhile fun c => !endsTargetAuthority c
  match text.foldlM see ⟨0, false, false, false, false⟩ with
  | .error e => .error e
  | .ok s =>
    if (s.opened && !s.closed) || s.colons > 1 || s.endsAt || s.percent then .error .badAuthority
    else .ok (text, cs.drop text.length)

def isTargetPathChar (c : Char) : Bool :=
  let n := c.toNat
  n = 0x21 || (0x24 ≤ n && n ≤ 0x3B) || n = 0x3D || (0x40 ≤ n && n ≤ 0x5F) ||
    (0x61 ≤ n && n ≤ 0x7A) || n = 0x7C || n = 0x7E || n ≥ 0x80 || c = '"' || c = '\x7b' || c = '\x7d'

def isTargetQueryChar (c : Char) : Bool :=
  let n := c.toNat
  n = 0x21 || (0x24 ≤ n && n ≤ 0x3B) || n = 0x3D || (0x3F ≤ n && n ≠ 0x7F)

/-- Path and query up to a fragment, which is dropped. -/
def readPathQuery (cs : List Char) : Except TargetError (List Char) :=
  let kept := cs.takeWhile (· ≠ '#')
  let path := kept.takeWhile (· ≠ '?')
  let query := (kept.drop path.length).drop 1
  if path.all isTargetPathChar && query.all isTargetQueryChar then .ok kept
  else .error .badCharacter

def isSchemeByte (c : Char) : Bool := c.isAlphanum || "+-.~".toList.contains c

/-- The text after a scheme and `://`, if there is one. -/
def afterScheme (cs : List Char) : Except TargetError (Option (List Char)) :=
  let scheme := cs.takeWhile isSchemeByte
  match dropWord? "://".toList (cs.drop scheme.length) with
  | none => .ok none
  | some rest =>
    let known := ["http", "https"].contains (String.ofList (scheme.map Char.toLower))
    if scheme.length > maxScheme && !known then .error .schemeTooLong else .ok (some rest)

def parse (cs : List Char) : Except TargetError RequestTarget := do
  if (Utf8.encode cs).length > maxLength then throw .tooLong
  match cs with
  | [] => throw .empty
  | ['*'] => pure ⟨some ['*']⟩
  | '/' :: _ => return ⟨some (← readPathQuery cs)⟩
  | _ =>
    let scheme ← afterScheme cs
    let (authority, rest) ← cutAuthority (scheme.getD cs)
    if scheme.isSome then
      if authority.isEmpty then throw .badFormat
      return ⟨some (← readPathQuery rest)⟩
    else if rest.isEmpty then pure ⟨none⟩
    else throw (if cs.length = 1 then .badCharacter else .badFormat)

/-- Path and query as they are forwarded; an empty one counts as the root. -/
def forwarded (t : RequestTarget) : List Char :=
  match t.pathQuery with
  | none | some [] => ['/']
  | some cs => cs

end RequestTarget

end BrokerGate.Http
