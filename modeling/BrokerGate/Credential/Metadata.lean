import BrokerGate.Credential
import BrokerGate.Http.Client
import BrokerGate.Http.Message
import BrokerGate.Json.Outline
import BrokerGate.Decimal.Read
import BrokerGate.Log.Event

/-! Tokens that a metadata server hands out. -/
namespace BrokerGate.Credential
open Text Utf8 Http Decimal

def defaultMetadataUrl : String :=
  "http://metadata.google.internal/computeMetadata/v1/instance/service-accounts/default/token"

def metadataFlavor : FieldName × FieldValue := (⟨"metadata-flavor"⟩, .ofText "Google")

/-- The request of a fetch, if the URL is one to ask. -/
def metadataRequest (url : Option String) : Except ClientError Outbound :=
  match Url.parse (url.getD defaultMetadataUrl).toList with
  | .error e => .error (.notUrl e)
  | .ok u =>
    let (u, fields) := detachUserinfo u
    match refusal? u with
    | some e => .error e
    | none => .ok ⟨.get, u, fields ++ [metadataFlavor], none⟩

/-- What a metadata server grants. -/
structure Grant where
  accessToken : String
  expiresIn : Option Nat
  deriving DecidableEq

def maxExpiry : Nat := 0xFFFFFFFFFFFFFFFF

def seconds? : Json → Option (Option Nat)
  | .null => some none
  | .number t =>
    if t.all Char.isDigit then
      match natural? 10 t with
      | some n => if n ≤ maxExpiry then some (some n) else none
      | none => none
    else none
  | _ => none

def stringPiece? (piece : List Char) : Option String :=
  (Json.ofOctets? piece).bind Json.string?

def secondsPiece? (piece : List Char) : Option (Option Nat) :=
  (Json.ofOctets? piece).bind seconds?

/-- The pieces of the members of one name. -/
def piecesNamed (name : String) (members : List (String × List Char)) : List (List Char) :=
  (members.filter (·.1 = name)).map (·.2)

/-- One access token, and at most one time of expiry; what other members hold does not matter. -/
def grantOfMembers? (members : List (String × List Char)) : Option Grant :=
  match piecesNamed "access_token" members, piecesNamed "expires_in" members with
  | [token], [] => (stringPiece? token).map fun t => ⟨t, none⟩
  | [token], [expiry] =>
    match stringPiece? token, secondsPiece? expiry with
    | some t, some n => some ⟨t, n⟩
    | _, _ => none
  | _, _ => none

/-- A list holds the token and then the time of expiry. -/
def grantOfItems? : List (List Char) → Option Grant
  | [token] => (stringPiece? token).map fun t => ⟨t, none⟩
  | [token, expiry] => grantOfMembers? [("access_token", token), ("expires_in", expiry)]
  | _ => none

def readGrant? (body : Bytes) : Option Grant :=
  match Json.outline? (Json.octets body) with
  | some (.items texts) => grantOfItems? texts
  | some (.members texts) =>
    (texts.mapM fun m => (stringPiece? m.1).map fun name => (name, m.2)).bind grantOfMembers?
  | none => none

/-- Why an answer of the metadata server gives no token. -/
inductive MetadataFailure
  | status (code : Nat) (text : String)
  | unreadable
  | empty
  deriving DecidableEq

def MetadataFailure.message : MetadataFailure → String
  | status code text => "metadata server returned " ++ statusText code ++ ": " ++ text
  | unreadable => "failed to parse metadata token response: error decoding response body"
  | empty => "metadata server returned an empty access_token"

/-- The text of a body; one that breaks off has none. -/
def bodyText (b : Body) : String := ((b.complete?).map toStringLossy).getD ""

def grantOf (r : Response) : Except MetadataFailure Grant :=
  if !r.isSuccess then .error (.status r.status (bodyText r.body))
  else
    match (r.body.complete?).bind readGrant? with
    | none => .error .unreadable
    | some g => if g.accessToken = "" then .error .empty else .ok g

private def expiryText : Option Nat → String
  | none => "None"
  | some n => "Some(" ++ toString n ++ ")"

def grantedEvent (g : Grant) : Log.Event :=
  ⟨.debug, "broxy_auth::metadata", "obtained token from metadata server",
    [("expires_in", .text (expiryText g.expiresIn))]⟩

end BrokerGate.Credential
