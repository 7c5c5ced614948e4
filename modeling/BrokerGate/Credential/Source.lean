import BrokerGate.Config.Settings
import BrokerGate.Credential
import BrokerGate.Credential.Metadata

/-! Token sources: a fixed token, a command, or a metadata server. Nothing is kept from one fetch to
the next. -/
namespace BrokerGate.Credential
open Http Config

/-- What token sources draw on, with a state of its own. -/
structure Surroundings (σ : Type) where
  run : (program : String) → (args : List String) → σ → CommandOutcome × σ
  ask : Outbound → σ → Except ClientError Response × σ

/-- What a fetch did to its surroundings. -/
inductive Act
  | ran (program : String) (args : List String)
  | asked (request : Outbound)

structure Fetched (σ : Type) where
  token : Except GateError BearerToken
  acts : List Act
  events : List Log.Event
  state : σ

def grantedToken (r : Except ClientError Response) : Except GateError Grant :=
  match r with
  | .error e => .error e.toGateError.asCredential
  | .ok reply => (grantOf reply).mapError fun f => .credential f.message

/-- One fetch. -/
def fetch {σ : Type} (world : Surroundings σ) (state : σ) : TokenSettings → Fetched σ
  | .fixed token => ⟨.ok ⟨token⟩, [], [], state⟩
  | .command program args =>
    let (outcome, state) := world.run program args state
    let token := commandToken program outcome
    ⟨token, [.ran program args], if token.isOk then [printedEvent program] else [], state⟩
  | .metadata url =>
    match metadataRequest url with
    | .error e => ⟨.error e.toGateError.asCredential, [], [], state⟩
    | .ok request =>
      let (reply, state) := world.ask request state
      match grantedToken reply with
      | .error e => ⟨.error e, [.asked request], [], state⟩
      | .ok g => ⟨.ok ⟨g.accessToken⟩, [.asked request], [grantedEvent g], state⟩

/-- Several fetches, one after another. -/
def fetchTimes {σ : Type} (world : Surroundings σ) (s : TokenSettings) (state : σ) :
    Nat → List (Fetched σ)
  | 0 => []
  | n + 1 =>
    let f := fetch world state s
    f :: fetchTimes world s f.state n

end BrokerGate.Credential
