import BrokerGate.CommandLine.Parse
import BrokerGate.Credential.Source
import BrokerGate.Log.Event
import BrokerGate.Log.Filter
import BrokerGate.Program.Plan

/-! A run of the program up to the point where it listens, and what it writes meanwhile. -/
namespace BrokerGate.Program
open Config Http

/-- What a run meets: a place, token sources, a way to the broker for each client, and addresses to
listen on, or the reason why one cannot be had. -/
structure World (σ : Type) where
  place : Place
  tokens : Credential.Surroundings σ
  broker : Client → Outbound → σ → Except GateError Response × σ
  listen : String → Except String Unit

/-- A line on the standard output. -/
inductive Shown
  | event (format : LogFormat) (e : Log.Event)
  | line (text : String)

/-- What came of a run: where it stands, what it asked for, what it wrote, and what remains of its
world. -/
structure Report (σ : Type) where
  phase : Phase
  calls : List Exchange.Call
  shown : List Shown
  complaints : List String
  state : σ

private def failedReport {σ : Type} (state : σ) (f : Failure) : Report σ := ⟨.failed f, [], [], [], state⟩

/-- Token sources and the broker answer an operation; events of token sources are gathered. -/
def World.answers {σ : Type} (w : World σ) (client : Client) (tokens : TokenSettings) :
    Exchange.Answers (σ × List Log.Event) :=
  { token := fun s =>
      let f := Credential.fetch w.tokens s.1 tokens
      (f.token, (f.state, s.2 ++ f.events))
    reply := fun request s =>
      let (r, state) := w.broker client request s.1
      (r, (state, s.2)) }

private def approvalLine : Phase → List Shown
  | .approved backend => [.line (backend.displayText ++ ": ok")]
  | _ => []

/-- A listener is bound only where the startup check led to readiness. -/
def Phase.opened {σ : Type} (w : World σ) : Phase → Phase
  | .ready address =>
    match w.listen address with
    | .error reason => .failed (.bind address reason)
    | .ok _ => .serving address
  | phase => phase

private def openedEvents (p : Plan) : Phase → List Log.Event
  | .serving _ => [listeningEvent p]
  | _ => []

/-- The run of a plan. An operation fetches its token before it reports anything itself. -/
def Plan.report {σ : Type} (w : World σ) (filter : Log.Filter) (format : LogFormat) (state : σ)
    (p : Plan) : Report σ :=
  let o := p.start.run (w.answers p.client p.tokens) (state, [])
  let phase := o.result.opened w
  let events := (o.state.2 ++ Exchange.events o.calls ++ openedEvents p phase).filter filter.admits
  ⟨phase, o.calls, events.map (.event format) ++ approvalLine phase, [], o.state.1⟩

def run {σ : Type} (w : World σ) (state : σ) (args : List String) : Report σ :=
  match Invocation.parse args with
  | .error e => failedReport state (.usage e)
  | .ok i =>
    match w.place.loadSettings i with
    | .error f => failedReport state f
    | .ok s =>
      let (filter, complaints) := Log.Filter.choose (w.place.value? "RUST_LOG") s.log.level
      let r := match Plan.make i s with
        | .error e => failedReport state (.settings e)
        | .ok p => p.report w filter s.log.format state
      { r with complaints }

def Phase.exitStatus : Phase → Nat
  | .failed f => f.exitStatus
  | _ => 0

/-- The text on the standard error output: complaints, then the failure. -/
def Report.errorText {σ : Type} (wording : String → String) (r : Report σ) : String :=
  let last := match r.phase with
    | .failed f => ((f.text wording).map fun t => "Error: " ++ t).toList
    | _ => []
  String.join ((r.complaints ++ last).map (· ++ "\n"))

end BrokerGate.Program
