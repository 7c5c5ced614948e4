import BrokerGate.Exchange.Traffic
import BrokerGate.Program.Run

/-! A process from its beginning on, one move after another. It checks the broker, opens its
listener, and serves any number of callers at the same time from then on. Token sources, the broker,
the listener and the callers decide which moves there are. -/
namespace BrokerGate.Program
open Config Http Exchange

/-- What a command line asks for at a place. So far nothing is asked of anyone. -/
def planned (place : Place) (args : List String) : Except Failure Plan := do
  let i ← (Invocation.parse args).mapError .usage
  let s ← place.loadSettings i
  (Plan.make i s).mapError .settings

inductive Process
  /-- The startup check goes on, or is over and not yet acted upon. -/
  | starting (p : Plan) (stage : Stage Phase)
  | listening (p : Plan) (tasks : List (Task fun _ : Inbound => Response))
  | ended (phase : Phase)

/-- What is logged of a process; callers are numbered in the order in which they come. -/
inductive Moment
  | startup (a : Act)
  | bound (address : String)
  | served (i : Nat) (a : Act)

inductive Move
  | startup (cause : Cause)
  /-- An address to listen on is there or not. -/
  | opens (answer : Except String Unit)
  | serves (turn : Turn Inbound)

namespace Process

def start : Except Failure Plan → Process
  | .error f => .ended (.failed f)
  | .ok p => .starting p (.working p.start)

/-- One move, and what happens in it. Nobody can call before there is a listener. -/
def step : Process → Move → Option (Process × List Moment)
  | .starting p stage, .startup cause =>
    (stage.step cause).map fun s => (.starting p s.1, s.2.map .startup)
  | .starting p (.finished (.ready address)), .opens answer =>
    match answer with
    | .ok _ => some (.listening p [], [.bound address])
    | .error reason => some (.ended (.failed (.bind address reason)), [])
  | .listening p tasks, .serves turn =>
    (Traffic.step p.serve ⟨tasks, []⟩ turn).map fun s =>
      (.listening p s.tasks, s.log.map fun e => .served e.1 e.2)
  | _, _ => none

/-- Where a process stands, unless its startup check still goes on. -/
def phase? : Process → Option Phase
  | .starting _ (.finished phase) => some phase
  | .starting _ _ => none
  | .listening p _ => some (.serving p.address)
  | .ended phase => some phase

end Process

/-- A process and its log. -/
structure History where
  process : Process
  log : List Moment

def History.step (h : History) (m : Move) : Option History := do
  let (process, moments) ← h.process.step m
  some ⟨process, h.log ++ moments⟩

def history (place : Place) (args : List String) (moves : List Move) : Option History :=
  moves.foldlM History.step ⟨.start (planned place args), []⟩

end BrokerGate.Program
