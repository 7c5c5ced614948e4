import BrokerGate.Exchange

/-! Several operations at a time. Each goes on by steps of its own, in any order relative to those
of the others; a call and its answer are two steps, so that others may come in between. What happens
is logged with the number of the operation that it happens to. -/
namespace BrokerGate
open Http Log

namespace Exchange

inductive Act
  | began
  | noted (event : Event)
  | asked
  | given (answer : Except GateError BearerToken)
  | sent (request : Outbound)
  | answered (answer : Except GateError Response)

namespace Act

def isNote : Act → Bool
  | noted _ => true
  | _ => false

def isTokenCall : Act → Bool
  | asked => true
  | _ => false

def isTransportCall : Act → Bool
  | sent _ => true
  | _ => false

end Act

/-- How far an operation is. Before each thing that it does it works out what that is: it checks a
target, builds header fields, or turns a reply into its result. -/
inductive Stage (α : Type)
  | working (rest : Exchange α)
  | acting (rest : Exchange α)
  | awaitingToken (next : Except GateError BearerToken → Exchange α)
  | awaitingReply (next : Except GateError Response → Exchange α)
  | finished (result : α)

/-- What moves an operation on: itself, or the answer to a call. -/
inductive Cause
  | itself
  | token (answer : Except GateError BearerToken)
  | reply (answer : Except GateError Response)

namespace Stage

/-- One step, and what happens in it. Only the answer to its call moves an operation that waits. -/
def step {α : Type} : Cause → Stage α → Option (Stage α × List Act)
  | .itself, working rest => some (acting rest, [])
  | .itself, acting (.done a) => some (finished a, [])
  | .itself, acting (.note e next) => some (working next, [.noted e])
  | .itself, acting (.fetch next) => some (awaitingToken next, [.asked])
  | .itself, acting (.send request next) => some (awaitingReply next, [.sent request])
  | .token t, awaitingToken next => some (working (next t), [.given t])
  | .reply r, awaitingReply next => some (working (next r), [.answered r])
  | _, _ => none

def isFinished {α : Type} : Stage α → Bool
  | finished _ => true
  | _ => false

end Stage

end Exchange

open Exchange

/-- An operation and how far it is; `α` tells the kind of result of each operation. -/
structure Task {ι : Type} (α : ι → Type) where
  operation : ι
  stage : Stage (α operation)

/-- Operations are numbered in the order in which they begin. -/
structure Traffic {ι : Type} (α : ι → Type) where
  tasks : List (Task α)
  log : List (Nat × Act)

inductive Turn (ι : Type)
  | begins (operation : ι)
  | moves (i : Nat) (cause : Cause)

namespace Traffic
variable {ι : Type} {α : ι → Type}

def step (program : (o : ι) → Exchange (α o)) (s : Traffic α) : Turn ι → Option (Traffic α)
  | .begins o => some ⟨s.tasks ++ [⟨o, .working (program o)⟩], s.log ++ [(s.tasks.length, .began)]⟩
  | .moves i cause => do
    let task ← s.tasks[i]?
    let (stage, acts) ← task.stage.step cause
    some ⟨s.tasks.set i ⟨task.operation, stage⟩, s.log ++ acts.map fun a => (i, a)⟩

/-- From the beginning, when nothing goes on. -/
def run (program : (o : ι) → Exchange (α o)) (turns : List (Turn ι)) : Option (Traffic α) :=
  turns.foldlM (step program) ⟨[], []⟩

/-- What happened to one operation. -/
def lifeline (i : Nat) (log : List (Nat × Act)) : List Act :=
  log.filterMap fun e => if e.1 = i then some e.2 else none

def isFinished (s : Traffic α) : Bool := s.tasks.all (·.stage.isFinished)

end Traffic

end BrokerGate
