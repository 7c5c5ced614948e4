import BrokerGate.Program.Run
import BrokerGate.Terminal.Shell.Launch

/-! The program itself: it reads its arguments, its environment and the files that settings may
come from, and writes what a run shows. It is the outer layer of the library, together with the
shell that stands in for the commands of a system and with a network that no packet leaves; results
are about what lies behind it and hold for whatever commands and networks do. -/
namespace BrokerGate.Terminal
open Config Http

def readBytes? (path : String) : IO (Option Text.Utf8.Bytes) := do
  try return some (← IO.FS.readBinFile path).toList
  catch _ => return none

/-- A dot segment can follow a directory only. -/
def isDirectory (path : String) : IO Bool := do
  try
    let _ ← IO.FS.realPath (path ++ "/.")
    return true
  catch _ => return false

def pathText (segments : List String) : String := "/" ++ "/".intercalate segments

/-- Every path that following `segments` from `start` passes. -/
def passed (start : List String) : List String → List (List String)
  | [] => [start]
  | s :: rest =>
    start :: passed (if s = ".." then start.dropLast else start ++ [s]) rest

/-- What there is at some paths. -/
def snapshot (paths : List (List String)) : IO FileTree := do
  let mut tree : FileTree := ⟨[], []⟩
  for p in paths.eraseDups do
    if ← isDirectory (pathText p) then tree := { tree with directories := p :: tree.directories }
    else if let some bytes ← readBytes? (pathText p) then
      tree := { tree with files := (p, bytes) :: tree.files }
  return tree

/-- The paths that a run with these arguments may look at. -/
def pathsOf (current : List String) (args : List String) : List (List String) :=
  match Invocation.parse args with
  | .error _ => []
  | .ok i =>
    match i.config with
    | none => []
    | some path =>
      let starts := (List.range (current.length + 1)).map current.take
      (([] : List String) :: starts).flatMap fun s => passed s (pathSegments path)

def readVariables : IO (List (String × String)) := do
  let bytes := (← readBytes? "/proc/self/environ").getD []
  let texts := Text.pieces '\x00' (Text.Utf8.decodeLossy bytes)
  return texts.filterMap fun t =>
    (Text.cutFirst '=' t).map fun p => (String.ofList p.1, String.ofList p.2)

def surroundings (environment : List (String × String)) : Credential.Surroundings Shell.Files :=
  let vs := environment.map fun v => (Shell.octetsOf v.1, Shell.octetsOf v.2)
  { run := fun program args files => Shell.launch vs program args files
    ask := fun request files =>
      (offline (environmentProxy? environment request.url) request, files) }

/-- A client without a proxy of its own goes by the environment. -/
def broker (environment : List (String × String)) (client : Client) (request : Outbound) :
    Except GateError Response :=
  (offline (client.proxy.or (environmentProxy? environment request.url)) request).mapError
    ClientError.toGateError

/-- Words for a document that is refused, whatever is wrong with it. -/
def wording (_ : String) : String := "invalid document"

def shownText : Program.Shown → String
  | .line t => t
  | .event format e => e.line format

end BrokerGate.Terminal

open BrokerGate in
def main (args : List String) : IO UInt32 := do
  let current := Config.pathSegments (toString (← IO.currentDir))
  let files ← Terminal.snapshot (Terminal.pathsOf current args)
  let environment ← Terminal.readVariables
  let world : Program.World Terminal.Shell.Files :=
    ⟨⟨files, current, environment⟩, Terminal.surroundings environment,
      fun client request files => (Terminal.broker environment client request, files),
      fun _ => .error Http.unreachableReason⟩
  let report := Program.run world .empty args
  for s in report.shown do IO.println (Terminal.shownText s)
  IO.eprint (report.errorText Terminal.wording)
  return UInt32.ofNat report.phase.exitStatus
