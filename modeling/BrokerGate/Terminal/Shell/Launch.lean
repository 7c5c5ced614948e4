import BrokerGate.Terminal.Shell.Run

/-! Running a program by its name. -/
namespace BrokerGate.Terminal.Shell
open Text

def maxArgument : Nat := 131071

/-- A text as the shell sees it, byte by byte. -/
def octetsOf (s : String) : Octets := (Utf8.ofString s).map fun b => Char.ofNat b.toNat

def bytesOf (cs : Octets) : Utf8.Bytes := cs.map fun c => UInt8.ofNat c.toNat

private def start (fs : Files) (bindings : List (Octets × Octets)) (program path : Octets)
    (args : List Octets) : Ran :=
  let name := baseName path
  if name = "sh".toList then runCall fs bindings program args
  else
    match Utility.run? name .program fs ⟨[], false⟩ args with
    | some r =>
      ⟨.exited r.status, r.out, r.complaints.flatMap (·.write program ++ ['\n']), r.files⟩
    | none => ⟨.exited 0, [], [], fs⟩

private def isFit (args : List Octets) : Bool := args.all (·.length ≤ maxArgument)

/-- Runs a program to its end. -/
def launch (bindings : List (Octets × Octets)) (program : String) (args : List String)
    (fs : Files) : CommandOutcome × Files :=
  let words := (program :: args).map octetsOf
  let searchPath := ((bindings.find? (·.1 = "PATH".toList)).map (·.2)).getD "/bin:/usr/bin".toList
  if words.any (·.contains '\x00') then (.notStarted LaunchError.nulByte.message, fs)
  else
    match resolve searchPath fs (octetsOf program) with
    | .error e => (.notStarted e.message, fs)
    | .ok path =>
      if !isFit words then (.notStarted LaunchError.argumentsTooLong.message, fs)
      else
        let ran := start fs bindings (octetsOf program) path (args.map octetsOf)
        (.ended ran.ending (bytesOf ran.out) (bytesOf ran.err), ran.files)

end BrokerGate.Terminal.Shell
