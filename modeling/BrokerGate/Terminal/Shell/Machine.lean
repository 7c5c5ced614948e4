import BrokerGate.Credential
import BrokerGate.Terminal.Shell.Files
import BrokerGate.Terminal.Shell.Utility

/-! The state of a running shell. -/
namespace BrokerGate.Terminal.Shell
open Text Decimal

/-- Why a script ends before its last command. -/
inductive Stop
  | exit (status : Nat)
  | killed (pid signal : Nat)
  | leaveLoop (levels : Nat)
  | nextRound (levels : Nat)
  | returned
  deriving DecidableEq

/-- Where a descriptor writes to. Channel 0 is the output of the whole run and channel 1 its error
output; further channels collect what somebody reads back. -/
inductive Sink
  | channel (n : Nat)
  | file (path : Octets)
  deriving DecidableEq

structure Machine where
  files : Files
  bindings : List (Octets × Octets)
  constants : List Octets
  functions : List (Octets × Command)
  /-- Actions for signals by number; number 0 stands for the end of the shell. -/
  traps : List (Nat × Octets)
  /-- Actions of signals that have come and wait for the command at hand to end. -/
  pending : List Octets
  arguments : List Octets
  name : Octets
  pid : Nat
  line : Nat
  /-- The command in whose name complaints are made. -/
  speaker : Option Octets
  status : Nat
  /-- The status of the last command substitution of the command at hand. -/
  substituted : Option Nat
  input : Input
  sinks : List (Nat × Sink)
  channels : Nat
  /-- What was written to channels, the last text first. -/
  written : List (Nat × Octets)
  /-- A command that fails ends the shell. -/
  strict : Bool
  /-- A parameter that is not set ends the shell. -/
  needsSet : Bool
  /-- A failure is expected here, so that it ends nothing. -/
  guarded : Bool
  /-- Loops around the command at hand, within the function at hand. -/
  loops : Nat
  inFunction : Bool
  /-- Values that local variables hide. -/
  hidden : List (Octets × Option Octets)

/-- A step's machine, and the reason to stop if there is one. -/
abbrev Ended := Machine × Option Stop

namespace Machine

def lookUp (m : Machine) (name : Octets) : Option Octets :=
  (m.bindings.find? (·.1 = name)).map (·.2)

def assign (name value : Octets) (m : Machine) : Machine :=
  { m with bindings := (name, value) :: m.bindings.filter (·.1 ≠ name) }

def forget (name : Octets) (m : Machine) : Machine :=
  { m with bindings := m.bindings.filter (·.1 ≠ name) }

def writeTo (sink : Sink) (text : Octets) (m : Machine) : Machine :=
  if text.isEmpty then m
  else
    match sink with
    | .channel n => { m with written := (n, text) :: m.written }
    | .file path => { m with files := m.files.append path text }

def sink? (fd : Nat) (m : Machine) : Option Sink := (m.sinks.find? (·.1 = fd)).map (·.2)

def setSink (fd : Nat) (sink : Option Sink) (m : Machine) : Machine :=
  let others := m.sinks.filter (·.1 ≠ fd)
  { m with sinks := match sink with
      | some s => (fd, s) :: others
      | none => others }

/-- Writes to a descriptor; what goes to a closed one is lost. -/
def write (fd : Nat) (text : Octets) (m : Machine) : Machine :=
  match m.sink? fd with
  | some s => m.writeTo s text
  | none => m

/-- What a channel has received. -/
def received (n : Nat) (m : Machine) : Octets :=
  ((m.written.filter (·.1 = n)).map (·.2)).reverse.flatten

/-- Opens a new channel as the output. -/
def captured (m : Machine) : Nat × Machine :=
  (m.channels, { m.setSink 1 (some (.channel m.channels)) with channels := m.channels + 1 })

def discard (n : Nat) (m : Machine) : Machine :=
  { m with written := m.written.filter (·.1 ≠ n) }

private def lead (m : Machine) : Octets :=
  m.name ++ ": ".toList ++ (toString m.line).toList ++ ": ".toList

/-- A complaint of a command of the shell, which names the command itself. -/
def protest (text : Octets) (m : Machine) : Machine := m.write 2 (m.lead ++ text ++ ['\n'])

/-- A complaint of the shell, in the name of the command that reads the script. -/
def complain (text : Octets) (m : Machine) : Machine :=
  m.protest (match m.speaker with
    | some s => s ++ ": ".toList ++ text
    | none => text)

/-- The result of commands that ran apart: what they wrote, consumed and changed on disk. -/
def afterApart (m after : Machine) : Machine :=
  { m with
    files := after.files, written := after.written, input := after.input
    channels := after.channels }

def searchPath (m : Machine) : Octets :=
  (m.lookUp "PATH".toList).getD
    "/usr/local/sbin:/usr/local/bin:/usr/sbin:/usr/bin:/sbin:/bin".toList

end Machine

def finishWith (status : Nat) (m : Machine) : Ended := ({ m with status }, none)

/-- A mistake that ends a shell which runs a script. -/
def abort (m : Machine) : Ended := (m, some (.exit 2))

def ifsOf (m : Machine) : Octets := (m.lookUp "IFS".toList).getD " \t\n".toList

def isIfsBlank (c : Char) : Bool := c = ' ' || c = '\t' || c = '\n'

end BrokerGate.Terminal.Shell
