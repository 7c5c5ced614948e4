import BrokerGate.Terminal.Shell.Syntax
import BrokerGate.Text.Split

/-! The files that commands see, a working directory of their own and a few places of the system,
and how programs are found among them by path or by name. -/
namespace BrokerGate.Terminal.Shell
open Text

structure Files where
  files : List (Octets × Octets)
  directories : List Octets

namespace Files

def empty : Files := ⟨[], []⟩

/-- Steps back are taken where there is something to go back from. -/
private def resolved (isAbsolute : Bool) (kept : List Octets) : List Octets → List Octets
  | [] => kept.reverse
  | p :: rest =>
    if p = ['.', '.'] then
      match kept with
      | [] => resolved isAbsolute (if isAbsolute then [] else [p]) rest
      | last :: before =>
        if last = ['.', '.'] then resolved isAbsolute (p :: kept) rest
        else resolved isAbsolute before rest
    else resolved isAbsolute (p :: kept) rest

/-- A path without dot segments and doubled slashes. -/
def normal (path : Octets) : Octets :=
  let isAbsolute := path.head? = some '/'
  let parts := (pieces '/' path).filter fun s => !s.isEmpty && s ≠ ['.']
  let body := joinWith ['/'] (resolved isAbsolute [] parts)
  if isAbsolute then '/' :: body else body

private def systemDirectories : List Octets :=
  ["/", "/bin", "/boot", "/dev", "/etc", "/home", "/lib", "/media", "/mnt", "/opt", "/proc",
    "/root", "/run", "/sbin", "/srv", "/sys", "/tmp", "/usr", "/usr/bin", "/usr/lib", "/usr/local",
    "/usr/local/bin", "/usr/sbin", "/usr/share", "/var", "/var/lib", "/var/log",
    "/var/tmp"].map String.toList

private def systemFiles : List Octets :=
  ["/dev/null", "/dev/zero", "/etc/group", "/etc/hostname", "/etc/hosts", "/etc/passwd",
    "/etc/resolv.conf"].map String.toList

/-- The programs that commands find. -/
def programs : List Octets :=
  ["[", "cat", "echo", "false", "head", "mkdir", "printf", "sh", "sleep", "test", "touch", "tr",
    "true", "wc"].map String.toList

def isProgram (path : Octets) : Bool :=
  match cutLast '/' (normal path) with
  | some (dir, base) =>
    (dir = "/bin".toList || dir = "/usr/bin".toList) && programs.contains base
  | none => false

def isDirectory (fs : Files) (path : Octets) : Bool :=
  let p := normal path
  (p.isEmpty && !path.isEmpty) || p = "..".toList || systemDirectories.contains p ||
    fs.directories.contains p

def isFile (fs : Files) (path : Octets) : Bool :=
  let p := normal path
  systemFiles.contains p || isProgram p || fs.files.any (·.1 = p)

def exists? (fs : Files) (path : Octets) : Bool := fs.isDirectory path || fs.isFile path

def read? (fs : Files) (path : Octets) : Option Octets :=
  let p := normal path
  match fs.files.find? (·.1 = p) with
  | some f => some f.2
  | none => if systemFiles.contains p then some [] else none

/-- A source of zero bytes that never ends. -/
def isEndless (path : Octets) : Bool := normal path = "/dev/zero".toList

def isDevice (path : Octets) : Bool := normal path = "/dev/null".toList || isEndless path

private def isDiscarded (path : Octets) : Bool := systemFiles.contains (normal path)

def parent (path : Octets) : Octets :=
  match cutLast '/' (normal path) with
  | some ([], _) => ['/']
  | some (front, _) => front
  | none => ['.']

def put (path content : Octets) (fs : Files) : Files :=
  let p := normal path
  if isDiscarded p then fs
  else { fs with files := fs.files.filter (·.1 ≠ p) ++ [(p, content)] }

def append (path content : Octets) (fs : Files) : Files :=
  fs.put path ((fs.read? path).getD [] ++ content)

def makeDirectory (path : Octets) (fs : Files) : Files :=
  { fs with directories := fs.directories ++ [normal path] }

/-- Some proper start of a path is a file, so that nothing can lie below it. -/
def passesFile (fs : Files) (path : Octets) : Bool :=
  let starts := (List.range path.length).map path.take
  starts.any fun p => !p.isEmpty && path[p.length]? = some '/' && fs.isFile p

/-- Why a path cannot be read as a file. -/
def whyUnreadable (fs : Files) (path : Octets) : String :=
  if fs.isDirectory path then "Is a directory"
  else if fs.passesFile path then "Not a directory"
  else "No such file or directory"

/-- The names in the working directory, sorted. -/
def names (fs : Files) : List Octets :=
  let all := fs.files.map (·.1) ++ fs.directories
  let top := all.filter fun p => !p.isEmpty && !p.contains '/'
  top.mergeSort fun a b => String.ofList a ≤ String.ofList b

end Files

/-- Why a program does not start. -/
inductive LaunchError
  | nulByte
  | notFound
  | permissionDenied
  | notDirectory
  | nameTooLong
  | argumentsTooLong
  deriving DecidableEq

def LaunchError.message : LaunchError → String
  | nulByte => "nul byte found in provided data"
  | notFound => "No such file or directory (os error 2)"
  | permissionDenied => "Permission denied (os error 13)"
  | notDirectory => "Not a directory (os error 20)"
  | nameTooLong => "File name too long (os error 36)"
  | argumentsTooLong => "Argument list too long (os error 7)"

def maxName : Nat := 255
def maxPath : Nat := 4095

/-- The program that a path leads to. -/
private def atPath (fs : Files) (path : Octets) : Except LaunchError Octets :=
  if path.length > maxPath || (pieces '/' path).any (·.length > maxName) then .error .nameTooLong
  else if Files.isProgram path && path.getLast? ≠ some '/' then .ok path
  else if fs.passesFile path then .error .notDirectory
  else if fs.exists? path then .error .permissionDenied
  else .error .notFound

private def searched (directories : List Octets) (fs : Files) (name : Octets) :
    Except LaunchError Octets :=
  let found := directories.map fun d => atPath fs ((if d.isEmpty then ['.'] else d) ++ '/' :: name)
  match found.find? (·.isOk) with
  | some r => r
  | none =>
    if name.length > maxName then .error .nameTooLong
    else if found.any fun
      | .error .permissionDenied => true
      | _ => false
    then .error .permissionDenied
    else .error .notFound

/-- Finds a program by its path, or by its name in the search path. -/
def resolve (searchPath : Octets) (fs : Files) (program : Octets) : Except LaunchError Octets :=
  if program.isEmpty then .error .notFound
  else if program.contains '/' then atPath fs program
  else searched (pieces ':' searchPath) fs program

/-- The last name of a path. -/
def baseName (path : Octets) : Octets := ((cutLast '/' path).map (·.2)).getD path

end BrokerGate.Terminal.Shell
