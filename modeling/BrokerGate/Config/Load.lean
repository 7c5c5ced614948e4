import BrokerGate.Config.Document
import BrokerGate.Config.Extract
import BrokerGate.Config.Variable
import BrokerGate.Text.Utf8

/-! Loading settings: defaults, then a YAML layer, then the environment, merged in this order. A
relative file name is looked for in the current directory and in each directory above it. -/
namespace BrokerGate.Config
open Text

inductive LoadError
  /-- What a file holds is no text. -/
  | notText (source : Source)
  /-- A text is no document with a table. -/
  | document (text : String) (source : Source)
  | misfit (m : Misfit)
  deriving DecidableEq

/-- What is said of a failure. The reader of documents has its own words for each text that it
refuses. -/
def LoadError.message (wording : String → String) : LoadError → String
  | .notText source => "stream did not contain valid UTF-8" ++ source.suffix
  | .document text source => wording text ++ source.suffix
  | .misfit m => m.message

/-- Files by their absolute path, as lists of path segments; a directory is a path that leads to
a file or that is listed itself. -/
structure FileTree where
  files : List (List String × Utf8.Bytes)
  directories : List (List String)

namespace FileTree

def read? (t : FileTree) (path : List String) : Option Utf8.Bytes :=
  (t.files.find? (·.1 = path)).map (·.2)

def isDirectory (t : FileTree) (path : List String) : Bool :=
  path.isEmpty || t.directories.contains path ||
    t.files.any fun f => path.isPrefixOf f.1 && f.1 ≠ path

end FileTree

def pathSegments (path : String) : List String :=
  ((pieces '/' path.toList).filter fun s => !s.isEmpty && s ≠ ['.']).map String.ofList

def isAbsolute (path : String) : Bool := path.toList.head? = some '/'

/-- Follows a path; `..` leads to the directory above, and everything that is passed has to be a
directory. -/
def FileTree.follow? (t : FileTree) (start : List String) : List String → Option (List String)
  | [] => some start
  | s :: rest =>
    if t.isDirectory start then
      t.follow? (if s = ".." then start.dropLast else start ++ [s]) rest
    else none

def upward (n : Nat) (segments : List String) : String :=
  "/".intercalate (List.replicate n ".." ++ segments)

/-- The nearest file of a name, and the name as seen from the current directory. -/
def findUpward (t : FileTree) (segments : List String) (ups : Nat) :
    List String → Option (String × Utf8.Bytes)
  | [] => ((t.follow? [] segments).bind t.read?).map fun bs => (upward ups segments, bs)
  | here :: above =>
    let start := (here :: above).reverse
    match (t.follow? start segments).bind t.read? with
    | some bs => some (upward ups segments, bs)
    | none => findUpward t segments (ups + 1) above

/-- A path that ends with a slash or a dot segment cannot name a file. -/
def namesDirectory (path : String) : Bool :=
  match (pieces '/' path.toList).getLast? with
  | some [] | some ['.'] | some ['.', '.'] | none => true
  | _ => false

/-- Something is at the end of a path. -/
def FileTree.reaches (t : FileTree) (current : List String) (path : String) : Bool :=
  match t.follow? (if isAbsolute path then [] else current) (pathSegments path) with
  | none => false
  | some p => path ≠ "" && (t.isDirectory p || (!namesDirectory path && (t.read? p).isSome))

/-- The file of a configuration path, if there is one. -/
def FileTree.find? (t : FileTree) (current : List String) (path : String) :
    Option (String × Utf8.Bytes) :=
  let segments := pathSegments path
  if namesDirectory path then none
  else if isAbsolute path then
    ((t.follow? [] segments).bind t.read?).map fun bs => (path, bs)
  else findUpward t segments 0 current.reverse

def textLayer (source : Source) (text : String) : Except LoadError Value :=
  match documentLayer? source text with
  | some v => .ok v
  | none => .error (.document text source)

/-- A file that is not there is an empty layer. -/
def fileLayer (t : FileTree) (current : List String) (path : String) : Except LoadError Value :=
  match t.find? current path with
  | none => .ok (.table .defaults [])
  | some (shown, bytes) =>
    match Utf8.toString? bytes with
    | some text => textLayer (.file shown) text
    | none => .error (.notText (.file shown))

def extract (layers : List Value) : Except LoadError Settings :=
  match Settings.ofValue (layers.foldl Value.merge Settings.default.toValue) with
  | .ok s => .ok s
  | .error m => .error (.misfit m)

def fromText (text : String) : Except LoadError Settings := do
  extract [← textLayer .text text]

def fromFile (t : FileTree) (current : List String) (path : String) :
    Except LoadError Settings := do
  extract [← fileLayer t current path]

def load (t : FileTree) (current : List String) (path : Option String)
    (environment : List (String × String)) : Except LoadError Settings := do
  let file ← match path with
    | some p => (fileLayer t current p).map fun v => [v]
    | none => pure []
  extract (file ++ [environmentLayer environment])

end BrokerGate.Config
