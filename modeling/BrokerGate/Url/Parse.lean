import BrokerGate.Url.Basic

/-! Reading a URL that stands for itself: controls and blanks around it and tabs and line ends
inside are dropped, then scheme, authority, path, query and fragment are taken off in turn. -/
namespace BrokerGate.Url
open Text

/-- What a scheme says about the rest of its URLs. -/
inductive SchemeKind
  | web (defaultPort : Nat)
  | file
  | other
  deriving DecidableEq

def SchemeKind.ofName (s : List Char) : SchemeKind :=
  match String.ofList s with
  | "http" => .web 80
  | "https" => .web 443
  | "ws" => .web 80
  | "wss" => .web 443
  | "ftp" => .web 21
  | "file" => .file
  | _ => .other

def SchemeKind.isSpecial : SchemeKind → Bool
  | .other => false
  | _ => true

def SchemeKind.defaultPort : SchemeKind → Option Nat
  | .web p => some p
  | _ => none

def isStripped (c : Char) : Bool := c = '\t' || c = '\n' || c = '\r'

def clean (raw : List Char) : List Char :=
  (trimBy (·.toNat ≤ 0x20) raw).filter fun c => !isStripped c

def isSchemeChar (c : Char) : Bool := c.isAlphanum || c = '+' || c = '-' || c = '.'

/-- The scheme in lower case and what follows its colon. -/
def cutScheme (cs : List Char) : Option (List Char × List Char) :=
  match cutFirst ':' cs with
  | some (s, rest) =>
    if s.head?.any Char.isAlpha && s.all isSchemeChar then some (s.map Char.toLower, rest) else none
  | none => none

def isSlash (c : Char) : Bool := c = '/' || c = '\\'

/-- Characters that end an authority. -/
def endsAuthority (special : Bool) (c : Char) : Bool :=
  c = '/' || c = '?' || c = '#' || (special && c = '\\')

/-- Path text, query and fragment of what follows an authority. -/
structure Tail where
  path : List Char
  query : Option (List Char)
  fragment : Option (List Char)

/-- What stands before a mark, and the rest behind it, escaped. -/
def cutEscaped (mark : Char) (set : EscapeSet) (cs : List Char) : List Char × Option (List Char) :=
  match cutFirst mark cs with
  | some (a, b) => (a, some (escape set b))
  | none => (cs, none)

def Tail.ofText (special : Bool) (cs : List Char) : Tail :=
  let (front, fragment) := cutEscaped '#' .fragment cs
  let (path, query) := cutEscaped '?' (if special then .specialQuery else .query) front
  ⟨path, query, fragment⟩

/-- The text up to a colon outside brackets. -/
def hostSpan (inBrackets : Bool) : List Char → List Char
  | [] => []
  | c :: cs =>
    if c = ':' && !inBrackets then []
    else c :: hostSpan (if c = '[' then true else if c = ']' then false else inBrackets) cs

/-- A port that is the scheme's own is left out. What follows the digits has to be empty, a
backslash apart, which starts the path of a scheme that is not special. -/
def readPort (kind : SchemeKind) (cs : List Char) :
    Except UrlError (Option Nat × List Char) :=
  let digits := cs.takeWhile Char.isDigit
  let rest := cs.dropWhile Char.isDigit
  let port := digitsValue 10 digits
  if port > 65535 then .error .invalidPort
  else if rest.isEmpty || rest.head? = some '\\' then
    .ok (if digits.isEmpty || kind.defaultPort = some port then none else some port, rest)
  else .error .invalidPort

/-- User name and password, each escaped; the first colon parts them. -/
def readUserinfo (cs : List Char) : List Char × List Char :=
  match cutFirst ':' cs with
  | some (u, p) => (escape .userinfo u, escape .userinfo p)
  | none => (escape .userinfo cs, [])

/-- What stands before the last `@`, and the host with its port. -/
def cutUserinfo (text : List Char) : List Char × List Char :=
  match cutLast '@' text with
  | some p => p
  | none => ([], text)

/-- Only a special scheme insists on a host. -/
def readHost (kind : SchemeKind) (text : List Char) : Except UrlError Host :=
  if kind.isSpecial then
    if text.isEmpty then .error .emptyHost else Host.parse text
  else Host.parsePlain text

/-- What follows a host is nothing or a port. -/
def readPortPart (kind : SchemeKind) : List Char → Except UrlError (Option Nat × List Char)
  | ':' :: digits => readPort kind digits
  | _ => .ok (none, [])

/-- Reads the text between the slashes and the path; the second part is what belongs to the path
already. -/
def readAuthority (kind : SchemeKind) (text : List Char) (more : Bool) :
    Except UrlError (Authority × List Char) := do
  let (userinfo, hostPort) := cutUserinfo text
  if text.head? = some '@' && userinfo.isEmpty && hostPort.isEmpty && more then throw .emptyHost
  let (username, password) := readUserinfo userinfo
  let hostText := hostSpan false hostPort
  let after := hostPort.drop hostText.length
  let host ← readHost kind hostText
  if host.isEmpty && !(after.isEmpty && username.isEmpty && password.isEmpty) then throw .emptyHost
  let (port, rest) ← readPortPart kind after
  pure (⟨username, password, host, port⟩, rest)

/-- The path of a hierarchy. A special scheme always has one. -/
def readPath (special : Bool) (cs : List Char) : List Segment :=
  match cs with
  | [] => if special then [[]] else []
  | c :: rest =>
    if c = '/' || (special && c = '\\') then readSegments special rest else readSegments special cs

def readHierarchy (scheme : List Char) (kind : SchemeKind) (cs : List Char) :
    Except UrlError Url := do
  let special := kind.isSpecial
  let text := cs.takeWhile fun c => !endsAuthority special c
  let after := cs.dropWhile fun c => !endsAuthority special c
  let (authority, extra) ← readAuthority kind text (!after.isEmpty)
  let tail := Tail.ofText special (extra ++ after)
  pure ⟨scheme, some authority, .segments (readPath special tail.path), tail.query, tail.fragment⟩

/-- Drive letters are written with a colon, and empty segments in front are dropped. -/
def fileSegments (cs : List Char) : List Segment × Bool :=
  let segments := readSegments true cs
  let kept := segments.dropWhile List.isEmpty
  match kept with
  | [] => ([[]], false)
  | s :: rest =>
    match s with
    | [c, d] => if isDriveLetter [c, d] then ([c, ':'] :: rest, true) else (kept, false)
    | _ => (kept, false)

/-- A file URL has a host only after two slashes, and none before a drive letter. -/
def readFileHost (cs : List Char) : Except UrlError (Host × List Char) :=
  let slashes := (cs.take 2).takeWhile isSlash
  let hostText := (cs.drop 2).takeWhile fun c => !endsAuthority true c
  if slashes.length = 2 && !isDriveLetter hostText then do
    let rest := cs.drop (2 + hostText.length)
    if hostText.isEmpty then pure (.name [], rest)
    else
      let host ← Host.parse hostText
      pure (if host = .name "localhost".toList then .name [] else host, rest)
  else pure (.name [], cs.drop slashes.length)

def readFile (cs : List Char) : Except UrlError Url := do
  let (host, rest) ← readFileHost cs
  let tail := Tail.ofText true rest
  let body := match tail.path with
    | c :: r => if isSlash c then r else c :: r
    | [] => []
  let (segments, drive) := fileSegments body
  let authority : Authority := ⟨[], [], if drive then .name [] else host, none⟩
  pure ⟨"file".toList, some authority, .segments segments, tail.query, tail.fragment⟩

def readOther (scheme cs : List Char) : Except UrlError Url :=
  match cs with
  | '/' :: '/' :: rest => readHierarchy scheme .other rest
  | '/' :: rest =>
    let tail := Tail.ofText false rest
    .ok ⟨scheme, none, .segments (readSegments false tail.path), tail.query, tail.fragment⟩
  | _ =>
    let tail := Tail.ofText false cs
    .ok ⟨scheme, none, .rootless (escape .controls tail.path), tail.query, tail.fragment⟩

def parseClean (cs : List Char) : Except UrlError Url :=
  match cutScheme cs with
  | none => .error .relativeWithoutBase
  | some (scheme, rest) =>
    match SchemeKind.ofName scheme with
    | .web p => readHierarchy scheme (.web p) (rest.dropWhile isSlash)
    | .file => readFile rest
    | .other => readOther scheme rest

def parse (raw : List Char) : Except UrlError Url := parseClean (clean raw)

end BrokerGate.Url
