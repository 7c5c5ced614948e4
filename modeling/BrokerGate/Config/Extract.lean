import BrokerGate.Config.Mismatch
import BrokerGate.Config.Settings
import BrokerGate.Decimal.Read

/-! Reading typed settings out of untyped ones. Keys are taken in sorted order and the first misfit
wins; keys that mean nothing are passed over. -/
namespace BrokerGate.Config
open Text Decimal

private def stringExpected : String := "a string"

def readString : Value → Read String
  | .scalar _ (.text s) => .ok s
  | .scalar _ (.char c) => .ok (String.singleton c)
  | v => v.misfit (.type v.found stringExpected)

/-- A whole number up to a bound; `name` is the width that messages give. -/
def readNumber (name : String) (bound : Nat) (v : Value) : Read Nat :=
  match v with
  | .scalar _ (.unsigned n) =>
    if n ≤ bound then .ok n else v.misfit (.value v.found name)
  | .scalar _ (.signed n) =>
    if 0 ≤ n && n ≤ bound then .ok n.toNat else v.misfit (.value v.found name)
  | _ => v.misfit (.type v.found name)

def readOption {α : Type} (read : Value → Read α) : Value → Read (Option α)
  | .scalar _ .unit => .ok none
  | v => (read v).map some

def formatNames : List String := ["pretty", "json"]

def formatNamed (v : Value) (name : String) : Read LogFormat :=
  match name with
  | "pretty" => .ok .pretty
  | "json" => .ok .json
  | _ => v.misfit (.variant name formatNames)

def readUnit : Value → Read Unit
  | .scalar _ .unit => .ok ()
  | v => v.misfit (.type v.found "unit")

/-- A name, or a table whose first key is one and has no value. -/
def readFormat (v : Value) : Read LogFormat :=
  match v with
  | .scalar _ (.text s) => formatNamed v s
  | .table _ [] => v.misfit (.type .table "enum")
  | .table _ ((k, w) :: _) =>
    match formatNamed v k with
    | .ok f => (readKey k readUnit w).map fun _ => f
    | .error m => .error (m.under k)
  | _ => v.misfit (.type v.found "enum LogFormat")

def readLogEntry (s : LogSettings) (e : String × Value) : Read LogSettings :=
  match e.1 with
  | "level" => (readKey e.1 readString e.2).map fun l => { s with level := l }
  | "format" => (readKey e.1 readFormat e.2).map fun f => { s with format := f }
  | _ => .ok s

/-- A table, or a list of the level and the format. -/
def readLog (v : Value) : Read LogSettings :=
  match v with
  | .table _ es => es.foldlM readLogEntry .default
  | .list _ items => do
    let level ← match items with
      | a :: _ => readKey "0" readString a
      | [] => pure LogSettings.default.level
    let format ← match items with
      | _ :: b :: _ => readKey "1" readFormat b
      | _ => pure LogSettings.default.format
    pure ⟨level, format⟩
  | _ => v.misfit (.type v.found "struct LogConfig")

/-! Token settings name their kind in one of their keys, so the others are looked at only once it is
known, and a misfit among them counts for the whole. -/

def tokenKinds : List String := ["static", "command", "metadata"]

inductive TokenKind
  | fixed
  | command
  | metadata
  deriving DecidableEq

def TokenKind.ofIndex? : Nat → Option TokenKind
  | 0 => some .fixed
  | 1 => some .command
  | 2 => some .metadata
  | _ => none

private def identifierExpected : String := "variant identifier"

def kindNamed (v : Value) (name : String) : Read TokenKind :=
  match name with
  | "static" => .ok .fixed
  | "command" => .ok .command
  | "metadata" => .ok .metadata
  | _ => v.misfit (.variant name tokenKinds)

/-- `byIndex` says whether a number may stand for a name. -/
def readTokenKind (byIndex : Bool) (v : Value) : Read TokenKind :=
  match v with
  | .scalar _ (.text s) => kindNamed v s
  | .scalar _ (.char c) => kindNamed v (String.singleton c)
  | .scalar _ (.unsigned n) =>
    if byIndex then
      match TokenKind.ofIndex? n with
      | some k => .ok k
      | none => v.misfit (.value v.found "variant index 0 <= i < 3")
    else v.misfit (.type v.found identifierExpected)
  | _ => v.misfit (.type v.found identifierExpected)

mutual

/-- Numbers wider than 64 bits fit no setting at all. -/
def narrow : Value → Read Unit
  | .scalar o (.wide n) => .error ⟨[], o, .type (.scalar (.wide n)) "any value"⟩
  | .scalar o (.wideSigned n) => .error ⟨[], o, .type (.scalar (.wideSigned n)) "any value"⟩
  | .scalar _ _ => .ok ()
  | .list _ items => narrowItems 0 items
  | .table _ es => narrowEntries es

def narrowItems (i : Nat) : List Value → Read Unit
  | [] => .ok ()
  | v :: rest =>
    match narrow v with
    | .error m => .error (m.under (toString i))
    | .ok _ => narrowItems (i + 1) rest

def narrowEntries : List (String × Value) → Read Unit
  | [] => .ok ()
  | (k, v) :: rest =>
    match narrow v with
    | .error m => .error (m.under k)
    | .ok _ => narrowEntries rest

end

def heldString : Value → Except Mismatch String
  | .scalar _ (.text s) => .ok s
  | v => .error (.type v.found stringExpected)

def heldStrings : Value → Except Mismatch (List String)
  | .list _ items => items.mapM heldString
  | v => .error (.type v.found "a sequence")

def heldOption : Value → Except Mismatch (Option String)
  | .scalar _ .unit => .ok none
  | v => (heldString v).map some

/-- The fields of all kinds, as far as they were seen. -/
structure TokenFields where
  token : Option String := none
  program : Option String := none
  args : List String := []
  url : Option String := none

def heldField (kind : TokenKind) (f : TokenFields) (e : String × Value) :
    Except Mismatch TokenFields :=
  match kind, e.1 with
  | .fixed, "token" => (heldString e.2).map fun s => { f with token := some s }
  | .command, "command" => (heldString e.2).map fun s => { f with program := some s }
  | .command, "args" => (heldStrings e.2).map fun a => { f with args := a }
  | .metadata, "url" => (heldOption e.2).map fun u => { f with url := u }
  | _, _ => .ok f

def finishToken (kind : TokenKind) (f : TokenFields) : Except Mismatch TokenSettings :=
  match kind with
  | .fixed =>
    match f.token with
    | some t => .ok (.fixed t)
    | none => .error (.missing "token")
  | .command =>
    match f.program with
    | some p => .ok (.command p f.args)
    | none => .error (.missing "command")
  | .metadata => .ok (.metadata f.url)

def fromEntries (kind : TokenKind) (es : Entries) : Except Mismatch TokenSettings := do
  finishToken kind (← es.foldlM (heldField kind) {})

def tooLong (n expected : Nat) : Mismatch :=
  .length n (toString expected ++ (if expected = 1 then " element" else " elements") ++
    " in sequence")

def fromItems (kind : TokenKind) (items : List Value) : Except Mismatch TokenSettings :=
  match kind with
  | .fixed =>
    match items with
    | [] => .error (.length 0 "struct variant TokenSourceConfig::Static with 1 element")
    | v :: rest => do
      let token ← heldString v
      if rest.isEmpty then pure (.fixed token) else throw (tooLong items.length 1)
  | .command =>
    match items with
    | [] => .error (.length 0 "struct variant TokenSourceConfig::Command with 2 elements")
    | v :: rest => do
      let program ← heldString v
      let args ← match rest with
        | [] => pure []
        | w :: _ => heldStrings w
      if items.length ≤ 2 then pure (.command program args) else throw (tooLong items.length 2)
  | .metadata =>
    match items with
    | [] => .ok (.metadata none)
    | v :: rest => do
      let url ← heldOption v
      if rest.isEmpty then pure (.metadata url) else throw (tooLong items.length 1)

def tokenEntry (byIndex : Bool) (kind : Option TokenKind) (e : String × Value) :
    Read (Option TokenKind) :=
  if e.1 = "type" then (readKey e.1 (readTokenKind byIndex) e.2).map some
  else (readKey e.1 narrow e.2).map fun _ => kind

def readToken (byIndex : Bool) (v : Value) : Read TokenSettings :=
  let whole (r : Except Mismatch TokenSettings) : Read TokenSettings :=
    match r with
    | .ok t => .ok t
    | .error m => v.misfit m
  match v with
  | .table _ es => do
    match ← es.foldlM (tokenEntry byIndex) none with
    | none => v.misfit (.missing "type")
    | some kind => whole (fromEntries kind es)
  | .list _ items =>
    match items with
    | [] => v.misfit (.missing "type")
    | first :: rest => do
      let kind ← readKey "0" (readTokenKind byIndex) first
      narrowItems 1 rest
      whole (fromItems kind rest)
  | _ => v.misfit (.type v.found "internally tagged enum TokenSourceConfig")

def readEntry (s : Settings) (e : String × Value) : Read Settings :=
  let (key, v) := e
  match key with
  | "port" => (readKey key (readNumber "u16" maxPort) v).map fun p => { s with port := p }
  | "host" => (readKey key readString v).map fun h => { s with host := h }
  | "backend_url" =>
    (readKey key (readOption readString) v).map fun u => { s with backendUrl := u }
  | "proxy_url" => (readKey key (readOption readString) v).map fun u => { s with proxyUrl := u }
  | "timeout_secs" =>
    (readKey key (readOption (readNumber "u64" maxSeconds)) v).map fun t =>
      { s with timeoutSecs := t }
  | "token_source" =>
    (readKey key (readOption (readToken true)) v).map fun t => { s with tokenSource := t }
  | "log" => (readKey key readLog v).map fun l => { s with log := l }
  | _ => .ok s

def Settings.ofValue (v : Value) : Read Settings :=
  match v with
  | .table _ es => es.foldlM readEntry .default
  | _ => v.misfit (.type v.found "struct Config")

/-! The same out of a JSON document. -/

private def numberOfText (cs : List Char) : Scalar :=
  match integer? 10 cs with
  | some n =>
    if 0 ≤ n && n ≤ 0xFFFFFFFFFFFFFFFF && cs.head? ≠ some '-' then .unsigned n.toNat
    else if -0x8000000000000000 ≤ n && n < 0 then .signed n
    else .real ((double? cs).getD ⟨false, .nan⟩)
  | none => .real ((double? cs).getD ⟨false, .nan⟩)

mutual

def Value.ofJson : Json → Value
  | .null => .scalar .text .unit
  | .bool b => .scalar .text (.flag b)
  | .number t => .scalar .text (numberOfText t)
  | .string s => .scalar .text (.text s)
  | .array items => .list .text (itemsOfJson items)
  | .object members => .table .text (membersOfJson [] members)

def itemsOfJson : List Json → List Value
  | [] => []
  | j :: rest => Value.ofJson j :: itemsOfJson rest

def membersOfJson (acc : Entries) : List (String × Json) → Entries
  | [] => acc
  | (k, j) :: rest => membersOfJson (Entries.put k (Value.ofJson j) acc) rest

end

def TokenSettings.ofJson (j : Json) : Except Mismatch TokenSettings :=
  match readToken false (Value.ofJson j) with
  | .ok t => .ok t
  | .error m => .error m.mismatch

end BrokerGate.Config
