import BrokerGate.Json

/-! Reading JSON documents. Numbers keep their spelling; a string with an unpaired surrogate escape
is refused. -/
namespace BrokerGate.Json
open Text

def isJsonBlank (c : Char) : Bool := c = ' ' || c = '\n' || c = '\r' || c = '\t'

def skipBlank (cs : List Char) : List Char := cs.dropWhile isJsonBlank

def hexQuad? : List Char → Option (Nat × List Char)
  | a :: b :: c :: d :: rest =>
    match hexDigit? a, hexDigit? b, hexDigit? c, hexDigit? d with
    | some w, some x, some y, some z => some (((w * 16 + x) * 16 + y) * 16 + z, rest)
    | _, _, _, _ => none
  | _ => none

def isHigh (n : Nat) : Bool := 0xD800 ≤ n && n ≤ 0xDBFF

def isLow (n : Nat) : Bool := 0xDC00 ≤ n && n ≤ 0xDFFF

/-- The character of an escape after `\u`; two surrogates make one. -/
def unicodeEscape? (cs : List Char) : Option (Char × List Char) :=
  match hexQuad? cs with
  | none => none
  | some (n, rest) =>
    if isHigh n then
      match rest with
      | '\\' :: 'u' :: more =>
        match hexQuad? more with
        | some (m, rest) =>
          if isLow m then
            some (Char.ofNat (0x10000 + (n - 0xD800) * 1024 + (m - 0xDC00)), rest)
          else none
        | none => none
      | _ => none
    else if isLow n then none
    else some (Char.ofNat n, rest)

def escape? : List Char → Option (Char × List Char)
  | '"' :: r => some ('"', r)
  | '\\' :: r => some ('\\', r)
  | '/' :: r => some ('/', r)
  | 'b' :: r => some ('\x08', r)
  | 'f' :: r => some ('\x0c', r)
  | 'n' :: r => some ('\n', r)
  | 'r' :: r => some ('\r', r)
  | 't' :: r => some ('\t', r)
  | 'u' :: r => unicodeEscape? r
  | _ => none

/-- Reads up to the closing quote; `acc` is what was read, reversed. -/
def stringBody (fuel : Nat) (acc cs : List Char) : Option (String × List Char) :=
  match fuel, cs with
  | fuel + 1, c :: rest =>
    if c = '"' then some (String.ofList acc.reverse, rest)
    else if c = '\\' then
      match escape? rest with
      | some (d, rest) => stringBody fuel (d :: acc) rest
      | none => none
    else if c.toNat < 0x20 then none
    else stringBody fuel (c :: acc) rest
  | _, _ => none

def digitRun (cs : List Char) : List Char × List Char :=
  (cs.takeWhile Char.isDigit, cs.dropWhile Char.isDigit)

/-- One of the signs, if it comes first. -/
def signIn (signs cs : List Char) : List Char × List Char :=
  match cs with
  | c :: rest => if signs.contains c then ([c], rest) else ([], cs)
  | [] => ([], [])

/-- Digits without a leading zero. -/
def wholePart? (cs : List Char) : Option (List Char × List Char) :=
  let (ds, rest) := digitRun cs
  if ds.isEmpty || (ds.length > 1 && ds.head? = some '0') then none else some (ds, rest)

def fractionPart? (cs : List Char) : Option (List Char × List Char) :=
  match cs with
  | '.' :: r =>
    let (ds, rest) := digitRun r
    if ds.isEmpty then none else some ('.' :: ds, rest)
  | _ => some ([], cs)

def exponentPart? (cs : List Char) : Option (List Char × List Char) :=
  match cs with
  | e :: r =>
    if e = 'e' || e = 'E' then
      let (sign, r) := signIn ['+', '-'] r
      let (ds, rest) := digitRun r
      if ds.isEmpty then none else some (e :: (sign ++ ds), rest)
    else some ([], cs)
  | [] => some ([], [])

/-- Sign, whole part, fraction, exponent. -/
def number? (cs : List Char) : Option (List Char × List Char) := do
  let (sign, cs) := signIn ['-'] cs
  let (whole, cs) ← wholePart? cs
  let (fraction, cs) ← fractionPart? cs
  let (exponent, cs) ← exponentPart? cs
  some (sign ++ (whole ++ (fraction ++ exponent)), cs)

mutual

def readValue (fuel : Nat) (cs : List Char) : Option (Json × List Char) :=
  match fuel with
  | 0 => none
  | fuel + 1 =>
    match skipBlank cs with
    | '"' :: rest => (stringBody (rest.length + 1) [] rest).map fun p => (.string p.1, p.2)
    | '[' :: rest =>
      match skipBlank rest with
      | ']' :: rest => some (.array [], rest)
      | rest => (readItems fuel rest).map fun p => (.array p.1, p.2)
    | '\x7b' :: rest =>
      match skipBlank rest with
      | '\x7d' :: rest => some (.object [], rest)
      | rest => (readMembers fuel rest).map fun p => (.object p.1, p.2)
    | 'n' :: 'u' :: 'l' :: 'l' :: rest => some (.null, rest)
    | 't' :: 'r' :: 'u' :: 'e' :: rest => some (.bool true, rest)
    | 'f' :: 'a' :: 'l' :: 's' :: 'e' :: rest => some (.bool false, rest)
    | rest => (number? rest).map fun p => (.number p.1, p.2)

def readItems (fuel : Nat) (cs : List Char) : Option (List Json × List Char) :=
  match fuel with
  | 0 => none
  | fuel + 1 =>
    match readValue fuel cs with
    | none => none
    | some (j, rest) =>
      match skipBlank rest with
      | ',' :: rest => (readItems fuel rest).map fun p => (j :: p.1, p.2)
      | ']' :: rest => some ([j], rest)
      | _ => none

def readMembers (fuel : Nat) (cs : List Char) :
    Option (List (String × Json) × List Char) :=
  match fuel with
  | 0 => none
  | fuel + 1 =>
    match skipBlank cs with
    | '"' :: rest =>
      match stringBody (rest.length + 1) [] rest with
      | none => none
      | some (name, rest) =>
        match skipBlank rest with
        | ':' :: rest =>
          match readValue fuel rest with
          | none => none
          | some (j, rest) =>
            match skipBlank rest with
            | ',' :: rest => (readMembers fuel rest).map fun p => ((name, j) :: p.1, p.2)
            | '\x7d' :: rest => some ([(name, j)], rest)
            | _ => none
        | _ => none
    | _ => none

end

/-- The document that a text is, blanks around it allowed. -/
def parse? (cs : List Char) : Option Json :=
  match readValue (cs.length + 1) cs with
  | some (j, rest) => if rest.all isJsonBlank then some j else none
  | none => none

/-- The value of a member; of several the last. -/
def member? (j : Json) (name : String) : Option Json :=
  match j with
  | object members => (members.reverse.find? (·.1 = name)).map (·.2)
  | _ => none

def string? : Json → Option String
  | string s => some s
  | _ => none

end BrokerGate.Json
