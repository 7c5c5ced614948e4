import BrokerGate.Decimal.Read
import BrokerGate.Terminal.Shell.Reply
import BrokerGate.Text.CharClass

/-! Utilities that read files or their input. -/
namespace BrokerGate.Terminal.Shell

/-- What a command reads when it names no file. -/
structure Input where
  text : Octets
  /-- The input is a file rather than a pipe or a device. -/
  isFile : Bool

namespace Utility
open Decimal Text

private def isWhite (c : Char) : Bool := c = ' ' || ('\t' ≤ c && c ≤ '\r')

/-- The content of an operand; a dash is the input. -/
private def source? (fs : Files) (input : Input) (name : Octets) : Option Octets :=
  if name = ['-'] then some input.text else fs.read? name

private def isTame (c : Char) : Bool :=
  c.isAlphanum || "%+,-./@_".toList.contains c

/-- A file name in a complaint, quoted where a shell would need it. -/
private def named (n : Octets) : Octets :=
  if !n.isEmpty && n.all isTame then n else '\'' :: n ++ ['\'']

private def unreadable (fs : Files) (n : Octets) : Octets :=
  named n ++ ": ".toList ++ (fs.whyUnreadable n).toList

def cat (fs : Files) (input : Input) (args : List Octets) : Reply :=
  match Called.read "AbeEnstTuv" "" false args with
  | .error e => .failed fs 1 e
  | .ok k =>
    (if k.operands.isEmpty then [['-']] else k.operands).foldl (fun r n =>
      match source? fs input n with
      | some text => { r with out := r.out ++ text }
      | none => r.complain (unreadable fs n)) (.done fs [])

private def firstLines (n : Nat) (cs : Octets) : Octets :=
  match n, cs with
  | 0, _ => []
  | _, [] => []
  | n + 1, c :: rest => c :: firstLines (if c = '\n' then n else n + 1) rest

private def lineCount (cs : Octets) : Nat :=
  cs.count '\n' + (if cs.getLast?.any (· ≠ '\n') then 1 else 0)

private structure HeadCount where
  inBytes : Bool
  /-- The number counts what is left out at the end. -/
  fromEnd : Bool
  number : Nat

private def unitSize? : String → Option Nat
  | "" => some 1
  | "b" => some 512
  | "kB" => some 1000
  | "k" | "K" | "KiB" => some 1024
  | "MB" => some 1000000
  | "m" | "M" | "MiB" => some 1048576
  | _ => none

private def headCount (inBytes : Bool) (cs : Octets) : Except Complaint HeadCount :=
  let (fromEnd, body) := match cs with
    | '-' :: r => (true, r)
    | '+' :: r => (false, r)
    | r => (false, r)
  let ds := body.takeWhile Char.isDigit
  match natural? 10 ds, unitSize? (String.ofList (body.drop ds.length)) with
  | some n, some size => .ok ⟨inBytes, fromEnd, n * size⟩
  | _, _ =>
    .error (.of ("invalid number of " ++ (if inBytes then "bytes: '" else "lines: '") ++
      String.ofList cs ++ "'"))

private def HeadCount.take (c : HeadCount) (cs : Octets) : Octets :=
  let size := if c.inBytes then cs.length else lineCount cs
  let n := if c.fromEnd then size - c.number else c.number
  if c.inBytes then cs.take n else firstLines n cs

/-- A number right after the dash of the first word counts lines. -/
private def modernized (args : List Octets) : List Octets :=
  match args with
  | ('-' :: d :: ds) :: rest =>
    if (d :: ds).all Char.isDigit then ['-', 'n'] :: (d :: ds) :: rest else args
  | _ => args

private def headFrom (fs : Files) (input : Input) (c : HeadCount) (titled : Bool) (r : Reply)
    (n : Octets) : Reply :=
  let title : Octets :=
    if titled then
      (if r.out.isEmpty then "==> " else "\n==> ").toList ++
        (if n = ['-'] then "standard input".toList else n) ++ " <==\n".toList
    else []
  if Files.isEndless n then { r with out := r.out ++ title ++ List.replicate c.number '\x00' }
  else
    match source? fs input n with
    | some text => { r with out := r.out ++ title ++ c.take text }
    | none =>
      if fs.isDirectory n then
        { r with out := r.out ++ title }.complain
          ("error reading '".toList ++ n ++ "': Is a directory".toList)
      else
        r.complain ("cannot open '".toList ++ n ++ "' for reading: ".toList ++
          (fs.whyUnreadable n).toList)

def head (fs : Files) (input : Input) (args : List Octets) : Reply :=
  match Called.read "qvz" "cn" false (modernized args) with
  | .error e => .failed fs 1 e
  | .ok k =>
    let counts := (k.options.filter fun o => o.1 = 'c' || o.1 = 'n').map fun o =>
      headCount (o.1 = 'c') o.2
    match counts.find? fun c => !c.isOk with
    | some (.error e) => .failed fs 1 e
    | _ =>
      let count := match counts.getLast? with
        | some (.ok c) => c
        | _ => ⟨false, false, 10⟩
      let names := if k.operands.isEmpty then [['-']] else k.operands
      let titled := (names.length > 1 || k.has 'v') && !k.has 'q'
      names.foldl (headFrom fs input count titled) (.done fs [])

private def classMembers? (name : Octets) : Option Octets :=
  let among (f : Char → Bool) : Option Octets :=
    some (((List.range 256).map Char.ofNat).filter f)
  match String.ofList name with
  | "upper" => among Char.isUpper
  | "lower" => among Char.isLower
  | "digit" => among Char.isDigit
  | "alpha" => among Char.isAlpha
  | "alnum" => among Char.isAlphanum
  | "space" => among isWhite
  | "blank" => among fun c => c = ' ' || c = '\t'
  | "punct" => among fun c => '!' ≤ c && c ≤ '~' && !c.isAlphanum
  | "cntrl" => among fun c => c < ' ' || c = '\x7f'
  | "print" => among fun c => ' ' ≤ c && c ≤ '~'
  | "graph" => among fun c => '!' ≤ c && c ≤ '~'
  | "xdigit" => among fun c => (hexDigit? c).isSome
  | _ => none

/-- One character of a set, escapes resolved. -/
private def setChar? (cs : Octets) : Option (Char × Octets) :=
  match cs with
  | '\\' :: rest =>
    let ds := (rest.take 3).takeWhile fun c => '0' ≤ c && c ≤ '7'
    let value := (natural? 8 ds).getD 0
    if !ds.isEmpty && value < 256 then some (Char.ofNat value, rest.drop ds.length)
    else if !ds.isEmpty then some (Char.ofNat (value / 8), rest.drop 2)
    else
      match rest with
      | 'n' :: r => some ('\n', r)
      | 't' :: r => some ('\t', r)
      | 'r' :: r => some ('\r', r)
      | 'a' :: r => some ('\x07', r)
      | 'b' :: r => some ('\x08', r)
      | 'f' :: r => some ('\x0c', r)
      | 'v' :: r => some ('\x0b', r)
      | c :: r => some (c, r)
      | [] => some ('\\', [])
  | c :: r => some (c, r)
  | [] => none

/-- A set of characters in order, as it was written. -/
private inductive SetPiece
  | chars (cs : Octets)
  | charClass (name : Octets) (members : Octets)
  | filler (c : Char)

/-- A bracket form at the start: a class, an equivalence, or a repetition. -/
private def bracketed? (cs : Octets) : Option (Except Complaint SetPiece × Octets) :=
  match cs with
  | '[' :: ':' :: rest =>
    let name := rest.takeWhile (· ≠ ':')
    match rest.drop name.length with
    | ':' :: ']' :: after =>
      match classMembers? name with
      | some members => some (.ok (.charClass name members), after)
      | none =>
        some (.error (.of ("invalid character class '" ++ String.ofList name ++ "'")), after)
    | _ => none
  | '[' :: '=' :: c :: '=' :: ']' :: after => some (.ok (.chars [c]), after)
  | '[' :: c :: '*' :: rest =>
    let ds := rest.takeWhile Char.isDigit
    match rest.drop ds.length with
    | ']' :: after =>
      match natural? (if ds.head? = some '0' then 8 else 10) ds with
      | some (n + 1) => some (.ok (.chars (List.replicate (n + 1) c)), after)
      | _ => some (.ok (.filler c), after)
    | _ => none
  | _ => none

private def readSet (fuel : Nat) (cs : Octets) : Except Complaint (List SetPiece) :=
  match fuel with
  | 0 => .ok []
  | fuel + 1 =>
    match bracketed? cs with
    | some (.error e, _) => .error e
    | some (.ok piece, after) => (readSet fuel after).map (piece :: ·)
    | none =>
      match setChar? cs with
      | none => .ok []
      | some (a, rest) =>
        match rest with
        | '-' :: tail =>
          match setChar? tail with
          | some (b, after) =>
            if b < a then
              .error (.of ("range-endpoints of '" ++ String.ofList [a, '-', b] ++
                "' are in reverse collating sequence order"))
            else
              let run := (List.range (b.toNat + 1 - a.toNat)).map fun i => Char.ofNat (a.toNat + i)
              (readSet fuel after).map (.chars run :: ·)
          | none => .ok [.chars [a, '-']]
        | _ => (readSet fuel rest).map (.chars [a] :: ·)

/-- All characters of a set; a filler stands as often as the set falls short of a size. -/
private def members (size : Nat) (pieces : List SetPiece) : Octets :=
  let fixed := (pieces.map fun
    | .chars cs => cs.length
    | .charClass _ cs => cs.length
    | .filler _ => 0).foldl (· + ·) 0
  pieces.flatMap fun
    | .chars cs => cs
    | .charClass _ cs => cs
    | .filler c => List.replicate (size - fixed) c

private def squeeze (set : Octets) (previous : Option Char) : Octets → Octets
  | [] => []
  | c :: rest =>
    if previous = some c && set.contains c then squeeze set previous rest
    else c :: squeeze set (some c) rest

private def trOperands (k : Called) : Except Complaint Unit :=
  let deleting := k.has 'd'
  let squeezing := k.has 's'
  let least := if deleting = squeezing then 2 else 1
  let most := if deleting && !squeezing then 1 else 2
  let missing : String :=
    if deleting then "Two strings must be given when both deleting and squeezing repeats."
    else "Two strings must be given when translating."
  let extra (w : Octets) : String := "extra operand '" ++ String.ofList w ++ "'"
  match k.operands with
  | [] => .error (.ofCall "missing operand")
  | [a] =>
    if least = 1 then .ok ()
    else .error (.ofCall ("missing operand after '" ++ String.ofList a ++ "'\n" ++ missing))
  | [_, b] =>
    if most = 2 then .ok ()
    else
      .error (.ofCall (extra b ++
        "\nOnly one string may be given when deleting without squeezing repeats."))
  | _ :: b :: c :: _ => .error (.ofCall (extra (if most = 2 then c else b)))

private def isCase (name : Octets) : Bool := name = "upper".toList || name = "lower".toList

private def translated (k : Called) (input first : Octets) (second : List SetPiece) :
    Except Complaint Octets :=
  let second' := members first.length second
  let strange := second.any fun
    | .charClass name _ => !isCase name
    | _ => false
  if strange then
    .error (.of ("when translating, the only character classes that may appear in\n" ++
      "string2 are 'upper' and 'lower'"))
  else if second'.isEmpty && !k.has 't' then
    .error (.of "when not truncating set1, string2 must be non-empty")
  else
    let first := if k.has 't' then first.take second'.length else first
    let last := second'.getLast?.getD ' '
    let table := (first.zipIdx.map fun p => (p.1, second'.getD p.2 last)).reverse
    let mapped := input.map fun c => ((table.find? (·.1 = c)).map (·.2)).getD c
    .ok (if k.has 's' then squeeze second' none mapped else mapped)

private def trText (k : Called) (input : Octets) : Except Complaint Octets := do
  trOperands k
  let one := k.operands.headD []
  let two := (k.operands.drop 1).headD []
  let firstPieces ← readSet (one.length + 1) one
  let second ← readSet (two.length + 1) two
  let isFiller : SetPiece → Bool := fun
    | .filler _ => true
    | _ => false
  if firstPieces.any isFiller then
    throw (.of "the [c*] repeat construct may not appear in string1")
  let first := members 0 firstPieces
  let first := if k.has 'c' || k.has 'C' then
    ((List.range 256).map Char.ofNat).filter fun c => !first.contains c
  else first
  if k.has 'd' then
    let kept := input.filter fun c => !first.contains c
    return if k.has 's' then squeeze (members 0 second) none kept else kept
  else if k.operands.length = 1 then return squeeze first none input
  else translated k input first second

def tr (fs : Files) (input : Input) (args : List Octets) : Reply :=
  match Called.read "cCdst" "" true args with
  | .error e => .failed fs 1 e
  | .ok k =>
    match trText k input.text with
    | .ok out => .done fs out
    | .error e => .failed fs 1 e

/-- A word begins with a visible character and goes on to the next white one. -/
private def wordCount (inWord : Bool) (n : Nat) : Octets → Nat
  | [] => n
  | c :: rest =>
    if isWhite c then wordCount false n rest
    else if inWord || c < '!' || c > '~' then wordCount inWord n rest
    else wordCount true (n + 1) rest

private def longestLine (cs : Octets) : Nat :=
  ((pieces '\n' cs).map (·.length)).foldl max 0

private def padLeft (width : Nat) (cs : Octets) : Octets :=
  List.replicate (width - cs.length) ' ' ++ cs

/-- Counts of one text: lines, words, characters, bytes, and the longest line. -/
private def counts (k : Called) (cs : Octets) : List Nat :=
  let wanted (c : Char) (usual : Bool) : Bool := k.has c || (usual && k.options.isEmpty)
  (if wanted 'l' true then [cs.count '\n'] else []) ++
    (if wanted 'w' true then [wordCount false 0 cs] else []) ++
    (if wanted 'm' false then [cs.length] else []) ++
    (if wanted 'c' true then [cs.length] else []) ++
    (if wanted 'L' false then [longestLine cs] else [])

private def wcRow (width : Nat) (ns : List Nat) (name : Octets) : Octets :=
  joinWith [' '] (ns.map fun n => padLeft width (toString n).toList) ++
    (if name.isEmpty then [] else ' ' :: name) ++ ['\n']

/-- Columns are as wide as the total size, and at least 7 wide if a size is not known beforehand. A
single count of a single text is not padded. -/
private def wcWidth (k : Called) (fs : Files) (input : Input) (names : List Octets) : Nat :=
  if names.length = 1 && (counts k []).length = 1 then 1
  else
    let isKnown (n : Octets) : Bool := if n = ['-'] then input.isFile else !fs.isDirectory n
    let total := names.foldl (fun n name => n + ((source? fs input name).getD []).length) 0
    if (source? fs input (names.headD [])).isNone && !fs.isDirectory (names.headD []) then 1
    else max (toString total).length (if names.all isKnown then 1 else 7)

def wc (fs : Files) (input : Input) (args : List Octets) : Reply :=
  match Called.read "clmwL" "" false args with
  | .error e => .failed fs 1 e
  | .ok k =>
    let names := if k.operands.isEmpty then [['-']] else k.operands
    let width := wcWidth k fs input names
    let title (n : Octets) : Octets := if k.operands.isEmpty then [] else n
    let none := (counts k []).map fun _ => 0
    let step (state : Reply × List Nat) (n : Octets) : Reply × List Nat :=
      let (r, total) := state
      match source? fs input n with
      | some text =>
        let ns := counts k text
        ({ r with out := r.out ++ wcRow width ns (title n) }, List.zipWith (· + ·) total ns)
      | _ =>
        if n.isEmpty then (r.complain "invalid zero-length file name".toList, total)
        else
          let r := r.complain (unreadable fs n)
          (if fs.isDirectory n then { r with out := r.out ++ wcRow width none n } else r, total)
    let (r, total) := names.foldl step (.done fs [], none)
    if names.length > 1 then { r with out := r.out ++ wcRow width total "total".toList } else r

end Utility

end BrokerGate.Terminal.Shell
