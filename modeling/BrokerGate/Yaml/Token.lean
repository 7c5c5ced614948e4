import BrokerGate.Text.Utf8
import BrokerGate.Yaml.ScalarText

/-! The tokens of a YAML text. Indentation opens and closes blocks, and a scalar, alias or flow
collection turns into a key when a colon follows on its line. -/
namespace BrokerGate.Yaml
open Decimal

inductive Token
  | version (major minor : Nat)
  | tagHandle (handle uri : List Char)
  | documentStart
  | documentEnd
  | blockSequence
  | blockMapping
  | blockEnd
  | flowSequence
  | flowSequenceEnd
  | flowMapping
  | flowMappingEnd
  | blockEntry
  | flowEntry
  | key
  | value
  | alias (name : List Char)
  | anchor (name : List Char)
  | tag (handle suffix : List Char)
  | scalar (text : List Char) (plain : Bool)
  | streamEnd
  deriving DecidableEq

/-- Where a key may have begun: the number of its first token and its place. A required one must
turn out to be a key. -/
structure KeyPlace where
  token : Nat
  required : Bool
  index : Nat
  line : Nat
  column : Nat

structure Layout where
  cursor : Cursor
  tokens : Array Token
  indent : Int
  outer : List Int
  flow : Nat
  keyAllowed : Bool
  /-- One place for the block and each open flow collection, innermost first. -/
  places : List (Option KeyPlace)

namespace Layout

def start (cs : List Char) : Layout := ⟨.ofText cs, #[], -1, [], 0, true, [none]⟩

def emit (t : Token) (l : Layout) : Layout := { l with tokens := l.tokens.push t }

def insertAt (n : Nat) (t : Token) (l : Layout) : Layout :=
  { l with tokens := (l.tokens.toList.take n ++ t :: l.tokens.toList.drop n).toArray }

def skip (n : Nat) (l : Layout) : Layout := { l with cursor := l.cursor.skipMany n }

/-- Closes the blocks that are indented deeper. -/
private def closeBlocks (column : Int) (indent : Int) (outer : List Int) (tokens : Array Token) :
    Array Token × Int × List Int :=
  match outer with
  | [] => (tokens, indent, [])
  | o :: rest =>
    if indent > column then closeBlocks column o rest (tokens.push .blockEnd)
    else (tokens, indent, o :: rest)

def unroll (column : Int) (l : Layout) : Layout :=
  if l.flow > 0 then l
  else
    let (tokens, indent, outer) := closeBlocks column l.indent l.outer l.tokens
    { l with tokens, indent, outer }

/-- Opens a block if the column is deeper than the one around it. -/
def roll (column : Nat) (place : Option Nat) (t : Token) (l : Layout) : Layout :=
  if l.flow > 0 || l.indent ≥ (column : Int) then l
  else
    let l := { l with outer := l.indent :: l.outer, indent := (column : Int) }
    match place with
    | some n => l.insertAt n t
    | none => l.emit t

/-- Forgets the place of a key that did not come. -/
def dropPlace (l : Layout) : Option Layout :=
  match l.places with
  | some p :: rest => if p.required then none else some { l with places := none :: rest }
  | _ => some l

def savePlace (l : Layout) : Option Layout :=
  if l.keyAllowed then
    l.dropPlace.map fun l =>
      let c := l.cursor
      let required := l.flow = 0 && l.indent = (c.column : Int)
      { l with places := some ⟨l.tokens.size, required, c.index, c.line, c.column⟩ ::
          l.places.drop 1 }
  else some l

def longestKey : Nat := 1024

/-- A key lies on one line and is not too long. -/
private def stillOpen (c : Cursor) (p : KeyPlace) : Bool :=
  p.line = c.line && c.index ≤ p.index + longestKey

/-- Forgets the places that are out of reach. -/
def stale (l : Layout) : Option Layout :=
  if l.places.any fun | some p => p.required && !stillOpen l.cursor p | none => false then none
  else some { l with places := l.places.map fun
    | some p => if stillOpen l.cursor p then some p else none
    | none => none }

/-- Passes blanks, comments and line breaks. A tab may not stand where a key may begin. -/
def toNextToken (fuel : Nat) (l : Layout) : Layout :=
  match fuel with
  | 0 => l
  | fuel + 1 =>
    let tabs := l.flow > 0 || !l.keyAllowed
    let c := l.cursor.skipWhile fun d => d = ' ' || (tabs && d = '\t')
    let c := if c.startsWith ['#'] then c.skipWhile fun d => !isBreak d else c
    if c.atLineEnd && !c.rest.isEmpty then
      toNextToken fuel { l with
        cursor := c.readLine.2, keyAllowed := l.keyAllowed || l.flow = 0 }
    else { l with cursor := c }

private def finishLine (c : Cursor) : Option Cursor :=
  let c := c.skipWhile isBlank
  let c := if c.startsWith ['#'] then c.skipWhile fun d => !isBreak d else c
  if c.atLineEnd then some c.readLine.2 else none

private def isUriChar (wide : Bool) (c : Char) : Bool :=
  isWordChar c || ";/?:@&=+$.!~*'()".toList.contains c || (wide && (c = ',' || c = '[' || c = ']'))

/-- The bytes of a tag, with its percent escapes resolved. -/
private def uriBytes (fuel : Nat) (wide : Bool) (acc : Text.Utf8.Bytes) (c : Cursor) :
    Option (Text.Utf8.Bytes × Cursor) :=
  match fuel, c.rest with
  | fuel + 1, d :: after =>
    if d = '%' then
      match natural? 16 (after.take 2) with
      | some n =>
        if after.length < 2 then none
        else uriBytes fuel wide (UInt8.ofNat n :: acc) (c.skipMany 3)
      | none => none
    else if isUriChar wide d then uriBytes fuel wide (UInt8.ofNat d.toNat :: acc) c.skip
    else some (acc.reverse, c)
  | _, _ => some (acc.reverse, c)

private def readUri (wide : Bool) (c : Cursor) : Option (List Char × Cursor) := do
  let (bs, c) ← uriBytes (c.rest.length + 1) wide [] c
  let uri ← Text.Utf8.decode? bs
  some (uri, c)

/-- `!`, word characters, and `!` again if it is there. -/
private def readHandle (c : Cursor) : Option (List Char × Cursor) :=
  match c.rest with
  | '!' :: after =>
    let word := after.takeWhile isWordChar
    let c := c.skipMany (word.length + 1)
    if c.startsWith ['!'] then some ('!' :: word ++ ['!'], c.skip) else some ('!' :: word, c)
  | _ => none

private def versionNumber? (c : Cursor) : Option (Nat × Cursor) :=
  let ds := c.rest.takeWhile Char.isDigit
  if ds.length > 9 then none else (natural? 10 ds).map fun n => (n, c.skipMany ds.length)

private def readDirective (c : Cursor) : Option (Token × Cursor) := do
  let name := (c.rest.drop 1).takeWhile isWordChar
  let c := c.skipMany (name.length + 1)
  if name.isEmpty || !c.gapAt 0 then none
  match String.ofList name with
  | "YAML" =>
    let (major, c) ← versionNumber? (c.skipWhile isBlank)
    if !c.startsWith ['.'] then none
    let (minor, c) ← versionNumber? c.skip
    some (.version major minor, ← finishLine c)
  | "TAG" =>
    let (handle, c) ← readHandle (c.skipWhile isBlank)
    if handle ≠ ['!'] && (handle.length < 2 || handle.getLast? ≠ some '!') then none
    if !c.blankAt 0 then none
    let (uri, c) ← readUri true (c.skipWhile isBlank)
    if uri.isEmpty || !c.gapAt 0 then none
    some (.tagHandle handle uri, ← finishLine c)
  | _ => none

private def endsName (c : Cursor) : Bool :=
  match c.rest with
  | [] => true
  | d :: _ => isBlank d || isBreak d || "?:,]\x7d%@\x60".toList.contains d

private def readName (c : Cursor) : Option (List Char × Cursor) :=
  let name := (c.rest.drop 1).takeWhile isWordChar
  let c := c.skipMany (name.length + 1)
  if name.isEmpty || !endsName c then none else some (name, c)

/-- A tag is verbatim between angle brackets, or a handle with a suffix. -/
private def readTag (inFlow : Bool) (c : Cursor) : Option (Token × Cursor) := do
  let (token, c) ←
    match c.rest with
    | '!' :: '<' :: _ => do
      let (uri, c) ← readUri true (c.skipMany 2)
      if uri.isEmpty || !c.startsWith ['>'] then none
      some (Token.tag [] uri, c.skip)
    | _ => do
      let (handle, after) ← readHandle c
      if handle.length ≥ 2 && handle.getLast? = some '!' then do
        let (suffix, c) ← readUri false after
        if suffix.isEmpty then none
        some (Token.tag handle suffix, c)
      else do
        let (more, c) ← readUri false after
        let suffix := handle.drop 1 ++ more
        some (if suffix.isEmpty then Token.tag [] ['!'] else Token.tag ['!'] suffix, c)
  if c.gapAt 0 || (inFlow && c.startsWith [',']) then some (token, c) else none

private def isIndicator (c : Char) : Bool := "-?:,[]\x7b\x7d#&*!|>'\"%@\x60".toList.contains c

private def startsPlain (inFlow : Bool) (c : Cursor) : Bool :=
  match c.rest with
  | [] => false
  | d :: _ =>
    !(isBlank d || isBreak d || isIndicator d) ||
      (d = '-' && !c.blankAt 1) ||
      (!inFlow && (d = '?' || d = ':') && !c.gapAt 1)

private def openFlow (t : Token) (l : Layout) : Option Layout :=
  l.savePlace.map fun l =>
    ({ l with places := none :: l.places, flow := l.flow + 1, keyAllowed := true }.skip 1).emit t

private def closeFlow (t : Token) (l : Layout) : Option Layout :=
  l.dropPlace.map fun l =>
    let l := if l.flow > 0 then { l with flow := l.flow - 1, places := l.places.drop 1 } else l
    ({ l with keyAllowed := false }.skip 1).emit t

private def blockEntry (l : Layout) : Option Layout :=
  if l.flow = 0 && !l.keyAllowed then none
  else
    (l.roll l.cursor.column none .blockSequence).dropPlace.map fun l =>
      ({ l with keyAllowed := true }.skip 1).emit .blockEntry

private def explicitKey (l : Layout) : Option Layout :=
  if l.flow = 0 && !l.keyAllowed then none
  else
    (l.roll l.cursor.column none .blockMapping).dropPlace.map fun l =>
      ({ l with keyAllowed := l.flow = 0 }.skip 1).emit .key

/-- A colon makes a key of what stands at the saved place, if there is one. -/
private def valueMark (l : Layout) : Option Layout :=
  match l.places with
  | some p :: rest =>
    let l := (l.insertAt p.token .key).roll p.column (some p.token) .blockMapping
    some (({ l with places := none :: rest, keyAllowed := false }.skip 1).emit .value)
  | _ =>
    if l.flow = 0 && !l.keyAllowed then none
    else
      let l := l.roll l.cursor.column none .blockMapping
      some (({ l with keyAllowed := l.flow = 0 }.skip 1).emit .value)

private def withScalar (r : Option (List Char × Cursor)) (plain : Bool) (l : Layout) :
    Option Layout :=
  r.map fun p => ({ l with cursor := p.2 }).emit (.scalar p.1 plain)

private def named (make : List Char → Token) (l : Layout) : Option Layout :=
  l.savePlace.bind fun l =>
    (readName l.cursor).map fun p =>
      ({ l with cursor := p.2, keyAllowed := false }).emit (make p.1)

private def tagged (l : Layout) : Option Layout :=
  l.savePlace.bind fun l =>
    (readTag (l.flow > 0) l.cursor).map fun p =>
      ({ l with cursor := p.2, keyAllowed := false }).emit p.1

private def quotedScalar (single : Bool) (l : Layout) : Option Layout :=
  l.savePlace.bind fun l =>
    withScalar (readQuoted single l.cursor) false { l with keyAllowed := false }

private def blockScalar (literal : Bool) (l : Layout) : Option Layout :=
  l.dropPlace.bind fun l =>
    withScalar (readBlock literal l.indent l.cursor) false { l with keyAllowed := true }

private def plainScalar (l : Layout) : Option Layout :=
  l.savePlace.bind fun l =>
    (readPlain (l.flow > 0) (l.indent + 1) l.cursor).map fun p =>
      ({ l with cursor := p.cursor, keyAllowed := p.brokeLine }).emit (.scalar p.text true)

private def documentMark (l : Layout) : Option Layout :=
  let t := if l.cursor.startsWith ['-'] then Token.documentStart else .documentEnd
  (l.unroll (-1)).dropPlace.map fun l => ({ l with keyAllowed := false }.skip 3).emit t

private def directive (l : Layout) : Option Layout :=
  (l.unroll (-1)).dropPlace.bind fun l =>
    (readDirective l.cursor).map fun p =>
      ({ l with cursor := p.2, keyAllowed := false }).emit p.1

private def finish (l : Layout) : Option Layout :=
  (l.unroll (-1)).dropPlace.map (·.emit .streamEnd)

/-- Reads the next token. -/
def next (l : Layout) : Option Layout := do
  let l ← (l.toNextToken (l.cursor.rest.length + 1)).stale
  let l := l.unroll l.cursor.column
  let c := l.cursor
  let inFlow := l.flow > 0
  match c.rest with
  | [] => l.finish
  | d :: _ =>
    if c.column = 0 && d = '%' then l.directive
    else if c.atDocumentMark then l.documentMark
    else if d = '[' then l.openFlow .flowSequence
    else if d = '\x7b' then l.openFlow .flowMapping
    else if d = ']' then l.closeFlow .flowSequenceEnd
    else if d = '\x7d' then l.closeFlow .flowMappingEnd
    else if d = ',' then
      l.dropPlace.map fun l => ({ l with keyAllowed := true }.skip 1).emit .flowEntry
    else if d = '-' && c.gapAt 1 then l.blockEntry
    else if d = '?' && (inFlow || c.gapAt 1) then l.explicitKey
    else if d = ':' && (inFlow || c.gapAt 1) then l.valueMark
    else if d = '*' then l.named .alias
    else if d = '&' then l.named .anchor
    else if d = '!' then l.tagged
    else if d = '|' && !inFlow then l.blockScalar true
    else if d = '>' && !inFlow then l.blockScalar false
    else if d = '\'' then l.quotedScalar true
    else if d = '"' then l.quotedScalar false
    else if startsPlain inFlow c then l.plainScalar
    else none

def scan (fuel : Nat) (l : Layout) : Option (List Token) :=
  match fuel with
  | 0 => none
  | fuel + 1 =>
    match l.next with
    | none => none
    | some l =>
      if l.tokens.back? = some .streamEnd then some l.tokens.toList else scan fuel l

end Layout

/-- A byte order mark may lead the text. -/
def withoutMark (cs : List Char) : List Char :=
  match cs with
  | c :: rest => if c.toNat = 0xFEFF then rest else cs
  | [] => []

def Token.ofText? (cs : List Char) : Option (List Token) :=
  let cs := withoutMark cs
  if cs.all isAllowed then (Layout.start cs).scan (cs.length + 2) else none

end BrokerGate.Yaml
