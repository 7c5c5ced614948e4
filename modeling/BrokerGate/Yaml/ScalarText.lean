import BrokerGate.Decimal.Read
import BrokerGate.Yaml.Cursor

/-! The text of scalars in their plain, quoted and block forms, with lines folded. -/
namespace BrokerGate.Yaml
open Decimal

/-- White space between two words: blanks on one line, or a first line break and those after it. -/
structure Gap where
  blanks : List Char
  firstBreak : List Char
  moreBreaks : List Char
  hasBreak : Bool

def Gap.none : Gap := ⟨[], [], [], false⟩

/-- A single line break counts as a space, several as all but the first. -/
def Gap.text (g : Gap) : List Char :=
  if g.hasBreak then
    if g.firstBreak = ['\n'] then
      if g.moreBreaks.isEmpty then [' '] else g.moreBreaks
    else g.firstBreak ++ g.moreBreaks
  else g.blanks

/-- Blanks after a line break must not hold a tab left of `indent`. -/
def readGap (fuel : Nat) (indent : Int) (g : Gap) (c : Cursor) : Option (Gap × Cursor) :=
  match fuel, c.rest with
  | fuel + 1, d :: _ =>
    if isBlank d then
      if g.hasBreak then
        if (c.column : Int) < indent && d = '\t' then none
        else readGap fuel indent g c.skip
      else readGap fuel indent { g with blanks := g.blanks ++ [d] } c.skip
    else if isBreak d then
      let (text, c) := c.readLine
      let g := if g.hasBreak then { g with moreBreaks := g.moreBreaks ++ text }
        else { g with blanks := [], firstBreak := text, hasBreak := true }
      readGap fuel indent g c
    else some (g, c)
  | _, _ => some (g, c)

private def isFlowMark (c : Char) : Bool :=
  c = ',' || c = '[' || c = ']' || c = '\x7b' || c = '\x7d'

/-- Reads a word of a plain scalar; `acc` is reversed. -/
private def plainWord (fuel : Nat) (inFlow : Bool) (acc : List Char) (c : Cursor) :
    Option (List Char × Cursor) :=
  match fuel, c.rest with
  | fuel + 1, d :: after =>
    if isBlank d || isBreak d then some (acc, c)
    else if inFlow && d = ':' && after.head?.any (fun e => isFlowMark e || e = '?') then none
    else if (d = ':' && c.gapAt 1) || (inFlow && isFlowMark d) then some (acc, c)
    else plainWord fuel inFlow (d :: acc) c.skip
  | _, _ => some (acc, c)

structure PlainText where
  text : List Char
  cursor : Cursor
  /-- The scalar ends on a later line than its last word. -/
  brokeLine : Bool

private def plainFrom (fuel : Nat) (inFlow : Bool) (indent : Int) (gap : Gap) (acc : List Char)
    (c : Cursor) : Option PlainText :=
  match fuel with
  | 0 => none
  | fuel + 1 =>
    let done : Option PlainText := some ⟨acc.reverse, c, gap.hasBreak⟩
    if c.atDocumentMark || c.startsWith ['#'] then done
    else
      match plainWord (c.rest.length + 1) inFlow [] c with
      | none => none
      | some (word, c') =>
        let acc' := if word.isEmpty then acc else word ++ gap.text.reverse ++ acc
        let gap' := if word.isEmpty then gap else .none
        if c'.gapAt 0 && !c'.rest.isEmpty then
          match readGap (c'.rest.length + 1) indent gap' c' with
          | none => none
          | some (gap', c'') =>
            if !inFlow && (c''.column : Int) < indent then
              some ⟨acc'.reverse, c'', gap'.hasBreak⟩
            else plainFrom fuel inFlow indent gap' acc' c''
        else some ⟨acc'.reverse, c', gap'.hasBreak⟩

/-- A plain scalar of a block ends where a line is indented less than `indent`. -/
def readPlain (inFlow : Bool) (indent : Int) (c : Cursor) : Option PlainText :=
  plainFrom (c.rest.length + 1) inFlow indent .none [] c

private def namedEscape? : Char → Option Char
  | '0' => some '\x00'
  | 'a' => some '\x07'
  | 'b' => some '\x08'
  | 't' => some '\t'
  | '\t' => some '\t'
  | 'n' => some '\n'
  | 'v' => some '\x0b'
  | 'f' => some '\x0c'
  | 'r' => some '\r'
  | 'e' => some '\x1b'
  | ' ' => some ' '
  | '"' => some '"'
  | '/' => some '/'
  | '\\' => some '\\'
  | 'N' => some (Char.ofNat 0x85)
  | '_' => some (Char.ofNat 0xA0)
  | 'L' => some (Char.ofNat 0x2028)
  | 'P' => some (Char.ofNat 0x2029)
  | _ => none

private def escapeWidth? : Char → Option Nat
  | 'x' => some 2
  | 'u' => some 4
  | 'U' => some 8
  | _ => none

/-- The character of an escape, and how much of the text after the backslash it takes. -/
private def doubleEscape? (cs : List Char) : Option (Char × Nat) :=
  match cs with
  | [] => none
  | e :: rest =>
    match namedEscape? e with
    | some c => some (c, 1)
    | none =>
      match escapeWidth? e with
      | none => none
      | some w =>
        if rest.length < w then none
        else
          match natural? 16 (rest.take w) with
          | some n =>
            if n > 0x10FFFF || (0xD800 ≤ n && n ≤ 0xDFFF) then none
            else some (Char.ofNat n, w + 1)
          | none => none

/-- Reads up to a blank, a line break or the closing quote. The flag says that an escaped line
break came last. -/
private def quotedWord (fuel : Nat) (single : Bool) (acc : List Char) (c : Cursor) :
    Option (List Char × Bool × Cursor) :=
  match fuel, c.rest with
  | fuel + 1, d :: after =>
    if isBlank d || isBreak d then some (acc, false, c)
    else if single then
      if d = '\'' then
        if after.head? = some '\'' then quotedWord fuel single ('\'' :: acc) (c.skipMany 2)
        else some (acc, false, c)
      else quotedWord fuel single (d :: acc) c.skip
    else if d = '"' then some (acc, false, c)
    else if d = '\\' then
      if after.head?.any isBreak then some (acc, true, c.skip.readLine.2)
      else
        match doubleEscape? after with
        | some (e, n) => quotedWord fuel single (e :: acc) (c.skipMany (n + 1))
        | none => none
    else quotedWord fuel single (d :: acc) c.skip
  | _, _ => some (acc, false, c)

private def quotedFrom (fuel : Nat) (single : Bool) (acc : List Char) (c : Cursor) :
    Option (List Char × Cursor) :=
  match fuel with
  | 0 => none
  | fuel + 1 =>
    if c.atDocumentMark || c.rest.isEmpty then none
    else
      match quotedWord (c.rest.length + 1) single acc c with
      | none => none
      | some (acc, brokeLine, c) =>
        if c.startsWith [if single then '\'' else '"'] then some (acc.reverse, c.skip)
        else
          match readGap (c.rest.length + 1) 0 ⟨[], [], [], brokeLine⟩ c with
          | none => none
          | some (gap, c) => quotedFrom fuel single (gap.text.reverse ++ acc) c

/-- A quoted scalar, from its opening quote on. -/
def readQuoted (single : Bool) (c : Cursor) : Option (List Char × Cursor) :=
  quotedFrom (c.rest.length + 2) single [] c.skip

inductive Chomping
  | strip
  | clip
  | keep
  deriving DecidableEq

structure BlockHeader where
  chomping : Chomping
  increment : Nat

private def chomping? : Char → Option Chomping
  | '+' => some .keep
  | '-' => some .strip
  | _ => none

private def increment? (d : Char) : Option Nat :=
  if d.isDigit then (if d = '0' then none else some (d.toNat - 48)) else some 0

/-- Chomping and indentation indicators, in either order. A zero is refused. -/
private def readHeader (c : Cursor) : Option (BlockHeader × Cursor) :=
  match c.rest with
  | [] => some (⟨.clip, 0⟩, c)
  | d :: after =>
    match chomping? d with
    | some k =>
      match after with
      | e :: _ =>
        (increment? e).map fun n => (⟨k, n⟩, c.skipMany (if n = 0 then 1 else 2))
      | [] => some (⟨k, 0⟩, c.skip)
    | none =>
      (increment? d).map fun n =>
        if n = 0 then (⟨.clip, 0⟩, c)
        else
          match after.head?.bind chomping? with
          | some k => (⟨k, n⟩, c.skipMany 2)
          | none => (⟨.clip, n⟩, c.skip)

/-- Passes empty lines and indentation up to `indent` columns, 0 for any. Gives the line breaks and
the deepest indentation. -/
private def readIndentation (fuel indent deepest : Nat) (breaks : List Char) (c : Cursor) :
    Option (List Char × Nat × Cursor) :=
  match fuel with
  | 0 => none
  | fuel + 1 =>
    let spaces := (c.rest.takeWhile (· = ' ')).length
    let c := c.skipMany (if indent = 0 then spaces else min spaces (indent - c.column))
    let deepest := max deepest c.column
    if (indent = 0 || c.column < indent) && c.startsWith ['\t'] then none
    else if c.atLineEnd && !c.rest.isEmpty then
      let (text, c) := c.readLine
      readIndentation fuel indent deepest (breaks ++ text) c
    else some (breaks, deepest, c)

structure BlockLines where
  text : List Char
  lastBreak : List Char
  trailing : List Char
  cursor : Cursor

private def blockLines (fuel : Nat) (literal : Bool) (indent : Nat) (blankBefore : Bool)
    (b : BlockLines) : Option BlockLines :=
  match fuel with
  | 0 => none
  | fuel + 1 =>
    let c := b.cursor
    if c.column = indent && !c.rest.isEmpty then
      let blank := c.blankAt 0
      let joint :=
        if !literal && b.lastBreak = ['\n'] && !blankBefore && !blank then
          if b.trailing.isEmpty then [' '] else []
        else b.lastBreak
      let line := c.rest.takeWhile fun d => !isBreak d
      let (lineBreak, c) := (c.skipMany line.length).readLine
      match readIndentation (c.rest.length + 1) indent 0 [] c with
      | none => none
      | some (trailing, _, c) =>
        blockLines fuel literal indent blank
          ⟨b.text ++ joint ++ b.trailing ++ line, lineBreak, trailing, c⟩
    else some b

private def chomp (k : Chomping) (b : BlockLines) : List Char :=
  match k with
  | .strip => b.text
  | .clip => b.text ++ b.lastBreak
  | .keep => b.text ++ b.lastBreak ++ b.trailing

/-- A literal or folded scalar, from its indicator on; `parent` is the indentation around it. -/
def readBlock (literal : Bool) (parent : Int) (c : Cursor) : Option (List Char × Cursor) :=
  match readHeader c.skip with
  | none => none
  | some (header, c) =>
    let c := c.skipWhile isBlank
    let c := if c.startsWith ['#'] then c.skipWhile fun d => !isBreak d else c
    if !c.atLineEnd then none
    else
      let c := c.readLine.2
      let given := if header.increment = 0 then 0 else (max parent 0).toNat + header.increment
      match readIndentation (c.rest.length + 1) given 0 [] c with
      | none => none
      | some (breaks, deepest, c) =>
        let indent :=
          if given = 0 then max (max deepest (parent + 1).toNat) 1 else given
        (blockLines (c.rest.length + 1) literal indent false ⟨[], [], breaks, c⟩).map fun b =>
          (chomp header.chomping b, b.cursor)

end BrokerGate.Yaml
