import BrokerGate.Decimal.Read
import BrokerGate.Log.Event
import BrokerGate.Text.CharClass
import BrokerGate.Text.Split
import BrokerGate.Text.Utf8

/-! Which events are shown. A filter is a list of directives; of those that concern an event the
most specific one decides. -/
namespace BrokerGate.Log
open Text Decimal

/-- From the most urgent level up to which events pass; none lets nothing pass. -/
abbrev Threshold := Option Level

def Level.rank : Level → Nat
  | error => 1
  | warn => 2
  | info => 3
  | debug => 4
  | trace => 5

private def thresholds : List (String × Threshold) :=
  [("off", none), ("error", some .error), ("warn", some .warn), ("info", some .info),
    ("debug", some .debug), ("trace", some .trace)]

/-- A name in any case, or a number from 0; an empty text is the error level. -/
def threshold? (cs : List Char) : Option Threshold :=
  match (unsigned? 10 cs).bind fun n => thresholds[n]? with
  | some t => some t.2
  | none =>
    if cs.isEmpty then some (some .error)
    else
      (thresholds.find? fun t => t.1.toList = cs.map Char.toLower).map (·.2)

/-- A field that a directive asks for, perhaps with a value. -/
structure FieldPattern where
  name : List Char
  hasValue : Bool
  deriving DecidableEq

/-- Events whose target starts with `target`, of a span, with certain fields. -/
structure Directive where
  target : Option (List Char)
  span : Option (List Char)
  fields : List FieldPattern
  threshold : Threshold
  deriving DecidableEq

inductive DirectiveError
  | malformed
  | level
  deriving DecidableEq

def DirectiveError.message : DirectiveError → String
  | malformed => "invalid filter directive"
  | level => "error parsing level filter: expected one of \"off\", \"error\", \"warn\", " ++
      "\"info\", \"debug\", \"trace\", or a number 0-5"

namespace Directive

def everything : Directive := ⟨none, none, [], some .trace⟩

private inductive Stage
  | start
  | levelOrTarget (start : Nat)
  | span (start : Nat)
  | field (start : Nat)
  | fields
  | target
  | level (start : Nat)

private def opens (c : Char) : Bool := ['-', ':', '_'].contains c || isAlphanumeric c

private def fieldOf (cs : List Char) : FieldPattern :=
  let name := cs.takeWhile (· ≠ '=')
  ⟨name, decide (name.length < cs.length)⟩

private def levelOf (cs : List Char) : Except DirectiveError Threshold :=
  if cs.isEmpty then .ok (some .trace)
  else
    match threshold? cs with
    | some t => .ok t
    | none => .error .level

/-- A text without `=` is a level if it names one, and a target otherwise. -/
private def levelOrTarget (cs : List Char) (d : Directive) : Directive :=
  if cs.isEmpty then d
  else
    match threshold? cs with
    | some t => { d with threshold := t }
    | none => { d with target := some cs }

/-- Reads on at position `i`; `whole` is the text from which parts are cut. -/
private def read (whole : List Char) (d : Directive) (s : Stage) (i : Nat) :
    List Char → Except DirectiveError Directive
  | [] =>
    match s with
    | .levelOrTarget a => .ok (levelOrTarget (whole.drop a) d)
    | .level a => (levelOf (whole.drop a)).map fun t => { d with threshold := t }
    | .target => .ok d
    | _ => .error .malformed
  | c :: rest =>
    let part (a : Nat) : List Char := (whole.drop a).take (i - a)
    match s with
    | .start =>
      if c = '[' then read whole d (.span (i + 1)) (i + 1) rest
      else if opens c then read whole d (.levelOrTarget i) (i + 1) rest
      else .error .malformed
    | .levelOrTarget a =>
      if c = '=' then read whole { d with target := some (part a) } (.level (i + 1)) (i + 1) rest
      else if c = '[' then
        read whole { d with target := some (part a) } (.span (i + 1)) (i + 1) rest
      else read whole d s (i + 1) rest
    | .span a =>
      if c = ']' then read whole { d with span := some (part a) } .target (i + 1) rest
      else if c = '\x7b' then
        let span := if (part a).isEmpty then none else some (part a)
        read whole { d with span } (.field (i + 1)) (i + 1) rest
      else read whole d s (i + 1) rest
    | .field a =>
      if c = '\x7d' then
        if (part a).isEmpty then .error .malformed
        else
          read whole { d with fields := d.fields ++ [fieldOf (part a)] } .fields (i + 1) rest
      else read whole d s (i + 1) rest
    | .fields => if c = ']' then read whole d .target (i + 1) rest else .error .malformed
    | .target =>
      if c = '=' then read whole d (.level (i + 1)) (i + 1) rest else .error .malformed
    | .level _ => read whole d s (i + 1) rest

/-- A directive without commas. Blanks at its ends are not looked at but do count as positions. -/
def parse (cs : List Char) : Except DirectiveError Directive :=
  read cs everything .start 0 (trimBlank cs)

/-- A directive on spans or field values says nothing about events outside of spans. -/
def isStatic (d : Directive) : Bool := d.span.isNone && d.fields.all (!·.hasValue)

def concerns (d : Directive) (e : Event) : Bool :=
  d.isStatic && (d.target.getD []).isPrefixOf e.target.toList &&
    d.fields.all fun f =>
      f.name = "message".toList || e.fields.any fun g => g.1.toList = f.name

private def fieldNames (d : Directive) : List String := d.fields.map fun f => String.ofList f.name

private def targetRank (d : Directive) : Nat :=
  match d.target with
  | none => 0
  | some t => t.length + 1

/-- Among directives that concern the same event: a longer target goes first, then more fields. -/
def outranks (a b : Directive) : Bool :=
  if targetRank a ≠ targetRank b then decide (targetRank a > targetRank b)
  else if a.fields.length ≠ b.fields.length then decide (a.fields.length > b.fields.length)
  else decide (fieldNames a > fieldNames b)

def admits (d : Directive) (e : Event) : Bool :=
  match d.threshold with
  | none => false
  | some l => decide (e.level.rank ≤ l.rank)

end Directive

abbrev Filter := List Directive

namespace Filter

/-- The directive that decides on an event; of equals the last. -/
def decisive? (f : Filter) (e : Event) : Option Directive :=
  (f.filter (·.concerns e)).foldl (fun best d =>
    match best with
    | some b => if b.outranks d then some b else some d
    | none => some d) none

def admits (f : Filter) (e : Event) : Bool := (f.decisive? e).any (·.admits e)

private def directiveTexts (s : String) : List (List Char) :=
  (pieces ',' s.toList).filter (!·.isEmpty)

/-- All directives, or none if one is faulty. -/
def parse? (s : String) : Option Filter :=
  (directiveTexts s).mapM fun cs => (Directive.parse cs).toOption

private def complaint (cs : List Char) (e : DirectiveError) : String :=
  "ignoring \x60" ++ String.ofList cs ++ "\x60: " ++ e.message

/-- The directives that can be read, and a complaint about each other one. -/
def parseTolerant (s : String) : Filter × List String :=
  let read := (directiveTexts s).map fun cs => (cs, Directive.parse cs)
  (read.filterMap fun r => r.2.toOption,
    read.filterMap fun r =>
      match r.2 with
      | .ok _ => none
      | .error e => some (complaint r.1 e))

private def errorsOnly : Filter := [{ Directive.everything with threshold := some .error }]

/-- The filter of the environment if it can be read, else the one of the settings, which without
any directive shows errors. -/
def choose (wanted : Option String) (setting : String) : Filter × List String :=
  match wanted.bind parse? with
  | some f => (f, [])
  | none =>
    match parseTolerant setting with
    | ([], complaints) => (errorsOnly, complaints)
    | chosen => chosen

end Filter

end BrokerGate.Log
