import BrokerGate.Yaml.Token

/-! YAML documents as trees. An alias holds the node that it stands for; a node cannot hold an alias
of itself. -/
namespace BrokerGate.Yaml

inductive Node
  | scalar (tag : Option (List Char)) (text : List Char) (plain : Bool)
  | sequence (tag : Option (List Char)) (items : List Node)
  | mapping (tag : Option (List Char)) (entries : List (Node × Node))
  | alias (target : Node)

/-- What is left to read, with the tag handles and anchors known so far. An anchor whose node is
still open has none. `events` counts starts, ends, scalars and aliases. -/
structure Reader where
  tokens : List Token
  handles : List (List Char × List Char)
  anchors : List (List Char × Option Node)
  events : Nat

namespace Reader

def defaultHandles : List (List Char × List Char) :=
  [(['!'], ['!']), (['!', '!'], "tag:yaml.org,2002:".toList)]

private def skip (r : Reader) : Reader := { r with tokens := r.tokens.drop 1 }

private def count (n : Nat) (r : Reader) : Reader := { r with events := r.events + n }

private def at? (r : Reader) (ts : List Token) : Bool :=
  match r.tokens with
  | t :: _ => ts.contains t
  | [] => false

private def setAnchor (name : Option (List Char)) (n : Option Node) (r : Reader) : Reader :=
  match name with
  | some a => { r with anchors := (a, n) :: r.anchors }
  | none => r

private def resolveTag (handle suffix : List Char) (r : Reader) : Option (List Char) :=
  if handle.isEmpty then some suffix
  else (r.handles.find? (·.1 = handle)).map fun h => h.2 ++ suffix

structure Properties where
  anchor : Option (List Char)
  tag : Option (List Char)

private def properties (r : Reader) : Option (Properties × Reader) :=
  match r.tokens with
  | .anchor a :: .tag h s :: rest =>
    (r.resolveTag h s).map fun t => (⟨some a, some t⟩, { r with tokens := rest })
  | .tag h s :: .anchor a :: rest =>
    (r.resolveTag h s).map fun t => (⟨some a, some t⟩, { r with tokens := rest })
  | .anchor a :: rest => some (⟨some a, none⟩, { r with tokens := rest })
  | .tag h s :: rest =>
    (r.resolveTag h s).map fun t => (⟨none, some t⟩, { r with tokens := rest })
  | _ => some (⟨none, none⟩, r)

private def emptyNode : Node := .scalar none [] true

private def empty (r : Reader) : Option (Node × Reader) := some (emptyNode, r.count 1)

mutual

/-- One node. Blocks are allowed where `block` says so, and a sequence without deeper indentation
where `indentless` does. -/
private def node (fuel : Nat) (block indentless : Bool) (r : Reader) : Option (Node × Reader) :=
  match fuel with
  | 0 => none
  | fuel + 1 =>
    match r.tokens with
    | .alias name :: _ =>
      match r.anchors.find? (·.1 = name) with
      | some (_, some n) => some (.alias n, (r.skip).count 1)
      | _ => none
    | _ =>
      match r.properties with
      | none => none
      | some (p, r) =>
        let close (result : Option (Node × Reader)) : Option (Node × Reader) :=
          result.map fun q => (q.1, q.2.setAnchor p.anchor (some q.1))
        let opened := (r.setAnchor p.anchor none).count 2
        let sequence (result : Option (List Node × Reader)) : Option (Node × Reader) :=
          close (result.map fun q => (.sequence p.tag q.1, q.2))
        let mapping (result : Option (List (Node × Node) × Reader)) : Option (Node × Reader) :=
          close (result.map fun q => (.mapping p.tag q.1, q.2))
        match r.tokens with
        | .scalar text plain :: _ =>
          let tag := if p.tag = some ['!'] then none else p.tag
          close (some (.scalar tag text plain, r.skip.count 1))
        | .flowSequence :: _ => sequence (flowItems fuel true opened.skip)
        | .flowMapping :: _ => mapping (flowEntries fuel true opened.skip)
        | t :: _ =>
          if indentless && t = .blockEntry then sequence (indentlessItems fuel opened)
          else if block && t = .blockSequence then sequence (blockItems fuel opened.skip)
          else if block && t = .blockMapping then mapping (blockEntries fuel opened.skip)
          else if p.anchor.isSome || p.tag.isSome then
            close (some (.scalar p.tag [] true, r.count 1))
          else none
        | [] => none

private def nodeUnless (fuel : Nat) (stop : List Token) (block indentless : Bool) (r : Reader) :
    Option (Node × Reader) :=
  match fuel with
  | 0 => none
  | fuel + 1 => if r.at? stop then r.empty else node fuel block indentless r

private def blockItems (fuel : Nat) (r : Reader) : Option (List Node × Reader) :=
  match fuel with
  | 0 => none
  | fuel + 1 =>
    if r.at? [.blockEntry] then
      match nodeUnless fuel [.blockEntry, .blockEnd] true false r.skip with
      | none => none
      | some (n, r) => (blockItems fuel r).map fun q => (n :: q.1, q.2)
    else if r.at? [.blockEnd] then some ([], r.skip)
    else none

private def indentlessItems (fuel : Nat) (r : Reader) : Option (List Node × Reader) :=
  match fuel with
  | 0 => none
  | fuel + 1 =>
    if r.at? [.blockEntry] then
      match nodeUnless fuel [.blockEntry, .key, .value, .blockEnd] true false r.skip with
      | none => none
      | some (n, r) => (indentlessItems fuel r).map fun q => (n :: q.1, q.2)
    else some ([], r)

private def blockEntries (fuel : Nat) (r : Reader) : Option (List (Node × Node) × Reader) :=
  match fuel with
  | 0 => none
  | fuel + 1 =>
    if r.at? [.blockEnd] then some ([], r.skip)
    else if r.at? [.key, .value] then
      let keyNode :=
        if r.at? [.key] then nodeUnless fuel [.key, .value, .blockEnd] true true r.skip else none
      match keyNode with
      | none => none
      | some (k, r) =>
        let valueNode :=
          if r.at? [.value] then nodeUnless fuel [.key, .value, .blockEnd] true true r.skip
          else r.empty
        match valueNode with
        | none => none
        | some (v, r) => (blockEntries fuel r).map fun q => ((k, v) :: q.1, q.2)
    else none

/-- An item of the form `? key : value`, or with a key alone, is a mapping of one entry. -/
private def flowItems (fuel : Nat) (first : Bool) (r : Reader) : Option (List Node × Reader) :=
  match fuel with
  | 0 => none
  | fuel + 1 =>
    if r.at? [.flowSequenceEnd] then some ([], r.skip)
    else if !first && !r.at? [.flowEntry] then none
    else
      let r := if first then r else r.skip
      if r.at? [.flowSequenceEnd] then some ([], r.skip)
      else
        let item :=
          if r.at? [.key] then
            let r := r.skip.count 2
            let keyNode :=
              if r.at? [.value, .flowEntry, .flowSequenceEnd] then r.skip.empty
              else node fuel false false r
            match keyNode with
            | none => none
            | some (k, r) =>
              let valueNode :=
                if r.at? [.value] then
                  nodeUnless fuel [.flowEntry, .flowSequenceEnd] false false r.skip
                else r.empty
              valueNode.map fun q => (Node.mapping none [(k, q.1)], q.2)
          else node fuel false false r
        match item with
        | none => none
        | some (n, r) => (flowItems fuel false r).map fun q => (n :: q.1, q.2)

private def flowEntries (fuel : Nat) (first : Bool) (r : Reader) :
    Option (List (Node × Node) × Reader) :=
  match fuel with
  | 0 => none
  | fuel + 1 =>
    if r.at? [.flowMappingEnd] then some ([], r.skip)
    else if !first && !r.at? [.flowEntry] then none
    else
      let r := if first then r else r.skip
      if r.at? [.flowMappingEnd] then some ([], r.skip)
      else
        let entry :=
          if r.at? [.key] then
            match nodeUnless fuel [.value, .flowEntry, .flowMappingEnd] false false r.skip with
            | none => none
            | some (k, r) =>
              let valueNode :=
                if r.at? [.value] then
                  nodeUnless fuel [.flowEntry, .flowMappingEnd] false false r.skip
                else r.empty
              valueNode.map fun q => ((k, q.1), q.2)
          else (node fuel false false r).map fun q => ((q.1, emptyNode), q.2.count 1)
        match entry with
        | none => none
        | some (e, r) => (flowEntries fuel false r).map fun q => (e :: q.1, q.2)

end

/-- Version and tag directives before a document, each at most once. -/
private def directives (seenVersion : Bool) (handles : List (List Char × List Char)) :
    List Token → Option (List (List Char × List Char) × List Token)
  | .version major minor :: rest =>
    if seenVersion || major ≠ 1 || !(minor = 1 || minor = 2) then none
    else directives true handles rest
  | .tagHandle h uri :: rest =>
    if handles.any (·.1 = h) then none else directives seenVersion ((h, uri) :: handles) rest
  | rest => some (handles, rest)

private def startsDocument : Token → Bool
  | .version _ _ | .tagHandle _ _ | .documentStart => true
  | _ => false

private def endsContent : Token → Bool
  | .documentEnd | .streamEnd => true
  | t => startsDocument t

/-- Nothing may follow the only document. -/
private def onlyDocument (r : Reader) : Bool :=
  r.tokens.dropWhile (· = .documentEnd) = [.streamEnd]

/-- The one document of a text, with its number of events; a text without any holds none. -/
def document? (tokens : List Token) : Option (Option (Node × Nat)) := do
  let fuel := 3 * tokens.length + 4
  match tokens with
  | [.streamEnd] => some none
  | t :: _ =>
    let (root, r) ←
      if startsDocument t then do
        let (handles, rest) ← directives false [] tokens
        match rest with
        | .documentStart :: content =>
          let r : Reader := ⟨content, handles ++ defaultHandles, [], 0⟩
          if content.head?.any endsContent then r.empty else node fuel true false r
        | _ => none
      else node fuel true false ⟨tokens, defaultHandles, [], 0⟩
    if r.onlyDocument then some (some (root, r.events)) else none
  | [] => none

end Reader

/-- The document of a text. -/
def Node.ofText? (cs : List Char) : Option (Option (Node × Nat)) :=
  (Token.ofText? cs).bind Reader.document?

end BrokerGate.Yaml
