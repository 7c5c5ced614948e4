import BrokerGate.Terminal.Shell.Token

/-! Reading shell scripts. -/
namespace BrokerGate.Terminal.Shell

/-- A script that makes no sense, and the line where that shows. -/
structure Misread where
  line : Nat
  cause : SyntaxError
  deriving DecidableEq

abbrev Parsed (α : Type) := Except Misread (α × Octets)

/-- The line of a position, told by the lines that are left. `lines` counts those of the text. -/
private def lineAt (lines : Nat) (rest : Octets) : Nat := lines + 1 - rest.count '\n'

private def misread {α : Type} (lines : Nat) (rest : Octets) (e : SyntaxError) :
    Except Misread α :=
  .error ⟨lineAt lines rest, e⟩

/-- A token that does not belong where it stands. A word is read to its end first. -/
private def unexpected {α : Type} (lines : Nat) (expected : Option String) (t : Token × Octets) :
    Except Misread α :=
  misread lines t.2 (.unexpected t.1 (expected.map .mark))

private def expect (lines : Nat) (wanted : String) (cs : Octets) : Except Misread Octets :=
  let t := token true (lined cs)
  if t.1 = .mark wanted then .ok t.2 else unexpected lines (some wanted) t

private def isSpecialName (c : Char) : Bool := "#?$!@*-".toList.contains c

private def fallbacks : List (String × Bool × Fallback) :=
  [(":-", true, .useInstead), (":=", true, .assign), (":+", true, .useIfSet), (":?", true, .fail),
    ("-", false, .useInstead), ("=", false, .assign), ("+", false, .useIfSet),
    ("?", false, .fail), ("%%", false, .dropLongestEnd), ("%", false, .dropShortestEnd),
    ("##", false, .dropLongestStart), ("#", false, .dropShortestStart)]

private def drops : Fallback → Bool
  | .dropShortestEnd | .dropLongestEnd | .dropShortestStart | .dropLongestStart => true
  | _ => false

private def parameterName (cs : Octets) : Octets :=
  match cs with
  | c :: _ =>
    if isNameStart c then cs.takeWhile isNameChar
    else if c.isDigit then cs.takeWhile Char.isDigit
    else if isSpecialName c then [c]
    else []
  | [] => []

private def assignment? (cs : Octets) : Option (Octets × Octets) :=
  let name := cs.takeWhile isNameChar
  match cs.head?, cs.drop name.length with
  | some c, '=' :: rest => if isNameStart c then some (name, rest) else none
  | _, _ => none

/-- What parts are read in. -/
private structure Setting where
  /-- Between double quotes, or in a text that is read like that. -/
  quoted : Bool
  /-- Up to a closing brace. -/
  braced : Bool
  /-- Up to the end of the whole text, in which quotes are letters. -/
  document : Bool

private def wordSetting : Setting := ⟨false, false, false⟩

/-- The text of a backquote up to its closing mark, with its own backslashes resolved. -/
private def backquoted (fuel : Nat) (quoted : Bool) (cs : Octets) : Option (Octets × Octets) :=
  match fuel, cs with
  | 0, _ | _, [] => none
  | _ + 1, '\x60' :: rest => some ([], rest)
  | fuel + 1, '\\' :: c :: rest =>
    let kept : Octets := if c = '\n' then []
      else if c = '\\' || c = '\x60' || c = '$' || (quoted && c = '"') then [c]
      else ['\\', c]
    (backquoted fuel quoted rest).map fun r => (kept ++ r.1, r.2)
  | fuel + 1, c :: rest => (backquoted fuel quoted rest).map fun r => (c :: r.1, r.2)

/-- The lines up to the delimiter, and what follows it. -/
private def documentLines (fuel : Nat) (indented : Bool) (delimiter cs : Octets) :
    Octets × Octets :=
  match fuel with
  | 0 => ([], cs)
  | fuel + 1 =>
    if cs.isEmpty then ([], [])
    else
      let cs := if indented then cs.dropWhile (· = '\t') else cs
      let line := cs.takeWhile (· ≠ '\n')
      let rest := cs.drop (line.length + 1)
      if line = delimiter then ([], rest)
      else
        let (body, after) := documentLines fuel indented delimiter rest
        (cs.take (line.length + 1) ++ body, after)

/-- The delimiter of a document with its quotes removed, whether it had any, and the rest. -/
private def delimiterWord (fuel : Nat) (cs : Octets) : Octets × Bool × Octets :=
  match fuel, cs with
  | fuel + 1, '\\' :: c :: rest =>
    let (w, _, r) := delimiterWord fuel rest
    (c :: w, true, r)
  | fuel + 1, c :: rest =>
    if c = '\'' || c = '"' then
      let inner := rest.takeWhile (· ≠ c)
      let (w, _, r) := delimiterWord fuel (rest.drop (inner.length + 1))
      (inner ++ w, true, r)
    else if endsWord c then ([], false, cs)
    else
      let (w, q, r) := delimiterWord fuel rest
      (c :: w, q, r)
  | _, _ => ([], false, cs)

mutual

private def parseParts (fuel lines : Nat) (s : Setting) (cs : Octets) : Parsed Word :=
  match fuel with
  | 0 => misread lines cs .unterminatedQuote
  | fuel + 1 =>
    let more (p : Part) (rest : Octets) : Parsed Word :=
      (parseParts fuel lines s rest).map fun q => (p :: q.1, q.2)
    let plain (text : Octets) : Part := if s.quoted then .literal text else .bare text
    match cs with
    | [] =>
      if s.document then .ok ([], [])
      else if s.quoted then misread lines [] .unterminatedQuote
      else if s.braced then misread lines [] .missingBrace
      else .ok ([], [])
    | '\\' :: d :: rest =>
      if d = '\n' then parseParts fuel lines s rest
      else if s.quoted && !("$\\\x60".toList.contains d || (d = '"' && !s.document) ||
          (d = '\x7d' && s.braced)) then
        more (.literal ['\\', d]) rest
      else more (.literal [d]) rest
    | '$' :: rest =>
      match parseDollar fuel lines s.quoted rest with
      | .error e => .error e
      | .ok (p, rest) => more p rest
    | '\x60' :: rest =>
      match backquoted (rest.length + 1) s.quoted rest with
      | none => misread lines [] .unclosedBackquote
      | some (text, rest) =>
        match parseScript fuel (text.count '\n') true true text with
        | .error e => .error e
        | .ok (script, _) => more (.output script s.quoted) rest
    | '"' :: rest =>
      if s.document then more (.literal ['"']) rest
      else if s.quoted && s.braced then more (.literal []) rest
      else if s.quoted then .ok ([], rest)
      else
        match parseParts fuel lines ⟨true, false, false⟩ rest with
        | .error e => .error e
        | .ok (ps, rest) => more (.literal []) rest |>.map fun q => (ps ++ q.1, q.2)
    | '\'' :: rest =>
      if s.quoted then more (.literal ['\'']) rest
      else
        let text := rest.takeWhile (· ≠ '\'')
        if text.length = rest.length then misread lines [] .unterminatedQuote
        else more (.literal text) (rest.drop (text.length + 1))
    | '\x7d' :: rest => if s.braced then .ok ([], rest) else more (plain ['\x7d']) rest
    | c :: rest =>
      if !s.quoted && !s.braced && endsWord c then .ok ([], cs) else more (plain [c]) rest

/-- What follows a dollar sign. -/
private def parseDollar (fuel lines : Nat) (quoted : Bool) (cs : Octets) : Parsed Part :=
  match fuel with
  | 0 => misread lines cs .unterminatedQuote
  | fuel + 1 =>
    match cs with
    | '(' :: '(' :: rest =>
      match parseArithmetic fuel lines 0 rest with
      | .error e => .error e
      | .ok (ps, rest) => .ok (.arithmetic ps quoted, rest)
    | '(' :: rest =>
      match parseScript fuel lines true true rest with
      | .error e => .error e
      | .ok (script, rest) => (expect lines ")" rest).map fun rest => (.output script quoted, rest)
    | '\x7b' :: rest => parseBrace fuel lines quoted rest
    | c :: rest =>
      if isNameStart c then
        let name := cs.takeWhile isNameChar
        .ok (.parameter name quoted, cs.drop name.length)
      else if c.isDigit || isSpecialName c then .ok (.parameter [c] quoted, rest)
      else .ok ((if quoted then .literal ['$'] else .bare ['$']), cs)
    | [] => .ok ((if quoted then .literal ['$'] else .bare ['$']), [])

/-- What follows a dollar sign and a brace. -/
private def parseBrace (fuel lines : Nat) (quoted : Bool) (cs : Octets) : Parsed Part :=
  match fuel with
  | 0 => misread lines cs .missingBrace
  | fuel + 1 =>
    let counted := match cs with
      | '#' :: rest => if (parameterName rest).isEmpty then none else some (parameterName rest)
      | _ => none
    match counted with
    | some name =>
      match parseParts fuel lines ⟨quoted, true, false⟩ (cs.drop (name.length + 1)) with
      | .error e => .error e
      | .ok ([], rest) => .ok (.length name quoted, rest)
      | .ok (_, rest) => .ok (.invalid, rest)
    | none =>
      let name := parameterName cs
      let rest := cs.drop name.length
      match rest, fallbacks.find? fun f => f.1.toList.isPrefixOf rest with
      | '\x7d' :: after, _ => .ok (if name.isEmpty then .invalid else .parameter name quoted, after)
      | _, some (mark, emptyToo, how) =>
        let setting : Setting := ⟨quoted && !drops how, true, false⟩
        match parseParts fuel lines setting (rest.drop mark.length) with
        | .error e => .error e
        | .ok (ps, after) =>
          .ok (if name.isEmpty then .invalid else .adjusted name emptyToo how ps quoted, after)
      | _, none =>
        match parseParts fuel lines ⟨quoted, true, false⟩ rest with
        | .error e => .error e
        | .ok (_, after) => .ok (.invalid, after)

/-- An expression up to its two closing parentheses. -/
private def parseArithmetic (fuel lines depth : Nat) (cs : Octets) : Parsed Word :=
  match fuel with
  | 0 => misread lines cs .missingParentheses
  | fuel + 1 =>
    let more (depth : Nat) (p : Part) (rest : Octets) : Parsed Word :=
      (parseArithmetic fuel lines depth rest).map fun q => (p :: q.1, q.2)
    match cs with
    | [] => misread lines [] .missingParentheses
    | '$' :: rest =>
      match parseDollar fuel lines true rest with
      | .error e => .error e
      | .ok (p, rest) => more depth p rest
    | '\x60' :: rest =>
      match backquoted (rest.length + 1) true rest with
      | none => misread lines [] .unclosedBackquote
      | some (text, rest) =>
        match parseScript fuel (text.count '\n') true true text with
        | .error e => .error e
        | .ok (script, _) => more depth (.output script true) rest
    | ')' :: rest =>
      match depth, rest with
      | 0, ')' :: after => .ok ([], after)
      | depth, _ => more (depth - 1) (.literal [')']) rest
    | c :: rest => more (if c = '(' then depth + 1 else depth) (.literal [c]) rest

/-- The target of a redirection. A document is taken out of the lines that follow. -/
private def parseTarget (fuel lines : Nat) (mode : RedirectMode) (indented : Bool)
    (cs : Octets) : Parsed Word :=
  match fuel with
  | 0 => misread lines cs .unterminatedQuote
  | fuel + 1 =>
    match token false cs with
    | (.word, cs) =>
      if mode = .document then
        let (delimiter, isQuoted, rest) := delimiterWord (cs.length + 1) cs
        let thisLine := rest.takeWhile (· ≠ '\n')
        let following := rest.drop (thisLine.length + 1)
        let (text, after) :=
          documentLines (following.length + 1) indented delimiter following
        let rest := thisLine ++ '\n' :: after
        if isQuoted then .ok ([.literal text], rest)
        else
          match parseParts fuel (text.count '\n') ⟨true, false, true⟩ text with
          | .error e => .error e
          | .ok (ps, _) => .ok (ps, rest)
      else parseParts fuel lines wordSetting cs
    | t => unexpected lines none t

private def parseRedirects (fuel lines : Nat) (cs : Octets) : Parsed (List Redirect) :=
  match fuel with
  | 0 => .ok ([], cs)
  | fuel + 1 =>
    match token true cs with
    | (.redirection fd mode indented, rest) =>
      match parseTarget fuel lines mode indented rest with
      | .error e => .error e
      | .ok (w, rest) =>
        (parseRedirects fuel lines rest).map fun q => (.mk fd mode w :: q.1, q.2)
    | _ => .ok ([], cs)

private def parseSimple (fuel lines line : Nat) (assignments : List (Octets × Word))
    (words : List (Octets × Word)) (redirects : List Redirect) (cs : Octets) : Parsed Command :=
  match fuel with
  | 0 => misread lines cs .unterminatedQuote
  | fuel + 1 =>
    match token false cs with
    | (.redirection fd mode indented, rest) =>
      match parseTarget fuel lines mode indented rest with
      | .error e => .error e
      | .ok (w, rest) =>
        parseSimple fuel lines line assignments words (.mk fd mode w :: redirects) rest
    | (.word, cs) =>
      match (if words.isEmpty then assignment? cs else none) with
      | some (name, rest) =>
        match parseParts fuel lines wordSetting rest with
        | .error e => .error e
        | .ok (w, rest) =>
          parseSimple fuel lines line ((name, w) :: assignments) words redirects rest
      | none =>
        match parseParts fuel lines wordSetting cs with
        | .error e => .error e
        | .ok (w, rest) =>
          let text := cs.take (cs.length - rest.length)
          parseSimple fuel lines line assignments ((text, w) :: words) redirects rest
    | (.mark "(", rest) =>
      match assignments, words, redirects with
      | [], [(name, _)], [] => parseFunction fuel lines name rest
      | _, _, _ =>
        .ok (.simple line assignments.reverse (words.reverse.map (·.2)) redirects.reverse, cs)
    | _ => .ok (.simple line assignments.reverse (words.reverse.map (·.2)) redirects.reverse, cs)

private def parseFunction (fuel lines : Nat) (name : Octets) (cs : Octets) : Parsed Command :=
  match fuel with
  | 0 => misread lines cs .functionName
  | fuel + 1 =>
    match token false cs with
    | (.mark ")", rest) =>
      if !isGoodName name || isSpecialBuiltin name then misread lines rest .functionName
      else (parseCommand fuel lines (lined rest)).map fun q => (.define name q.1, q.2)
    | t => unexpected lines (some ")") t

private def parseBranches (fuel lines : Nat) (branches : List (Script × Script)) (cs : Octets) :
    Parsed (List (Script × Script) × Script) :=
  match fuel with
  | 0 => misread lines cs .unterminatedQuote
  | fuel + 1 =>
    match parseScript fuel lines true false cs with
    | .error e => .error e
    | .ok (condition, rest) =>
      match expect lines "then" rest with
      | .error e => .error e
      | .ok rest =>
        match parseScript fuel lines true false rest with
        | .error e => .error e
        | .ok (body, rest) =>
          let branches := (condition, body) :: branches
          match token true (lined rest) with
          | (.mark "elif", rest) => parseBranches fuel lines branches rest
          | (.mark "else", rest) =>
            match parseScript fuel lines true false rest with
            | .error e => .error e
            | .ok (otherwise, rest) =>
              (expect lines "fi" rest).map fun rest => ((branches.reverse, otherwise), rest)
          | _ => (expect lines "fi" rest).map fun rest => ((branches.reverse, .mk []), rest)

private def parsePatterns (fuel lines : Nat) (cs : Octets) : Parsed (List Word) :=
  match fuel with
  | 0 => misread lines cs .unterminatedQuote
  | fuel + 1 =>
    match token false cs with
    | (.word, cs) =>
      match parseParts fuel lines wordSetting cs with
      | .error e => .error e
      | .ok (w, rest) =>
        match token false rest with
        | (.mark "|", rest) => (parsePatterns fuel lines rest).map fun q => (w :: q.1, q.2)
        | (.mark ")", rest) => .ok ([w], rest)
        | t => unexpected lines (some ")") t
    | (_, rest) => unexpected lines (some ")") (token false rest)

private def parseArms (fuel lines : Nat) (cs : Octets) : Parsed (List (List Word × Script)) :=
  match fuel with
  | 0 => misread lines cs .unterminatedQuote
  | fuel + 1 =>
    let cs := lined cs
    match token true cs with
    | (.mark "esac", rest) => .ok ([], rest)
    | t =>
      match parsePatterns fuel lines (if t.1 = .mark "(" then t.2 else cs) with
      | .error e => .error e
      | .ok (patterns, rest) =>
        match parseScript fuel lines true true rest with
        | .error e => .error e
        | .ok (body, rest) =>
          match token true (lined rest) with
          | (.mark "esac", rest) => .ok ([(patterns, body)], rest)
          | (.mark ";;", rest) =>
            (parseArms fuel lines rest).map fun q => ((patterns, body) :: q.1, q.2)
          | t => unexpected lines (some ";;") t

/-- The words of a loop, up to the end of their line or a semicolon. -/
private def parseItems (fuel lines : Nat) (cs : Octets) : Parsed (List Word) :=
  match fuel with
  | 0 => .ok ([], cs)
  | fuel + 1 =>
    match token false cs with
    | (.word, cs) =>
      match parseParts fuel lines wordSetting cs with
      | .error e => .error e
      | .ok (w, rest) => (parseItems fuel lines rest).map fun q => (w :: q.1, q.2)
    | (.newline, rest) | (.mark ";", rest) => .ok ([], rest)
    | t => unexpected lines none t

private def parseLoopBody (fuel lines : Nat) (cs : Octets) : Parsed Script :=
  match fuel with
  | 0 => misread lines cs .unterminatedQuote
  | fuel + 1 =>
    match expect lines "do" cs with
    | .error e => .error e
    | .ok rest =>
      match parseScript fuel lines true false rest with
      | .error e => .error e
      | .ok (body, rest) => (expect lines "done" rest).map fun rest => (body, rest)

private def parseFor (fuel lines : Nat) (cs : Octets) :
    Parsed (List Redirect → Command) :=
  match fuel with
  | 0 => misread lines cs .loopVariable
  | fuel + 1 =>
    let start := token false cs
    let name := start.2.takeWhile fun c => !endsWord c
    if start.1 ≠ .word || !isGoodName name then misread lines start.2 .loopVariable
    else
      let rest := start.2.drop name.length
      let items : Parsed (List Word) :=
        match token true (lined rest) with
        | (.mark "in", rest) => parseItems fuel lines rest
        | (.mark ";", rest) => .ok ([[.parameter ['@'] true]], rest)
        | _ => .ok ([[.parameter ['@'] true]], rest)
      match items with
      | .error e => .error e
      | .ok (words, rest) =>
        (parseLoopBody fuel lines rest).map fun q => (.each name words q.1, q.2)

private def parseCase (fuel lines : Nat) (cs : Octets) : Parsed (List Redirect → Command) :=
  match fuel with
  | 0 => misread lines cs .unterminatedQuote
  | fuel + 1 =>
    match token false cs with
    | (.word, cs) =>
      match parseParts fuel lines wordSetting cs with
      | .error e => .error e
      | .ok (subject, rest) =>
        match expect lines "in" rest with
        | .error e => .error e
        | .ok rest => (parseArms fuel lines rest).map fun q => (.select subject q.1, q.2)
    | t => misread lines t.2 (.unexpected t.1 (some .word))

private def parseLoop (fuel lines : Nat) (whileTrue : Bool) (cs : Octets) :
    Parsed (List Redirect → Command) :=
  match fuel with
  | 0 => misread lines cs .unterminatedQuote
  | fuel + 1 =>
    match parseScript fuel lines true false cs with
    | .error e => .error e
    | .ok (condition, rest) =>
      (parseLoopBody fuel lines rest).map fun q => (.loop whileTrue condition q.1, q.2)

private def parseEnclosed (fuel lines : Nat) (closing : String)
    (make : Script → List Redirect → Command) (cs : Octets) :
    Parsed (List Redirect → Command) :=
  match fuel with
  | 0 => misread lines cs .unterminatedQuote
  | fuel + 1 =>
    match parseScript fuel lines true false cs with
    | .error e => .error e
    | .ok (body, rest) => (expect lines closing rest).map fun rest => (make body, rest)

private def parseCommand (fuel lines : Nat) (cs : Octets) : Parsed Command :=
  match fuel with
  | 0 => misread lines cs .unterminatedQuote
  | fuel + 1 =>
    let redirected (r : Parsed (List Redirect → Command)) : Parsed Command :=
      match r with
      | .error e => .error e
      | .ok (make, rest) => (parseRedirects fuel lines rest).map fun q => (make q.1, q.2)
    match token true cs with
    | (.mark "(", rest) => redirected (parseEnclosed fuel lines ")" .subshell rest)
    | (.mark "\x7b", rest) => redirected (parseEnclosed fuel lines "\x7d" .group rest)
    | (.mark "if", rest) =>
      redirected ((parseBranches fuel lines [] rest).map fun q => (.choose q.1.1 q.1.2, q.2))
    | (.mark "case", rest) => redirected (parseCase fuel lines rest)
    | (.mark "for", rest) => redirected (parseFor fuel lines rest)
    | (.mark "while", rest) => redirected (parseLoop fuel lines true rest)
    | (.mark "until", rest) => redirected (parseLoop fuel lines false rest)
    | (.word, _) | (.redirection _ _ _, _) =>
      parseSimple fuel lines (lineAt lines (spaced cs)) [] [] [] cs
    | t => unexpected lines none t

private def parsePipe (fuel lines : Nat) (cs : Octets) : Parsed (List Command) :=
  match fuel with
  | 0 => misread lines cs .unterminatedQuote
  | fuel + 1 =>
    match parseCommand fuel lines cs with
    | .error e => .error e
    | .ok (c, rest) =>
      match token true rest with
      | (.mark "|", after) =>
        (parsePipe fuel lines (lined after)).map fun q => (c :: q.1, q.2)
      | _ => .ok ([c], rest)

private def parsePipeline (fuel lines : Nat) (cs : Octets) : Parsed Pipeline :=
  match fuel with
  | 0 => misread lines cs .unterminatedQuote
  | fuel + 1 =>
    match token true cs with
    | (.mark "!", rest) => (parsePipe fuel lines rest).map fun q => (.mk true q.1, q.2)
    | _ => (parsePipe fuel lines cs).map fun q => (.mk false q.1, q.2)

private def parseMore (fuel lines : Nat) (cs : Octets) : Parsed (List (Bool × Pipeline)) :=
  match fuel with
  | 0 => .ok ([], cs)
  | fuel + 1 =>
    let next (both : Bool) (rest : Octets) : Parsed (List (Bool × Pipeline)) :=
      match parsePipeline fuel lines (lined rest) with
      | .error e => .error e
      | .ok (p, rest) => (parseMore fuel lines rest).map fun q => ((both, p) :: q.1, q.2)
    match token false cs with
    | (.mark "&&", rest) => next true rest
    | (.mark "||", rest) => next false rest
    | _ => .ok ([], cs)

/-- A list of commands. An inner one ends at a closing token, which may stand at its start if
`begun` holds already. -/
private def parseScript (fuel lines : Nat) (inner begun : Bool) (cs : Octets) : Parsed Script :=
  match fuel with
  | 0 => misread lines cs .unterminatedQuote
  | fuel + 1 =>
    let cs := lined cs
    let t := (token true cs).1
    if t = .finish || (inner && begun && t.closes) then .ok (.mk [], cs)
    else
      match parsePipeline fuel lines cs with
      | .error e => .error e
      | .ok (first, rest) =>
        match parseMore fuel lines rest with
        | .error e => .error e
        | .ok (more, rest) =>
          let goOn (background : Bool) (rest : Octets) : Parsed Script :=
            (parseScript fuel lines inner true rest).map fun q =>
              (match q.1 with | .mk cs => .mk (.mk first more background :: cs), q.2)
          match token false rest with
          | (.mark ";", after) | (.newline, after) => goOn false after
          | (.mark "&", after) => goOn true after
          | (.finish, after) => .ok (.mk [.mk first more false], after)
          | t =>
            if inner then .ok (.mk [.mk first more false], rest) else unexpected lines none t

end

/-- The script that a whole text is. -/
def Script.parse (cs : Octets) : Except Misread Script :=
  (parseScript (8 * cs.length + 32) (cs.count '\n') false false cs).map (·.1)

end BrokerGate.Terminal.Shell
