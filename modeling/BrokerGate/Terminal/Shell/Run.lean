import BrokerGate.Terminal.Shell.Arithmetic
import BrokerGate.Terminal.Shell.Builtin
import BrokerGate.Terminal.Shell.Call
import BrokerGate.Terminal.Shell.Parse

/-! Running shell scripts. Every step is counted, so that a script which never ends is cut off. -/
namespace BrokerGate.Terminal.Shell
open Text Decimal

/-- Opens the target of a redirection. The error says why that fails. -/
private def opened (m : Machine) (fd : Nat) (mode : RedirectMode) (target : Octets) :
    Except Octets Machine :=
  let refused (verb : String) (why : String) : Except Octets Machine :=
    .error ("cannot ".toList ++ verb.toList ++ ' ' :: target ++ (": " ++ why).toList)
  let creating (files : Files) : Except Octets Machine :=
    if m.files.isDirectory target then refused "create" "Is a directory"
    else if !m.files.isDirectory (Files.parent target) then
      refused "create" "Directory nonexistent"
    else .ok ({ m with files }.setSink fd (some (.file target)))
  match mode with
  | .document => .ok { m with input := ⟨target, false⟩ }
  | .duplicate =>
    match target with
    | ['-'] => .ok (if fd = 0 then { m with input := ⟨[], false⟩ } else m.setSink fd none)
    | [d] =>
      if !d.isDigit then .error "Syntax error: Bad fd number".toList
      else if d = '0' then .ok m
      else
        match m.sink? (d.toNat - 48) with
        | some s => .ok (if fd = 0 then m else m.setSink fd (some s))
        | none => .error (d :: ": Bad file descriptor".toList)
    | _ => .error "Syntax error: Bad fd number".toList
  | .read =>
    match m.files.read? target with
    | some text =>
      .ok (if fd = 0 then { m with input := ⟨text, !Files.isDevice target⟩ } else m)
    | none =>
      if m.files.isDirectory target then .ok { m with input := ⟨[], false⟩ }
      else refused "open" "No such file"
  | .append => creating (m.files.append target [])
  | .both => creating (if m.files.exists? target then m.files else m.files.put target [])
  | .write => creating (m.files.put target [])

/-- Gives back what redirections have changed. -/
private def restored (before m : Machine) : Machine :=
  { m with sinks := before.sinks, input := before.input }

/-- A failed command that nobody expects ends a strict shell. -/
private def checked (e : Ended) : Ended :=
  match e with
  | (m, none) =>
    if m.strict && !m.guarded && m.status ≠ 0 then (m, some (.exit m.status)) else (m, none)
  | e => e

private def signalText (n : Nat) : Option String :=
  match n with
  | 1 => some "Hangup"
  | 2 => some ""
  | 3 => some "Quit"
  | 4 => some "Illegal instruction"
  | 5 => some "Trace/breakpoint trap"
  | 6 => some "Aborted"
  | 7 => some "Bus error"
  | 8 => some "Floating point exception"
  | 9 => some "Killed"
  | 10 => some "User defined signal 1"
  | 11 => some "Segmentation fault"
  | 12 => some "User defined signal 2"
  | 14 => some "Alarm clock"
  | 15 => some "Terminated"
  | _ => none

private def undoLocals (hidden : List (Octets × Option Octets)) (m : Machine) : Machine :=
  hidden.foldl (fun m h =>
    match h.2 with
    | some v => m.assign h.1 v
    | none => m.forget h.1) m

/-- Goes on to the next step unless there is a reason to stop. -/
private def thenDo (e : Ended) (next : Machine → Ended) : Ended :=
  match e with
  | (m, none) => next m
  | e => e

/-- What the end of a loop's body means for the loop: go on, or leave it. -/
private def roundEnd (e : Ended) (goOn : Machine → Ended) : Ended :=
  match e with
  | (m, none) | (m, some (.nextRound 1)) => goOn m
  | (m, some (.leaveLoop 1)) => (m, none)
  | (m, some (.leaveLoop n)) => (m, some (.leaveLoop (n - 1)))
  | (m, some (.nextRound n)) => (m, some (.nextRound (n - 1)))
  | e => e

private def failsOnly (c : Command) : Bool :=
  match c with
  | .simple _ _ _ _ | .subshell _ _ => true
  | _ => false

mutual

private def expandParts (fuel : Nat) (m : Machine) (ps : List Part) : List Item × Ended :=
  match fuel, ps with
  | 0, _ => ([], abort m)
  | _, [] => ([], (m, none))
  | fuel + 1, p :: rest =>
    match expandPart fuel m p with
    | (items, (m, none)) =>
      let (more, e) := expandParts fuel m rest
      (items ++ more, e)
    | r => r

private def expandPart (fuel : Nat) (m : Machine) (p : Part) : List Item × Ended :=
  match fuel with
  | 0 => ([], abort m)
  | fuel + 1 =>
    let unset (m : Machine) (name why : Octets) : List Item × Ended :=
      ([], abort (m.complain (name ++ ": ".toList ++ why)))
    match p with
    | .bare text => (text.map fun c => .char c false false, (m, none))
    | .literal text => (.mark :: text.map fun c => .char c true false, (m, none))
    | .parameter name isQuoted =>
      if isMissing m name then unset m name "parameter not set".toList
      else (parameterItems m name isQuoted, (m, none))
    | .length name isQuoted =>
      if isMissing m name then unset m name "parameter not set".toList
      else
        let n := ((parameter? m name).getD []).length
        (valueItems isQuoted (toString n).toList, (m, none))
    | .adjusted name emptyToo how word isQuoted =>
      let value := parameter? m name
      let present := value.any fun v => !(emptyToo && v.isEmpty)
      match how with
      | .useInstead =>
        if present then (parameterItems m name isQuoted, (m, none)) else expandParts fuel m word
      | .useIfSet =>
        if present then expandParts fuel m word else ((if isQuoted then [.mark] else []), (m, none))
      | .assign =>
        if present then (parameterItems m name isQuoted, (m, none))
        else
          let (items, m, stop) := expandParts fuel m word
          let text := itemsText items
          (valueItems isQuoted text, (m.assign name text, stop))
      | .fail =>
        if present then (parameterItems m name isQuoted, (m, none))
        else
          let (items, m, _) := expandParts fuel m word
          let text := itemsText items
          let usual := if emptyToo then "parameter not set or null" else "parameter not set"
          unset m name (if word.isEmpty then usual.toList else text)
      | _ =>
        if isMissing m name then unset m name "parameter not set".toList
        else
          let (items, e) := expandParts fuel m word
          let atEnd := how = .dropShortestEnd || how = .dropLongestEnd
          let longest := how = .dropLongestEnd || how = .dropLongestStart
          (valueItems isQuoted ((itemsPattern items).drop atEnd longest (value.getD [])), e)
    | .output script isQuoted =>
      let (channel, inner) := { m with guarded := false }.captured
      let (after, stop) := runApart fuel inner script
      let text := (after.received channel).filter (· ≠ '\x00')
      let m := (m.afterApart after).discard channel
      (valueItems isQuoted (trimEndBy (· = '\n') text),
        ({ m with substituted := some after.status }, stop))
    | .arithmetic word isQuoted =>
      match expandParts fuel m word with
      | (items, (m, none)) =>
        let text := itemsText items
        match Arithmetic.evaluate m.bindings text with
        | .ok (n, bindings) =>
          (valueItems isQuoted (toString n).toList, ({ m with bindings }, none))
        | .error f => ([], abort (m.complain (f.message text)))
      | r => r
    | .invalid => ([], abort (m.complain "Bad substitution".toList))

private def expandWords (fuel : Nat) (m : Machine) (ws : List Word) : List Octets × Ended :=
  match fuel, ws with
  | 0, _ => ([], abort m)
  | _, [] => ([], (m, none))
  | fuel + 1, w :: rest =>
    match expandParts fuel m w with
    | (items, (m, none)) =>
      let (more, e) := expandWords fuel m rest
      (fieldsOf m items ++ more, e)
    | (_, e) => ([], e)

private def expandText (fuel : Nat) (m : Machine) (w : Word) : Octets × Ended :=
  match fuel with
  | 0 => ([], abort m)
  | fuel + 1 =>
    let (items, e) := expandParts fuel m w
    (itemsText items, e)

/-- Opens files and redirects descriptors in order; the flag says that all could be opened. -/
private def redirect (fuel : Nat) (m : Machine) (rs : List Redirect) : Bool × Ended :=
  match fuel, rs with
  | 0, _ => (false, abort m)
  | _, [] => (true, (m, none))
  | fuel + 1, .mk fd mode target :: rest =>
    match expandText fuel m target with
    | (path, (m, none)) =>
      match opened m fd mode path with
      | .ok m => redirect fuel m rest
      | .error text => (false, finishWith 2 (m.complain text))
    | (_, e) => (false, e)

private def assignAll (fuel : Nat) (m : Machine) (as : List (Octets × Word)) : Ended :=
  match fuel, as with
  | 0, _ => abort m
  | _, [] => (m, none)
  | fuel + 1, (name, w) :: rest =>
    let (text, e) := expandText fuel m w
    thenDo e fun m =>
      if m.constants.contains name then abort (m.complain (name ++ ": is read only".toList))
      else assignAll fuel (m.assign name text) rest

/-- Runs a text as part of this shell. -/
private def runWithin (fuel : Nat) (m : Machine) (speaker text : Octets) : Ended :=
  match fuel with
  | 0 => abort m
  | fuel + 1 =>
    let before := m.speaker
    let line := m.line
    match Script.parse text with
    | .error e => abort ({ m with speaker := some speaker, line := e.line }.complain
        e.cause.message.toList)
    | .ok s =>
      let (m, stop) := runScript fuel { m with speaker := some speaker, status := 0 } s
      ({ m with speaker := before, line }, stop)

/-- Runs the actions of signals that have come. -/
private def runPending (fuel : Nat) (m : Machine) : Ended :=
  match fuel with
  | 0 => abort m
  | fuel + 1 =>
    match m.pending with
    | [] => (m, none)
    | action :: rest =>
      let status := m.status
      thenDo (runWithin fuel { m with pending := rest } "trap".toList action) fun m =>
        runPending fuel { m with status }

/-- The end of a shell: the status that is left, after the action for its end. -/
private def close (fuel : Nat) (e : Ended) : Ended :=
  match fuel, e with
  | 0, e => e
  | _, (m, some (.killed pid signal)) => (m, some (.killed pid signal))
  | fuel + 1, (m, stop) =>
    let status := match stop with
      | some (.exit n) => n
      | _ => m.status
    match m.traps.lookup 0 with
    | none => finishWith status m
    | some action =>
      let m := { m with status, traps := m.traps.filter (·.1 ≠ 0) }
      match runWithin fuel m "trap".toList action with
      | (m, some (.exit n)) => finishWith n m
      | (m, some (.killed pid signal)) => (m, some (.killed pid signal))
      | (m, _) => finishWith status m

/-- A command that runs other commands in this shell. -/
private def runner? (fuel : Nat) (m : Machine) (name : Octets) (args : List Octets) :
    Option Ended :=
  match fuel with
  | 0 => none
  | fuel + 1 =>
    match String.ofList name with
    | "eval" => some (runWithin fuel m "eval".toList (joinWith [' '] args))
    | "." =>
      match args with
      | [] => some (finishWith 0 m)
      | file :: _ =>
        match m.files.read? file with
        | some text =>
          if file.contains '/' then
            match runWithin fuel m file text with
            | (m, some .returned) => some (m, none)
            | e => some e
          else some (abort (m.protest (".: ".toList ++ file ++ ": not found".toList)))
        | none =>
          some (abort (m.protest (if file.contains '/' then
              ".: cannot open ".toList ++ file ++ ": No such file".toList
            else ".: ".toList ++ file ++ ": not found".toList)))
    | "exec" =>
      match args with
      | [] => some (finishWith 0 m)
      | program :: rest =>
        match runProgram fuel m m.pid program rest with
        | some (m, none) => some (m, some (.exit m.status))
        | some e => some e
        | none =>
          let e := notFound { m with speaker := some "exec".toList } program
          some (e.1, some (.exit e.1.status))
    | "command" =>
      match Builtin.described? args m, args with
      | some e, _ => some e
      | none, [] => some (finishWith 0 m)
      | none, name :: rest => some (invoke fuel m false name rest)
    | _ => none

private def notFound (m : Machine) (name : Octets) : Ended :=
  match resolve m.searchPath m.files name with
  | .error .permissionDenied =>
    finishWith 126 (m.complain (name ++ ": Permission denied".toList))
  | _ =>
    let why := if name.isEmpty then ": Permission denied" else ": not found"
    finishWith 127 (m.complain (name ++ why.toList))

/-- Runs a program that is found. Another shell gets a process number of its own unless it takes the
place of this one. -/
private def runProgram (fuel : Nat) (m : Machine) (pid : Nat) (name : Octets)
    (args : List Octets) : Option Ended :=
  match fuel with
  | 0 => none
  | fuel + 1 =>
    match resolve m.searchPath m.files name with
    | .error _ => none
    | .ok path =>
      if baseName path = "sh".toList then
        let inner := { m with
          functions := [], constants := [], traps := m.traps.filter (·.2.isEmpty), pending := []
          pid := pid, speaker := none, substituted := none, strict := false, needsSet := false
          guarded := false, loops := 0, inFunction := false, hidden := [], status := 0 }
        let (after, stop) := runShell fuel inner name args
        let m := m.afterApart after
        match stop with
        | some (.killed p signal) =>
          if p = pid && p ≠ m.pid then
            some (finishWith (128 + signal) (match signalText signal with
              | some text => m.write 2 (text ++ "\n").toList
              | none => m))
          else some (m, some (.killed p signal))
        | _ => some (finishWith after.status m)
      else
        match Utility.run? (baseName path) .program m.files m.input args with
        | none => none
        | some r =>
          let input := if Utility.readsInput (baseName path) then ⟨[], false⟩ else m.input
          let m := { m with files := r.files, input }
          let lines := r.complaints.flatMap (·.write name ++ ['\n'])
          some (finishWith r.status ((m.write 1 r.out).write 2 lines))

private def callFunction (fuel : Nat) (m : Machine) (body : Command) (args : List Octets) : Ended :=
  match fuel with
  | 0 => abort m
  | fuel + 1 =>
    let inner := { m with arguments := args, loops := 0, inFunction := true, hidden := [] }
    let (after, stop) := runCommand fuel inner body
    let after := undoLocals after.hidden after
    let m := { after with
      arguments := m.arguments, loops := m.loops, inFunction := m.inFunction, hidden := m.hidden }
    (m, if stop = some .returned then none else stop)

/-- Runs a command by its name. -/
private def invoke (fuel : Nat) (m : Machine) (functions : Bool) (name : Octets)
    (args : List Octets) : Ended :=
  match fuel with
  | 0 => abort m
  | fuel + 1 =>
    let function := if functions && !isSpecialBuiltin name then m.functions.lookup name else none
    match function with
    | some body => callFunction fuel m body args
    | none =>
      match runner? fuel m name args with
      | some e => e
      | none =>
        match Builtin.run? name args m with
        | some e => e
        | none =>
          if Utility.isBuiltin name then
            match Utility.run? name .builtin m.files m.input args with
            | some r =>
              let m := { m with files := r.files }
              let m := r.complaints.foldl (fun m c => m.protest (c.write name)) m
              finishWith r.status (m.write 1 r.out)
            | none => notFound m name
          else
            match runProgram fuel m (m.pid + 1) name args with
            | some e => e
            | none => notFound m name

private def runSimple (fuel : Nat) (m : Machine) (assignments : List (Octets × Word))
    (words : List Word) (redirects : List Redirect) : Ended :=
  match fuel with
  | 0 => abort m
  | fuel + 1 =>
    let (fields, e) := expandWords fuel { m with substituted := none } words
    thenDo e fun m =>
      match redirect fuel m redirects with
      | (_, (after, some s)) => (restored m after, some s)
      | (false, (after, none)) =>
        let m := restored m after
        if fields.head?.any isSpecialBuiltin then abort m else finishWith 2 m
      | (true, (redirected, none)) =>
        match fields with
        | [] =>
          thenDo (assignAll fuel redirected assignments) fun after =>
            finishWith (after.substituted.getD 0) (restored m after)
        | name :: args =>
          thenDo (assignAll fuel redirected assignments) fun inner =>
            let keeps := name = "exec".toList && args.isEmpty
            let (after, stop) := invoke fuel inner true name args
            let after := if keeps then after else restored { m with input :=
              if redirects.isEmpty then after.input else m.input } after
            let after := if assignments.isEmpty || isSpecialBuiltin name then after
              else { after with bindings := m.bindings }
            thenDo (after, stop) (runPending fuel)

private def runCommand (fuel : Nat) (m : Machine) (c : Command) : Ended :=
  match fuel with
  | 0 => abort m
  | fuel + 1 =>
    let within (redirects : List Redirect) (body : Machine → Ended) : Ended :=
      match redirect fuel m redirects with
      | (_, (after, some s)) => (restored m after, some s)
      | (false, (after, none)) => finishWith 2 (restored m after)
      | (true, (inner, none)) =>
        let (after, stop) := body inner
        let input := if redirects.isEmpty then after.input else m.input
        ({ after with sinks := if redirects.isEmpty then after.sinks else m.sinks, input }, stop)
    match c with
    | .simple line assignments words redirects =>
      runSimple fuel { m with line } assignments words redirects
    | .group body redirects => within redirects fun m => runScript fuel m body
    | .subshell body redirects => within redirects fun m => runApart fuel m body
    | .choose branches otherwise redirects =>
      within redirects fun m => runBranches fuel m branches otherwise
    | .select subject arms redirects => within redirects fun m =>
      let (text, e) := expandText fuel m subject
      thenDo e fun m => runArms fuel { m with status := 0 } text arms
    | .each name words body redirects => within redirects fun m =>
      let (fields, e) := expandWords fuel m words
      thenDo e fun m =>
        let loops := m.loops
        let (m, stop) := runEach fuel { m with status := 0, loops := loops + 1 } name fields body
        ({ m with loops }, stop)
    | .loop whileTrue condition body redirects => within redirects fun m =>
      let loops := m.loops
      let (m, stop) := runLoop fuel { m with loops := loops + 1 } whileTrue condition body 0
      ({ m with loops }, stop)
    | .define name body =>
      finishWith 0 { m with functions := (name, body) :: m.functions.filter (·.1 ≠ name) }

/-- Runs a script whose failures are expected. -/
private def runCondition (fuel : Nat) (m : Machine) (s : Script) : Ended :=
  match fuel with
  | 0 => abort m
  | fuel + 1 =>
    let guarded := m.guarded
    let (m, stop) := runScript fuel { m with guarded := true } s
    ({ m with guarded }, stop)

private def runBranches (fuel : Nat) (m : Machine) (branches : List (Script × Script))
    (otherwise : Script) : Ended :=
  match fuel, branches with
  | 0, _ => abort m
  | fuel + 1, [] => runScript fuel { m with status := 0 } otherwise
  | fuel + 1, (condition, body) :: rest =>
    thenDo (runCondition fuel m condition) fun m =>
      if m.status = 0 then runScript fuel m body else runBranches fuel m rest otherwise

private def runArms (fuel : Nat) (m : Machine) (text : Octets)
    (arms : List (List Word × Script)) : Ended :=
  match fuel, arms with
  | 0, _ => abort m
  | _, [] => (m, none)
  | fuel + 1, (patterns, body) :: rest =>
    let (hit, e) := anyPattern fuel m text patterns
    thenDo e fun m => if hit then runScript fuel m body else runArms fuel m text rest

private def anyPattern (fuel : Nat) (m : Machine) (text : Octets) (patterns : List Word) :
    Bool × Ended :=
  match fuel, patterns with
  | 0, _ => (false, abort m)
  | _, [] => (false, (m, none))
  | fuel + 1, w :: rest =>
    match expandParts fuel m w with
    | (items, (m, none)) =>
      if (itemsPattern items).accepts text then (true, (m, none)) else anyPattern fuel m text rest
    | (_, e) => (false, e)

private def runEach (fuel : Nat) (m : Machine) (name : Octets) (fields : List Octets)
    (body : Script) : Ended :=
  match fuel, fields with
  | 0, _ => abort m
  | _, [] => (m, none)
  | fuel + 1, f :: rest =>
    roundEnd (runScript fuel (m.assign name f) body) fun m => runEach fuel m name rest body

private def runLoop (fuel : Nat) (m : Machine) (whileTrue : Bool) (condition body : Script)
    (status : Nat) : Ended :=
  match fuel with
  | 0 => abort m
  | fuel + 1 =>
    roundEnd (runCondition fuel m condition) fun m =>
      if (m.status = 0) != whileTrue then finishWith status m
      else
        roundEnd (runScript fuel m body) fun m =>
          runLoop fuel m whileTrue condition body m.status

/-- Runs a script in a shell of its own: its variables and its end do not concern the one around
it. -/
private def runApart (fuel : Nat) (m : Machine) (s : Script) : Ended :=
  match fuel with
  | 0 => abort m
  | fuel + 1 =>
    let inner := { m with traps := m.traps.filter (·.2.isEmpty), loops := 0 }
    let (after, stop) := close fuel (runScript fuel inner s)
    let m := m.afterApart after
    match stop with
    | some s => (m, some s)
    | none => finishWith after.status m

/-- Each command of a pipeline reads what the one before it wrote. -/
private def runPipe (fuel : Nat) (m : Machine) (cs : List Command) : Ended :=
  match fuel, cs with
  | 0, _ => abort m
  | _, [] => (m, none)
  | fuel + 1, [c] => runApart fuel m (.mk [.mk (.mk false [c]) [] false])
  | fuel + 1, c :: rest =>
    let (channel, inner) := m.captured
    let (after, stop) := runApart fuel inner (.mk [.mk (.mk false [c]) [] false])
    let piped := after.received channel
    let next := { (m.afterApart after).discard channel with input := ⟨piped, false⟩ }
    thenDo (next, stop) fun m => runPipe fuel m rest

private def runPipeline (fuel : Nat) (m : Machine) (p : Pipeline) : Ended :=
  match fuel with
  | 0 => abort m
  | fuel + 1 =>
    match p with
    | .mk negated cs =>
      let guarded := m.guarded
      let inner := { m with guarded := guarded || negated }
      let run : Ended := match cs with
        | [c] =>
          let e := runCommand fuel inner c
          if failsOnly c then checked e else e
        | _ =>
          let (after, stop) := runPipe fuel inner cs
          checked ({ after with input := m.input }, stop)
      let (m, stop) := run
      thenDo ({ m with guarded }, stop) fun m =>
        if negated then finishWith (if m.status = 0 then 1 else 0) m else (m, none)

/-- Pipelines joined by conditions. The failure of one counts only if it comes last. -/
private def runMore (fuel : Nat) (m : Machine) (p : Pipeline) (more : List (Bool × Pipeline)) :
    Ended :=
  match fuel, more with
  | 0, _ => abort m
  | fuel + 1, [] => runPipeline fuel m p
  | fuel + 1, (both, next) :: rest =>
    let guarded := m.guarded
    let (m, stop) := runPipeline fuel { m with guarded := true } p
    thenDo ({ m with guarded }, stop) fun m =>
      if (m.status = 0) = both then runMore fuel m next rest else runRest fuel m rest

/-- Looks for the next pipeline that runs after one was passed over. -/
private def runRest (fuel : Nat) (m : Machine) (more : List (Bool × Pipeline)) : Ended :=
  match fuel, more with
  | 0, _ => abort m
  | _, [] => (m, none)
  | fuel + 1, (both, next) :: rest =>
    if (m.status = 0) = both then runMore fuel m next rest else runRest fuel m rest

private def runScript (fuel : Nat) (m : Machine) (s : Script) : Ended :=
  match fuel, s with
  | 0, _ => abort m
  | _, .mk [] => (m, none)
  | fuel + 1, .mk (.mk first more background :: rest) =>
    let e := if background then
        let input := m.input
        let alone := { m with input := ⟨[], false⟩ }
        thenDo (runApart fuel alone (.mk [.mk first more false])) fun m =>
          finishWith 0 { m with input }
      else runMore fuel m first more
    thenDo e fun m => runScript fuel m (.mk rest)

/-- Runs a shell as it was called, to its end. -/
private def runShell (fuel : Nat) (m : Machine) (program : Octets) (args : List Octets) : Ended :=
  match fuel with
  | 0 => abort m
  | fuel + 1 =>
    match Call.read program args with
    | .error text =>
      finishWith 2 ({ m with name := program, line := 0, speaker := none }.protest text)
    | .ok call =>
      let m := { m with
        name := call.name, arguments := call.arguments, strict := call.strict
        needsSet := call.needsSet }
      let run (m : Machine) (text : Octets) : Ended :=
        match Script.parse text with
        | .error e => finishWith 2 ({ m with line := e.line }.complain e.cause.message.toList)
        | .ok s => if call.readOnly then finishWith 0 m else close fuel (runScript fuel m s)
      match call.source with
      | .text text => run m text
      | .input => run { m with input := ⟨[], false⟩ } m.input.text
      | .file path =>
        match m.files.read? path with
        | some text => run m text
        | none =>
          if m.files.isDirectory path then finishWith 0 m
          else
            finishWith 2 ({ m with name := program, line := 0 }.protest
              ("cannot open ".toList ++ path ++ ": No such file".toList))

end

structure Ran where
  ending : Ending
  out : Octets
  err : Octets
  files : Files

def stepLimit : Nat := 20000

private def firstPid : Nat := 4242

/-- Runs a shell that was called by name with some words. -/
def runCall (fs : Files) (bindings : List (Octets × Octets)) (program : Octets)
    (args : List Octets) : Ran :=
  let m : Machine :=
    { files := fs, bindings := ("OPTIND".toList, ['1']) :: bindings, constants := []
      functions := [], traps := [], pending := [], arguments := [], name := program
      pid := firstPid, line := 1, speaker := none, status := 0, substituted := none
      input := ⟨[], false⟩, sinks := [(1, .channel 0), (2, .channel 1)], channels := 2
      written := [], strict := false, needsSet := false, guarded := false, loops := 0
      inFunction := false, hidden := [] }
  let (m, stop) := runShell stepLimit m program args
  let ending := match stop with
    | some (.killed _ signal) => .killed signal
    | some (.exit n) => .exited n
    | _ => .exited m.status
  ⟨ending, m.received 0, m.received 1, m.files⟩

end BrokerGate.Terminal.Shell
