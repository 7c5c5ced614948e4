import BrokerGate.Terminal.Shell.Expansion
import BrokerGate.Terminal.Shell.Token

/-! Commands that change the shell itself and run nothing. -/
namespace BrokerGate.Terminal.Shell.Builtin
open Text Decimal

def isBuiltin (name : Octets) : Bool :=
  isSpecialBuiltin name || Utility.isBuiltin name ||
    (["cd", "command", "kill", "local", "pwd", "read", "type", "umask", "wait"] :
      List String).contains (String.ofList name)

private def refused (name : String) (text : String) (m : Machine) : Ended :=
  let m := m.protest ((name ++ ": ").toList ++ text.toList)
  if isSpecialBuiltin name.toList then abort m else finishWith 2 m

private def number? (cs : Octets) : Option Nat :=
  (natural? 10 cs).bind fun n => if n < 0x80000000 then some n else none

private def illegal (name : String) (word : Octets) (m : Machine) : Ended :=
  refused name ("Illegal number: " ++ String.ofList word) m

/-- The number that a command was given, or a usual one. -/
private def withNumber (name : String) (usual : Nat) (args : List Octets) (m : Machine)
    (act : Nat → Ended) : Ended :=
  match args with
  | [] => act usual
  | a :: _ =>
    match number? a with
    | some n => act n
    | none => illegal name a m

private def leave (name : String) (args : List Octets) (m : Machine) (stop : Nat → Stop) :
    Ended :=
  withNumber name 1 args m fun n =>
    if n = 0 then illegal name ['0'] m
    else if m.loops = 0 then finishWith 0 m
    else ({ m with status := 0 }, some (stop (min n m.loops)))

/-! ### Signals -/

/-- Signals that end no process by themselves. -/
private def isHarmless (signal : Nat) : Bool :=
  signal = 0 || [17, 18, 19, 20, 21, 22, 23, 28].contains signal

private def signalLimit : Nat := 65

private def signal? (cs : Octets) : Option Nat :=
  match natural? 10 cs with
  | some n => if n < signalLimit then some n else none
  | none =>
    ((signals.find? fun s => s.1.toList = cs.map Char.toUpper && s.1 ≠ "STKFLT").map (·.2))

private def signalName (n : Nat) : String :=
  match signals.find? fun s => s.2 = n && s.1 ≠ "STKFLT" with
  | some s => s.1
  | none => toString n

private def killUsage : String :=
  "Usage: kill [-s sigspec | -signum | -sigspec] [pid | job]... or\nkill -l [exitstatus]"

/-- A signal for this shell: an action waits for the end of the command, an empty one ignores it. -/
private def deliver (signal : Nat) (m : Machine) : Ended :=
  match m.traps.lookup signal with
  | some [] => finishWith 0 m
  | some action =>
    if signal = 9 then (m, some (.killed m.pid signal))
    else finishWith 0 { m with pending := m.pending ++ [action] }
  | none => if isHarmless signal then finishWith 0 m else (m, some (.killed m.pid signal))

private def killEach (signal : Nat) (failed : Bool) (m : Machine) : List Octets → Ended
  | [] => finishWith (if failed then 1 else 0) m
  | p :: rest =>
    match number? (if p.head? = some '-' then p.drop 1 else p) with
    | none => illegal "kill" p m
    | some n =>
      if p.head? ≠ some '-' && n = m.pid then
        match deliver signal m with
        | (m, none) => killEach signal failed m rest
        | e => e
      else killEach signal true (m.protest "kill: No such process\n".toList) rest

private def killWith (signal : Nat) (pids : List Octets) (m : Machine) : Ended :=
  if pids.isEmpty then refused "kill" killUsage m else killEach signal false m pids

private def kill (args : List Octets) (m : Machine) : Ended :=
  match args with
  | ['-', 's'] :: s :: pids =>
    match signal? s with
    | some n => killWith n pids m
    | none => refused "kill" ("invalid signal number or name: " ++ String.ofList s) m
  | ['-', 'l'] :: rest =>
    withNumber "kill" 0 rest m fun n =>
      finishWith 0 (m.write 1 (signalName (if n > 128 then n - 128 else n) ++ "\n").toList)
  | ['-', '-'] :: pids => killWith 15 pids m
  | ('-' :: s) :: pids =>
    match signal? s, s with
    | some n, _ => killWith n pids m
    | none, c :: _ => refused "kill" ("Illegal option -" ++ String.ofList [c]) m
    | none, [] => killWith 15 pids m
  | pids => killWith 15 pids m

private def trapNumber? (cs : Octets) : Option Nat :=
  if cs.map Char.toUpper = "EXIT".toList then some 0 else signal? cs

private def setTraps (action : Option Octets) (names : List Octets) (m : Machine) : Ended :=
  match names.find? fun n => (trapNumber? n).isNone with
  | some n => finishWith 1 (m.write 2 ("trap: ".toList ++ n ++ ": bad trap\n".toList))
  | none =>
    let numbers := names.filterMap trapNumber?
    let others := m.traps.filter fun t => !numbers.contains t.1
    finishWith 0 { m with traps := match action with
      | some a => numbers.map (fun n => (n, a)) ++ others
      | none => others }

private def listTraps (m : Machine) : Octets :=
  (m.traps.reverse.flatMap fun t =>
    "trap -- '".toList ++ t.2 ++ "' ".toList ++
      (if t.1 = 0 then "EXIT" else signalName t.1).toList ++ ['\n'])

private def trap (args : List Octets) (m : Machine) : Ended :=
  match (if args.head? = some ['-', '-'] then args.drop 1 else args) with
  | [] => finishWith 0 (m.write 1 (listTraps m))
  | [name] => setTraps none [name] m
  | action :: names =>
    if action = ['-'] then setTraps none names m
    else if (natural? 10 action).isSome then setTraps none (action :: names) m
    else setTraps (some action) names m

/-! ### Variables -/

private def assignChecked (name value : Octets) (m : Machine) : Option Machine :=
  if m.constants.contains name then none else some (m.assign name value)

private def declare (command : String) (constant : Bool) (m : Machine) : List Octets → Ended
  | [] => finishWith 0 m
  | a :: rest =>
    if a = ['-', 'p'] || a = ['-', '-'] then declare command constant m rest
    else
      let (name, value) := match cutFirst '=' a with
        | some (n, v) => (n, some v)
        | none => (a, none)
      if !isGoodName name then
        refused command (String.ofList name ++ ": bad variable name") m
      else
        let next := match value with
          | some v => assignChecked name v m
          | none => some m
        match next with
        | none => refused command (String.ofList name ++ ": is read only") m
        | some m =>
          let m := if constant then { m with constants := name :: m.constants } else m
          declare command constant m rest

private def unset (functions : Bool) (m : Machine) : List Octets → Ended
  | [] => finishWith 0 m
  | a :: rest =>
    if a = ['-', 'f'] then unset true m rest
    else if a = ['-', 'v'] then unset false m rest
    else if functions then unset true { m with functions := m.functions.filter (·.1 ≠ a) } rest
    else if !isGoodName a then refused "unset" (String.ofList a ++ ": bad variable name") m
    else if m.constants.contains a then refused "unset" (String.ofList a ++ ": is read only") m
    else unset false (m.forget a) rest

private def declareLocal (m : Machine) : List Octets → Ended
  | [] => finishWith 0 m
  | a :: rest =>
    let (name, value) := match cutFirst '=' a with
      | some (n, v) => (n, some v)
      | none => (a, none)
    let m := { m with hidden := (name, m.lookUp name) :: m.hidden }
    declareLocal (match value with
      | some v => m.assign name v
      | none => m) rest

/-- Letters of `set`, or the first that it does not know. -/
private def setLetters (on : Bool) (m : Machine) : Octets → Except Char Machine
  | [] => .ok m
  | 'e' :: rest => setLetters on { m with strict := on } rest
  | 'u' :: rest => setLetters on { m with needsSet := on } rest
  | c :: rest => if "afnvxCbmiIVE".toList.contains c then setLetters on m rest else .error c

private def longSetting? (name : Octets) : Option Octets :=
  match String.ofList name with
  | "errexit" => some ['e']
  | "nounset" => some ['u']
  | "noglob" | "noexec" | "verbose" | "xtrace" | "noclobber" | "allexport" | "notify" | "monitor" =>
    some []
  | _ => none

private def set (m : Machine) (fuel : Nat) (args : List Octets) : Ended :=
  match fuel, args with
  | 0, _ | _, [] => finishWith 0 m
  | fuel + 1, a :: rest =>
    match a with
    | ['-', '-'] => finishWith 0 { m with arguments := rest }
    | ['-', 'o'] | ['+', 'o'] =>
      match rest with
      | [] => finishWith 0 m
      | name :: rest =>
        match longSetting? name with
        | none => refused "set" ("Illegal option -o " ++ String.ofList name) m
        | some letters =>
          match setLetters (a = ['-', 'o']) m letters with
          | .ok m => set m fuel rest
          | .error _ => finishWith 0 m
    | sign :: letters =>
      if sign = '-' || sign = '+' then
        match setLetters (sign = '-') m letters with
        | .ok m => set m fuel rest
        | .error c => refused "set" ("Illegal option -" ++ String.ofList [c]) m
      else finishWith 0 { m with arguments := args }
    | [] => finishWith 0 { m with arguments := args }

/-! ### Input -/

/-- A line of the input without its end; the flag says that an end was there. Backslashes quote
unless the line is read raw. -/
private def inputLine (raw : Bool) (fuel : Nat) (cs : Octets) :
    List (Char × Bool) × Bool × Octets :=
  match fuel, cs with
  | fuel + 1, '\\' :: c :: rest =>
    if raw then
      let (l, found, after) := inputLine raw fuel (c :: rest)
      (('\\', false) :: l, found, after)
    else
      let (l, found, after) := inputLine raw fuel rest
      ((if c = '\n' then l else (c, true) :: l), found, after)
  | _ + 1, '\n' :: rest => ([], true, rest)
  | fuel + 1, c :: rest =>
    let (l, found, after) := inputLine raw fuel rest
    ((c, false) :: l, found, after)
  | _, _ => ([], false, [])

/-- The last name takes what is left of the line. -/
private def distribute (ifs : Octets) (names : List Octets) (words : List (Char × Bool))
    (m : Machine) : Machine :=
  let separates (c : Char × Bool) : Bool := !c.2 && ifs.contains c.1
  let blank (c : Char × Bool) : Bool := separates c && isIfsBlank c.1
  let words := words.dropWhile blank
  match names with
  | [] => m
  | [n] => m.assign n ((words.reverse.dropWhile blank).reverse.map (·.1))
  | n :: rest =>
    let word := words.takeWhile fun c => !separates c
    let after := (words.drop word.length).dropWhile blank
    let after := if (after.head?.any fun c => separates c && !isIfsBlank c.1) then after.drop 1
      else after
    distribute ifs rest after (m.assign n (word.map (·.1)))

private def read (args : List Octets) (m : Machine) : Ended :=
  let raw := args.head? = some ['-', 'r']
  let names := if raw then args.drop 1 else args
  if names.isEmpty then refused "read" "arg count" m
  else
    let (line, found, rest) := inputLine raw (m.input.text.length + 1) m.input.text
    let m := { m with input := { m.input with text := rest } }
    finishWith (if found then 0 else 1) (distribute (ifsOf m) names line m)

/-! ### Names -/

/-- What a name stands for, in the words of `type` and of `command -v`. -/
private def meaning? (m : Machine) (name : Octets) : Option (String × Octets) :=
  if reservedWords.contains (String.ofList name) then some (" is a shell keyword", name)
  else if m.functions.any (·.1 = name) then some (" is a shell function", name)
  else if isSpecialBuiltin name then some (" is a special shell builtin", name)
  else if isBuiltin name then some (" is a shell builtin", name)
  else
    match resolve m.searchPath m.files name with
    | .ok path => some (" is " ++ String.ofList path, path)
    | .error _ => none

private def typeOf (m : Machine) (names : List Octets) : Ended :=
  let texts := names.map fun n => n ++ (match meaning? m n with
    | some (text, _) => text ++ "\n"
    | none => ": not found\n").toList
  let status := if names.any fun n => (meaning? m n).isNone then 127 else 0
  finishWith status (m.write 1 texts.flatten)

/-- `command -v` and `command -V`; without these the command is run by the shell. -/
def described? (args : List Octets) (m : Machine) : Option Ended :=
  match args with
  | ['-', 'v'] :: name :: _ =>
    some (match meaning? m name with
      | some (_, text) => finishWith 0 (m.write 1 (text ++ ['\n']))
      | none => finishWith 127 m)
  | ['-', 'V'] :: name :: _ => some (typeOf m [name])
  | _ => none

/-! ### The commands by name -/

def run? (name : Octets) (args : List Octets) (m : Machine) : Option Ended :=
  match String.ofList name with
  | "exit" =>
    some (withNumber "exit" m.status args m fun n => (m, some (.exit (n % 256))))
  | "return" =>
    some (withNumber "return" m.status args m fun n => ({ m with status := n }, some .returned))
  | "break" => some (leave "break" args m .leaveLoop)
  | "continue" => some (leave "continue" args m .nextRound)
  | "kill" => some (kill args m)
  | "trap" => some (trap args m)
  | "export" => some (declare "export" false m args)
  | "readonly" => some (declare "readonly" true m args)
  | "unset" => some (unset false m args)
  | "local" =>
    some (if m.inFunction then declareLocal m args else
      abort (m.protest "local: not in a function".toList))
  | "set" => some (set m (args.length + 1) args)
  | "shift" =>
    some (withNumber "shift" 1 args m fun n =>
      if n > m.arguments.length then refused "shift" "can't shift that many" m
      else finishWith 0 { m with arguments := m.arguments.drop n })
  | "read" => some (read args m)
  | "type" => some (typeOf m args)
  | "cd" =>
    match args with
    | [] => some (finishWith 0 m)
    | d :: _ =>
      some (if m.files.isDirectory d then finishWith 0 m
        else refused "cd" ("can't cd to " ++ String.ofList d) m)
  /- The working directory is the root of all that a command can change. -/
  | "pwd" => some (finishWith 0 (m.write 1 "/\n".toList))
  | "umask" =>
    some (finishWith 0 (if args.isEmpty then m.write 1 "0022\n".toList else m))
  | "wait" | "times" => some (finishWith 0 m)
  | _ => none

end BrokerGate.Terminal.Shell.Builtin
