import BrokerGate.Terminal.Shell.Condition
import BrokerGate.Terminal.Shell.Format
import BrokerGate.Terminal.Shell.Reply
import BrokerGate.Terminal.Shell.Filter

/-! The utilities by their names: those that write their operands, those that make files and
directories, and those that pass on what they read. -/
namespace BrokerGate.Terminal.Shell.Utility
open Text

/-- The leading words that are options of the program `echo`: `n`, `e` and `E`, alone or joined. -/
private def echoOptions (args : List Octets) : List Octets :=
  args.takeWhile fun a => a.head? = some '-' && a.length > 1 && (a.drop 1).all "neE".toList.contains

private def echoed (manner : Manner) (escapes newline : Bool) (args : List Octets) : Octets :=
  let text := joinWith [' '] args
  let (text, stopped) :=
    if escapes then echoEscapes manner (text.length + 1) text else (text, false)
  if newline && !stopped then text ++ ['\n'] else text

/-- The shell's own `echo` resolves escapes; the program of this name does so with `-e`. -/
def echo (manner : Manner) (fs : Files) (args : List Octets) : Reply :=
  match manner with
  | .builtin =>
    let silent := args.head? = some ['-', 'n']
    .done fs (echoed .builtin true (!silent) (if silent then args.drop 1 else args))
  | .program =>
    let options := echoOptions args
    let letters := options.flatMap (·.drop 1)
    let escapes := (letters.reverse.find? (· ≠ 'n')) = some 'e'
    .done fs (echoed .program escapes (!letters.contains 'n') (args.drop options.length))

private def withoutFormat (manner : Manner) (fs : Files) : Reply :=
  match manner with
  | .builtin => .failed fs 2 (.of "usage: printf format [arg ...]")
  | .program => .failed fs 1 (.ofCall "missing operand")

def printf (manner : Manner) (fs : Files) (args : List Octets) : Reply :=
  let operands := if args.head? = some ['-', '-'] then args.drop 1 else args
  let optionLetter : Option Char := match manner, args.head? with
    | .builtin, some ('-' :: c :: _) => if c = '-' then none else some c
    | _, _ => none
  match optionLetter, operands with
  | some c, _ => .failed fs 2 (.of ("Illegal option -" ++ String.ofList [c]))
  | none, [] => withoutFormat manner fs
  | none, format :: rest =>
    let r := printFormat manner format rest
    ⟨r.status, r.output, r.complaints.map (⟨·, false⟩), fs⟩

def touch (fs : Files) (args : List Octets) : Reply :=
  match Called.read "acfhm" "drt" false args with
  | .error e => .failed fs 1 e
  | .ok k =>
    if k.operands.isEmpty then .failed fs 1 (.ofCall "missing file operand")
    else
      k.operands.foldl (fun r n =>
        if r.files.exists? n then r
        else if r.files.isDirectory (Files.parent n) && !n.isEmpty then
          if k.has 'c' then r else { r with files := r.files.put n [] }
        else
          r.complain ("cannot touch '".toList ++ n ++ "': ".toList ++
            (r.files.whyUnreadable n).toList)) (.done fs [])

/-- Every start of a path that ends before a slash, and the path itself. -/
private def stations (path : Octets) : List Octets :=
  ((List.range path.length).filter fun i => path[i]? = some '/' && i > 0).map path.take ++ [path]

private def makeOne (parents verbose : Bool) (r : Reply) (n : Octets) : Reply :=
  let refuse (name : Octets) (why : String) : Reply :=
    r.complain ("cannot create directory '".toList ++ name ++ "': ".toList ++ why.toList)
  let make (r : Reply) (n : Octets) : Reply :=
    { r with
      files := r.files.makeDirectory n
      out := if verbose then r.out ++ "mkdir: created directory '".toList ++ n ++ "'\n".toList
        else r.out }
  if n.isEmpty then refuse n "No such file or directory"
  else if parents then
    match (stations n).find? (r.files.isFile ·) with
    | some f => refuse f (if f = n then "File exists" else "Not a directory")
    | none => ((stations n).filter fun d => !r.files.isDirectory d).foldl make r
  else if r.files.exists? n then refuse n "File exists"
  else if r.files.isDirectory (Files.parent n) then make r n
  else refuse n (r.files.whyUnreadable n)

def mkdir (fs : Files) (args : List Octets) : Reply :=
  match Called.read "pvZ" "m" false args with
  | .error e => .failed fs 1 e
  | .ok k =>
    if k.operands.isEmpty then .failed fs 1 (.ofCall "missing operand")
    else k.operands.foldl (makeOne (k.has 'p') (k.has 'v')) (.done fs [])

/-- Utilities that are part of the shell. -/
def isBuiltin (name : Octets) : Bool :=
  (["echo", "printf", "test", "[", "true", ":", "false"] : List String).contains
    (String.ofList name)

def readsInput (name : Octets) : Bool :=
  (["cat", "head", "tr", "wc"] : List String).contains (String.ofList name)

private def judged (fs : Files) : Except Octets Bool → Reply
  | .ok true => .done fs []
  | .ok false => ⟨1, [], [], fs⟩
  | .error e => .failed fs 2 ⟨e, false⟩

/-- A condition. `[` wants its closing bracket. -/
private def test (name : String) (manner : Manner) (fs : Files) (args : List Octets) : Reply :=
  let holds := match manner with
    | .builtin => Condition.ofShell fs
    | .program => Condition.ofProgram fs
  if name = "test" then judged fs (holds args)
  else if args.getLast? = some [']'] then judged fs (holds args.dropLast)
  else
    .failed fs 2 (.of ("missing " ++ (if manner = .builtin then "]" else "']'")))

private def isInterval (w : Octets) : Bool :=
  let digits := if (w.getLast?.any "smhd".toList.contains) then w.dropLast else w
  (digits.any Char.isDigit) && digits.all (fun c => c.isDigit || c = '.') && digits.count '.' ≤ 1

/-- Waiting takes no time here. -/
private def sleep (fs : Files) (args : List Octets) : Reply :=
  match args, args.find? fun a => !isInterval a with
  | [], _ => .failed fs 1 (.ofCall "missing operand")
  | _, some a => .failed fs 1 (.ofCall ("invalid time interval '" ++ String.ofList a ++ "'"))
  | _, none => .done fs []

/-- Runs a utility by its name, apart from the shell itself. -/
def run? (name : Octets) (manner : Manner) (fs : Files) (input : Input) (args : List Octets) :
    Option Reply :=
  match String.ofList name with
  | "echo" => some (echo manner fs args)
  | "printf" => some (printf manner fs args)
  | "cat" => some (cat fs input args)
  | "head" => some (head fs input args)
  | "tr" => some (tr fs input args)
  | "wc" => some (wc fs input args)
  | "touch" => some (touch fs args)
  | "mkdir" => some (mkdir fs args)
  | "test" => some (test "test" manner fs args)
  | "[" => some (test "[" manner fs args)
  | "sleep" => some (sleep fs args)
  | "true" | ":" => some (.done fs [])
  | "false" => some ⟨1, [], [], fs⟩
  | _ => none

end BrokerGate.Terminal.Shell.Utility
