import BrokerGate.Terminal.Shell.Syntax

/-! The tokens of a script. A word is only announced; its parts are read where it is used. -/
namespace BrokerGate.Terminal.Shell

inductive Token
  | finish
  | newline
  | word
  | redirection (fd : Nat) (mode : RedirectMode) (indented : Bool)
  /-- An operator, or a reserved word. -/
  | mark (text : String)
  deriving DecidableEq

def Token.name : Token → String
  | .finish => "end of file"
  | .newline => "newline"
  | .word => "word"
  | .redirection _ _ _ => "redirection"
  | .mark t => "\"" ++ t ++ "\""

inductive SyntaxError
  | unterminatedQuote
  | missingBrace
  | missingParentheses
  | unclosedBackquote
  | loopVariable
  | functionName
  | unexpected (found : Token) (expected : Option Token)
  deriving DecidableEq

def SyntaxError.message (e : SyntaxError) : String :=
  "Syntax error: " ++ (match e with
    | .unterminatedQuote => "Unterminated quoted string"
    | .missingBrace => "Missing '\x7d'"
    | .missingParentheses => "Missing '))'"
    | .unclosedBackquote => "EOF in backquote substitution"
    | .loopVariable => "Bad for loop variable"
    | .functionName => "Bad function name"
    | .unexpected found none => found.name ++ " unexpected"
    | .unexpected found (some e) => found.name ++ " unexpected (expecting " ++ e.name ++ ")")

def isNameStart (c : Char) : Bool := c.isAlpha || c = '_'

def isNameChar (c : Char) : Bool := c.isAlphanum || c = '_'

def isGoodName (cs : Octets) : Bool := cs.head?.any isNameStart && cs.all isNameChar

private def isSpace (c : Char) : Bool := c = ' ' || c = '\t'

def endsWord (c : Char) : Bool := isSpace c || c = '\n' || ";&|<>()".toList.contains c

/-- Passes spaces, continued lines and a comment. -/
private def skipSpace (fuel : Nat) (cs : Octets) : Octets :=
  match fuel, cs with
  | fuel + 1, c :: rest =>
    if isSpace c then skipSpace fuel rest
    else if c = '\\' && rest.head? = some '\n' then skipSpace fuel (rest.drop 1)
    else if c = '#' then rest.dropWhile (· ≠ '\n')
    else c :: rest
  | _, cs => cs

def spaced (cs : Octets) : Octets := skipSpace (cs.length + 1) cs

private def skipLines (fuel : Nat) (cs : Octets) : Octets :=
  match fuel with
  | 0 => cs
  | fuel + 1 =>
    match spaced cs with
    | '\n' :: rest => skipLines fuel rest
    | rest => rest

/-- Passes empty lines too. -/
def lined (cs : Octets) : Octets := skipLines (cs.length + 1) cs

def reservedWords : List String :=
  ["!", "case", "do", "done", "elif", "else", "esac", "fi", "for", "if", "in", "then", "until",
    "while", "\x7b", "\x7d"]

/-- Longer marks come first. -/
private def redirections : List (String × RedirectMode × Bool) :=
  [("<<-", .document, true), ("<<", .document, false), (">>", .append, false),
    (">&", .duplicate, false), ("<&", .duplicate, false), (">|", .write, false),
    ("<>", .both, false), (">", .write, false), ("<", .read, false)]

private def operators : List String := [";;", "&&", "||", ";", "&", "|", "(", ")"]

private def redirection? (cs : Octets) : Option (Token × Octets) :=
  let (fd, body) := match cs with
    | d :: rest => if d.isDigit then (some (d.toNat - 48), rest) else (none, cs)
    | [] => (none, [])
  let usual := if body.head? = some '<' then 0 else 1
  (redirections.find? fun r => r.1.toList.isPrefixOf body).map fun (mark, mode, indented) =>
    (.redirection (fd.getD usual) mode indented, body.drop mark.length)

/-- The token at the start and what follows it; a word is left where it is. Reserved words count
only where a command may begin or go on. -/
def token (reserved : Bool) (cs : Octets) : Token × Octets :=
  let cs := spaced cs
  match cs, redirection? cs with
  | [], _ => (.finish, [])
  | '\n' :: rest, _ => (.newline, rest)
  | _, some r => r
  | _, none =>
    match operators.find? fun o => o.toList.isPrefixOf cs with
    | some o => (.mark o, cs.drop o.length)
    | none =>
      let text := cs.takeWhile fun c => !endsWord c
      let word := String.ofList text
      if reserved && reservedWords.contains word then (.mark word, cs.drop text.length)
      else (.word, cs)

/-- Commands of the shell whose names no function can have, and whose mistakes end the shell. -/
def isSpecialBuiltin (name : Octets) : Bool :=
  ([".", ":", "break", "continue", "eval", "exec", "exit", "export", "readonly", "return", "set",
    "shift", "times", "trap", "unset"] : List String).contains (String.ofList name)

/-- Tokens that end a list of commands. -/
def Token.closes : Token → Bool
  | .finish => true
  | .mark t =>
    ([")", ";;", "do", "done", "elif", "else", "esac", "fi", "then", "\x7d"] :
      List String).contains t
  | _ => false

end BrokerGate.Terminal.Shell
