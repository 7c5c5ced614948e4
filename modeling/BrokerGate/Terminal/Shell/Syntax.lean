/-! Shell scripts. A character of a script stands for one byte. -/
namespace BrokerGate.Terminal.Shell

abbrev Octets := List Char

/-- What `${name…}` does with a value that is missing, or with one that is there. -/
inductive Fallback
  | useInstead
  | assign
  | useIfSet
  | fail
  | dropShortestEnd
  | dropLongestEnd
  | dropShortestStart
  | dropLongestStart
  deriving DecidableEq

inductive RedirectMode
  | read
  | write
  | append
  | both
  | duplicate
  /-- The target is the text itself. -/
  | document
  deriving DecidableEq

mutual

inductive Part
  | bare (text : Octets)
  | literal (text : Octets)
  | parameter (name : Octets) (isQuoted : Bool)
  | length (name : Octets) (isQuoted : Bool)
  | adjusted (name : Octets) (emptyToo : Bool) (how : Fallback) (word : List Part)
      (isQuoted : Bool)
  | output (script : Script) (isQuoted : Bool)
  | arithmetic (text : List Part) (isQuoted : Bool)
  /-- A substitution that has no meaning; it fails when it is reached. -/
  | invalid

inductive Redirect
  | mk (fd : Nat) (mode : RedirectMode) (target : List Part)

inductive Command
  | simple (line : Nat) (assignments : List (Octets × List Part)) (words : List (List Part))
      (redirects : List Redirect)
  | group (body : Script) (redirects : List Redirect)
  | subshell (body : Script) (redirects : List Redirect)
  | choose (branches : List (Script × Script)) (otherwise : Script) (redirects : List Redirect)
  | select (subject : List Part) (arms : List (List (List Part) × Script))
      (redirects : List Redirect)
  | each (name : Octets) (words : List (List Part)) (body : Script) (redirects : List Redirect)
  | loop (whileTrue : Bool) (condition body : Script) (redirects : List Redirect)
  | define (name : Octets) (body : Command)

inductive Pipeline
  | mk (negated : Bool) (commands : List Command)

/-- Pipelines joined by `&&` (true) and `||` (false). Nobody waits for a chain in the background. -/
inductive Chain
  | mk (first : Pipeline) (more : List (Bool × Pipeline)) (background : Bool)

inductive Script
  | mk (chains : List Chain)

end

abbrev Word := List Part

end BrokerGate.Terminal.Shell
