import BrokerGate.Terminal.Shell.Machine

/-! How a shell was called. -/
namespace BrokerGate.Terminal.Shell

inductive ScriptSource
  | text (script : Octets)
  | file (path : Octets)
  | input

structure Call where
  source : ScriptSource
  name : Octets
  arguments : List Octets
  strict : Bool
  needsSet : Bool
  /-- The script is read and not run. -/
  readOnly : Bool

namespace Call

/-- Letters given so far. -/
private structure Letters where
  hasText : Bool
  fromInput : Bool
  strict : Bool
  needsSet : Bool
  readOnly : Bool

private def addLetters (on : Bool) (l : Letters) : Octets → Except Char Letters
  | [] => .ok l
  | 'c' :: rest => addLetters on { l with hasText := true } rest
  | 's' :: rest => addLetters on { l with fromInput := on } rest
  | 'e' :: rest => addLetters on { l with strict := on } rest
  | 'u' :: rest => addLetters on { l with needsSet := on } rest
  | 'n' :: rest => addLetters on { l with readOnly := on } rest
  | c :: rest => if "afvxCbmiIVElp".toList.contains c then addLetters on l rest else .error c

private def leading (l : Letters) : List Octets → Except Char (Letters × List Octets)
  | [] => .ok (l, [])
  | (sign :: letters) :: rest =>
    if sign = '-' && (letters.isEmpty || letters = ['-']) then .ok (l, rest)
    else if sign = '-' || sign = '+' then
      match addLetters (sign = '-') l letters with
      | .ok l => leading l rest
      | .error c => .error c
    else .ok (l, (sign :: letters) :: rest)
  | words => .ok (l, words)

/-- Reads the words that a shell was called with; a refusal is its complaint. -/
def read (program : Octets) (words : List Octets) : Except Octets Call :=
  match leading ⟨false, false, false, false, false⟩ words with
  | .error c => .error ("Illegal option -".toList ++ [c])
  | .ok (l, operands) =>
    let make (source : ScriptSource) (rest : List Octets) (name : Octets) : Call :=
      ⟨source, name, rest, l.strict, l.needsSet, l.readOnly⟩
    if l.hasText then
      match operands with
      | [] => .error "-c requires an argument".toList
      | [text] => .ok (make (.text text) [] program)
      | text :: name :: rest => .ok (make (.text text) rest name)
    else
      match operands with
      | [] => .ok (make .input [] program)
      | file :: rest =>
        if l.fromInput then .ok (make .input operands program)
        else .ok (make (.file file) rest file)

end Call

end BrokerGate.Terminal.Shell
