import BrokerGate.Text.CharClass
import BrokerGate.Text.Utf8

/-! JSON documents: members keep their order and may repeat, and a number keeps its text. -/
namespace BrokerGate
open Text

inductive Json
  | null
  | bool (b : Bool)
  | number (text : List Char)
  | string (s : String)
  | array (items : List Json)
  | object (members : List (String × Json))

namespace Json

def hexLower (n : Nat) : Char := (Nat.toDigits 16 n).headD '0'

/-- Quotes, backslashes and controls are escaped, all else stands as it is. -/
def escapedChar (c : Char) : List Char :=
  match c with
  | '"' => ['\\', '"']
  | '\\' => ['\\', '\\']
  | '\n' => ['\\', 'n']
  | '\r' => ['\\', 'r']
  | '\t' => ['\\', 't']
  | '\x08' => ['\\', 'b']
  | '\x0c' => ['\\', 'f']
  | c =>
    if c.toNat < 0x20 then
      ['\\', 'u', '0', '0', hexLower (c.toNat / 16), hexLower (c.toNat % 16)]
    else [c]

def quote (s : String) : List Char := '"' :: s.toList.flatMap escapedChar ++ ['"']

mutual

/-- The text of a document, without blanks. -/
def text : Json → List Char
  | null => "null".toList
  | bool b => (if b then "true" else "false").toList
  | number t => t
  | string s => quote s
  | array items => '[' :: itemsText items ++ [']']
  | object members => '\x7b' :: membersText members ++ ['\x7d']

def itemsText : List Json → List Char
  | [] => []
  | [j] => text j
  | j :: k :: rest => text j ++ ',' :: itemsText (k :: rest)

def membersText : List (String × Json) → List Char
  | [] => []
  | [(n, j)] => quote n ++ ':' :: text j
  | (n, j) :: m :: rest => quote n ++ ':' :: text j ++ ',' :: membersText (m :: rest)

end

end Json

end BrokerGate
