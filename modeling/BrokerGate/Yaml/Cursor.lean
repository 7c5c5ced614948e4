/-! A place in a YAML text, and the classes of characters that its layout rests on. -/
namespace BrokerGate.Yaml

def isBlank (c : Char) : Bool := c = ' ' || c = '\t'

def isBreak (c : Char) : Bool :=
  c = '\n' || c = '\r' || c.toNat = 0x85 || c.toNat = 0x2028 || c.toNat = 0x2029

/-- Characters of anchors, tag handles and directive names. -/
def isWordChar (c : Char) : Bool := c.isAlphanum || c = '_' || c = '-'

/-- Characters that a YAML text may hold at all. -/
def isAllowed (c : Char) : Bool :=
  let n := c.toNat
  n = 9 || n = 10 || n = 13 || (0x20 ≤ n && n ≤ 0x7E) || n = 0x85 ||
    (0xA0 ≤ n && n ≤ 0xFFFD && n ≠ 0xFEFF) || 0x10000 ≤ n

structure Cursor where
  rest : List Char
  index : Nat
  line : Nat
  column : Nat

namespace Cursor

def ofText (cs : List Char) : Cursor := ⟨cs, 0, 0, 0⟩

def skip (c : Cursor) : Cursor :=
  { c with rest := c.rest.drop 1, index := c.index + 1, column := c.column + 1 }

def skipMany (n : Nat) (c : Cursor) : Cursor :=
  { c with rest := c.rest.drop n, index := c.index + n, column := c.column + n }

/-- Passes a line break, if one is there, and gives the text that it stands for. -/
def readLine (c : Cursor) : List Char × Cursor :=
  let next (n : Nat) : Cursor := ⟨c.rest.drop n, c.index + n, c.line + 1, 0⟩
  match c.rest with
  | '\r' :: '\n' :: _ => (['\n'], next 2)
  | d :: _ =>
    if d = '\r' || d = '\n' || d.toNat = 0x85 then (['\n'], next 1)
    else if isBreak d then ([d], next 1)
    else ([], c)
  | [] => ([], c)

def skipWhile (p : Char → Bool) (c : Cursor) : Cursor := c.skipMany (c.rest.takeWhile p).length

def blankAt (n : Nat) (c : Cursor) : Bool :=
  match c.rest.drop n with
  | [] => false
  | d :: _ => isBlank d

/-- A blank, a line break or the end stands at a distance. -/
def gapAt (n : Nat) (c : Cursor) : Bool :=
  match c.rest.drop n with
  | [] => true
  | d :: _ => isBlank d || isBreak d

def atLineEnd (c : Cursor) : Bool :=
  match c.rest with
  | [] => true
  | d :: _ => isBreak d

def startsWith (word : List Char) (c : Cursor) : Bool := word.isPrefixOf c.rest

/-- Three dashes or dots alone at the start of a line. -/
def atDocumentMark (c : Cursor) : Bool :=
  c.column = 0 && (c.startsWith ['-', '-', '-'] || c.startsWith ['.', '.', '.']) && c.gapAt 3

end Cursor

end BrokerGate.Yaml
