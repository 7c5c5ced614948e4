import BrokerGate.Text.CharClass
import BrokerGate.Text.Utf8

/-! Percent escapes. Each part of a URL has its own set of characters that are escaped; characters
outside ASCII are escaped everywhere. -/
namespace BrokerGate.Url
open Text

/-- A set of ASCII characters, by what it adds to the controls. -/
structure EscapeSet where
  extra : List Char

namespace EscapeSet

def controls : EscapeSet := ⟨[]⟩
def fragment : EscapeSet := ⟨" \"<>".toList ++ ['\x60']⟩
def path : EscapeSet := ⟨fragment.extra ++ ['#', '?', '\x7b', '\x7d']⟩
def userinfo : EscapeSet := ⟨path.extra ++ "/:;=@[\\]^|".toList⟩
def query : EscapeSet := ⟨" \"#<>".toList⟩
def specialQuery : EscapeSet := ⟨query.extra ++ ['\'']⟩

def escapes (s : EscapeSet) (c : Char) : Bool :=
  c.toNat < 0x20 || 0x7F ≤ c.toNat || s.extra.contains c

end EscapeSet

def hexUpper (n : UInt8) : Char :=
  if n < 10 then Char.ofNat (48 + n.toNat) else Char.ofNat (55 + n.toNat)

def escapeByte (b : UInt8) : List Char := ['%', hexUpper (b / 16), hexUpper (b % 16)]

def escapeChar (s : EscapeSet) (c : Char) : List Char :=
  if s.escapes c then (String.utf8EncodeChar c).flatMap escapeByte else [c]

def escape (s : EscapeSet) (cs : List Char) : List Char := cs.flatMap (escapeChar s)

/-- The bytes behind a text with escapes; a percent sign that starts no escape stands for
itself. -/
def unescape : List Char → List UInt8
  | [] => []
  | '%' :: a :: b :: cs =>
    match hexDigit? a, hexDigit? b with
    | some x, some y => UInt8.ofNat (x * 16 + y) :: unescape cs
    | _, _ => 37 :: unescape (a :: b :: cs)
  | c :: cs => String.utf8EncodeChar c ++ unescape cs

end BrokerGate.Url
