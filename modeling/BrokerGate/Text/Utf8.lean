/-! UTF-8 over lists of bytes: writing, strict reading, and reading with a replacement character
in the place of each maximal malformed part. -/
namespace BrokerGate.Text.Utf8

abbrev Bytes := List UInt8

def encode (cs : List Char) : Bytes := cs.flatMap String.utf8EncodeChar

def ofString (s : String) : Bytes := encode s.toList

/-- A begun character: how many bytes it still lacks, which range the next one must fall in,
and the bits read so far. -/
inductive Begun
  | nothing
  | lacks (more : Nat) (low high : UInt8) (bits : Nat)

/-- What a byte does where a character may start. The second byte of some leads is restricted,
which leaves out overlong forms, surrogates and numbers past U+10FFFF. -/
def start (b : UInt8) : List (Option Char) × Begun :=
  if b < 0x80 then ([some (Char.ofNat b.toNat)], .nothing)
  else if 0xC2 ≤ b && b ≤ 0xDF then ([], .lacks 0 0x80 0xBF (b.toNat % 32))
  else if b = 0xE0 then ([], .lacks 1 0xA0 0xBF 0)
  else if b = 0xED then ([], .lacks 1 0x80 0x9F 13)
  else if 0xE1 ≤ b && b ≤ 0xEF then ([], .lacks 1 0x80 0xBF (b.toNat % 16))
  else if b = 0xF0 then ([], .lacks 2 0x90 0xBF 0)
  else if b = 0xF4 then ([], .lacks 2 0x80 0x8F 4)
  else if 0xF1 ≤ b && b ≤ 0xF3 then ([], .lacks 2 0x80 0xBF (b.toNat % 8))
  else ([none], .nothing)

def advance (b : UInt8) : Begun → List (Option Char) × Begun
  | .nothing => start b
  | .lacks more low high bits =>
    if low ≤ b && b ≤ high then
      let bits := bits * 64 + b.toNat % 64
      match more with
      | 0 => ([some (Char.ofNat bits)], .nothing)
      | more + 1 => ([], .lacks more 0x80 0xBF bits)
    else
      let next := start b
      (none :: next.1, next.2)

/-- The characters of a byte sequence, `none` for each maximal malformed part. -/
def scan : Begun → Bytes → List (Option Char)
  | .nothing, [] => []
  | .lacks .., [] => [none]
  | begun, b :: bs =>
    let next := advance b begun
    next.1 ++ scan next.2 bs

def decode? (bs : Bytes) : Option (List Char) := (scan .nothing bs).mapM id

/-- U+FFFD stands for each part that is not a character. -/
def decodeLossy (bs : Bytes) : List Char :=
  (scan .nothing bs).map (·.getD (Char.ofNat 0xFFFD))

def toString? (bs : Bytes) : Option String := (decode? bs).map String.ofList

def toStringLossy (bs : Bytes) : String := String.ofList (decodeLossy bs)

end BrokerGate.Text.Utf8
