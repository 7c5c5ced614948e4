/-! Sets of code points kept as text: hexadecimal numbers in pairs, the distance of a range from
the end of the one before and the number of its further members. One of them holds the letters and
numbers of all scripts. -/
namespace BrokerGate.Text

def hexDigit? (c : Char) : Option Nat :=
  let n := c.toNat
  if 48 ≤ n && n ≤ 57 then some (n - 48)
  else if 97 ≤ n && n ≤ 102 then some (n - 87)
  else if 65 ≤ n && n ≤ 70 then some (n - 55)
  else none

private def gather (current : Option Nat) : List Char → List Nat
  | [] => current.toList
  | c :: cs =>
    match hexDigit? c with
    | some d => gather (some (current.getD 0 * 16 + d)) cs
    | none => current.toList ++ gather none cs

/-- The hexadecimal numbers of a text, whatever stands between them. -/
def hexNumbers (s : String) : List Nat := gather none s.toList

structure RangeTable where
  ranges : List (Nat × Nat)

namespace RangeTable

private def readRanges (previous : Nat) : List Nat → List (Nat × Nat)
  | gap :: more :: rest =>
    (previous + gap, previous + gap + more) :: readRanges (previous + gap + more) rest
  | _ => []

def ofText (s : String) : RangeTable := ⟨readRanges 0 (hexNumbers s)⟩

def contains (t : RangeTable) (n : Nat) : Bool :=
  t.ranges.any fun r => r.1 ≤ n && n ≤ r.2

end RangeTable

private def wideAlphanumerics : RangeTable := RangeTable.ofText "aa 0 8 1 2 0 4 1 2 2 2 16 2 1e 2 1c9 5 b f 4 8 0 2 0 57 0 1e 11 2 1 3 3 2 0 7 0 2 2 2 0 2 13 2
52 2 8a 9 a5 2 25 3 0 7 28 28 d 2 0 2 1 2 1 2 0 9 1a 5 3 1e a 6 37 2 10 5 65 2 7 5 7 5 f 3 0 11
2f e 64 f 2a a 1 5 0 6 17 3 12 14 18 8 a 6 17 2 6 8 0 9 29 b b 4 6 7 4b 2 f 2 2 5 e 3 9 2 12 2 7
3 1 3 15 2 6 2 0 4 3 4 7 3 1 3 1 2 0 9 0 5 1 2 4 3 b 3 5 3 0 5 2 2 5 5 1 3 15 2 6 2 1 2 1 2 1 5
4 5 1 3 1 5 0 8 3 2 0 8 f c 2 2 8 2 2 2 15 2 6 2 1 2 4 4 8 2 2 2 1 4 0 10 3 3 9 a 3 5 2 2 7 3 1
3 15 2 6 2 1 2 4 4 7 3 1 3 1 a 1 5 1 2 4 3 9 2 6 b 1 2 5 4 2 2 3 4 1 2 0 2 1 4 1 4 2 4 b 5 4 4 2
2 2 4 0 7 0 f c e c 2 2 2 16 2 f 4 7 2 2 2 2 9 1 2 2 2 1 3 3 3 9 9 6 2 3 2 7 2 2 2 16 2 9 2 4 4
7 2 2 2 2 9 1 6 2 2 3 3 9 2 2 d c 2 2 2 28 3 7 2 2 2 2 2 0 6 f 3 12 2 5 2 2 2 11 4 17 2 8 2 0 3
6 9 5 2 0 2 7 7 9 3 1 e 39 6 6 7 0 3 9 28 1 2 0 2 4 2 17 2 0 2 12 2 2 3 4 2 0 7 0 3 9 3 3 21 0
20 13 d 7 2 23 5 12 5 f 2 23 44 36 2 0 3 e 7 4d 3 25 2 0 6 0 3 2a 2 14c 2 3 3 6 2 0 2 3 3 28 2 3
3 20 2 3 3 6 2 0 2 3 3 e 2 38 2 3 3 42 f 13 4 f 11 55 3 5 4 26b 3 10 2 19 6 4a 4 a 8 13 c 14 d
13 d c 2 2 2 1 d 33 3 12 f 0 5 0 4 9 7 9 17 9 7 58 8 2a 6 45 b 1e 2 b 5 8 e 27 3 4 c 2b 5 19 7 a
26 1b 5 3e 3 13 c 9 7 9 e 0 18 1 c 2 32 33 2 e 2 7 4 9 27 29 3 39 2 a f 36 a 9 4 30 3 a 6 2a 3 2
2a 3 2 5 2 1 4 0 6 bf 14 21 c 115 3 5 3 25 3 5 3 7 2 0 2 0 2 0 2 1e 3 34 2 6 2 0 4 2 2 6 4 3 3 5
5 c 6 2 2 6 74 1 3 5 6 a 7 c 66 0 5 0 3 9 2 0 4 4 7 0 2 0 2 0 2 3 2 a 3 3 6 4 5 0 2 39 2d7 3b 1b
49 277 1d 46d e4 7 3 4 1 a 0 3 25 2 0 6 0 3 37 8 0 11 16 a 6 2 6 2 6 2 6 2 6 2 6 2 6 2 6 2 1f 30
0 1d6 2 1a 8 8 4 3 4 5 55 7 2 2 59 2 3 6 2a 2 5d 4 3 b 1f 31 f 21 9 1f 7 2 e 21 9 28 e 141 19bf
41 568c 44 2d 3 10c 4 1b 15 2e 6 7 4 70 28 8 3 66 3 51 15 14 2 20 9 5 b 33 d 43 2 0 b 9 19 5 4 0
2 2d 6 22 e 1c 4 32 2 b 10 a 7 1e 2 36 a d 3 9 7 16 4 44 2 0 2 0 19 2 3 f 3 3 c 5 3 5 3 5 a 6 2
6 2 2a 2 d 7 7a 6 9 7 2ba3 d 16 5 30 2105 16d 3 69 27 6 d 4 6 b 2 c 2 4 2 0 2 1 2 1 2 6b 22 16a
13 3f 3 35 29 b 75 4 2 86 14 9 8 19 7 19 c 58 4 5 3 5 3 5 3 2 24 b 2 19 2 12 2 1 2 e 3 d 23 7a d
2c d 38 12 1 f5 1c 4 30 11 1a 5 23 a 1d 6 2a 6 1d 3 23 5 7 2 4 2b 9d 3 9 7 23 5 23 5 27 9 33 d a
2 e 2 6 2 1 2 a 2 e 2 6 2 1 4 33 d 136 a 15 b 7 19 5 2 29 2 8 46 5 3 0 2 2b 2 1 4 0 3 16 3 1e 3
25 9 8 31 12 2 1 6 20 5 19 7 19 27 37 5 13 3 31 2 1 6 7 2 2 2 1c b 8 18 1e 2 1f 21 7 2 1b 7 4 11
35 b 15 3 1a 6 19 18 6 51 48 38 32 e 32 8 2d 9 9 7 25 4 0 6 16 db 1e 2 29 2 1 4 1 11 5 33 2 4 27
9 15 c 3 1c 11 2f 1b 15 16 a 45 d 1d 2 4 b 38 a 0 e 18 8 9 7 32 4 9 5 3 9 22 4 0 a 3f 2 3 a c 2
0 5 13 c 11 2 21 3 0 7 3 3f 6 2 0 2 3 2 e 2 9 8 38 8 9 7 3 2 7 3 1 3 15 2 6 2 1 2 4 4 7 3 1 3 1
4 0 7 0 6 6 1d 9 2 0 3 0 2 25 2 9 2 0 3 0 2 3 2 1 4 0 2 0 2d 41 2 2 2 3 6 9 6 2 1f 41 3 1 2 0 9
9 a7 35 3 6 1a 5 23 3e 2 0 4 0 c 9 27 35 3 0 8 9 7 13 1d 1a 3 d 6 b 5 6 ba 38 68 52 d 7 3 0 3 7
2 1 2 1d 2 1 3 1 3 3 e 9 47 7 3 2d 3 5 2 0 2 1 1c 32 3 9 12 47 6 0 13 48 68 7 59 20 10 9 7 8 2
2c 2 6 2 0 10 1c 6 1d 3 15 2 d 4a 6 2 1 2 2b 4 0 2 1 2 2 2 0 3 1 9 9 7 5 2 1 2 24 2 1 2 3 2 0 8
9 7 2b 5 9 f7 16 a 10 2 28 4 2 10 9 57 0 10 14 2c 399 67 6e 12 c3 a4d 60 10 42f 12 5 1a f9a 6
246 1aba 2e 2 9 6c7 238 8 1e 2 9 7 4e 2 9 7 1d 13 2f 11 3 d 9 2 6 2 14 6 12 1b1 2c 4 9 c7 56 a
18 3 18 2d 4a 5 38 8 10 41 1 2 0 d 6 a 1cd5 2a 1f 62 72 21fe 3 2 6 2 1 2 122 10 0 1e 2 3 0 f 3 9
18b 905 6a 6 c 4 8 8 9 5 0 1052 9 5c7 13 d 13 6d 18 88 54 2 46 2 1 3 0 3 1 3 3 2 b 2 0 2 6 2 40
2 3 3 7 2 6 2 1b 2 3 2 4 2 0 4 6 2 153 3 18 2 18 2 1e 2 18 2 1e 2 18 2 1e 2 18 2 1e 2 18 2 7 3
31 701 1e 7 5 d6 6 2 10 3 6 2 1 2 4 6 3d 22 0 71 2c b 6 3 9 5 0 142 1d 13 2b 5 9 1d7 1b 5 9 d7
1d 3 a c6 1e 2 15 9 1 e1 6 2 3 2 1 2 e 2 c4 3 8 31 43 4 0 4 0 5 9 318 3a 2 2 2 3 4d 2c 2 e c3 3
2 1a 2 1 2 0 3 0 2 9 2 3 2 0 2 0 7 0 5 0 2 0 2 0 2 2 2 1 2 0 3 0 2 0 2 0 2 0 2 0 2 1 2 0 3 3 2 6
2 3 2 3 2 0 2 9 2 10 6 2 2 4 2 10 245 c 24 19 7 19 7 19 a67 9 407 a6df 21 111d 3 168d 3 1d30 10
26d 9a3 21d 5e3 134a 6 2129"

def isAlphanumeric (c : Char) : Bool := c.isAlphanum || wideAlphanumerics.contains c.toNat

end BrokerGate.Text
