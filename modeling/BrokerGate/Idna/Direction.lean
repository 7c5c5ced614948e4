import BrokerGate.Text.CharClass

/-! Writing direction and joining behaviour of characters, as far as the rules for host names
ask for them. -/
namespace BrokerGate.Idna
open Text

inductive Direction
  | left
  | right
  | arabic
  | arabicNumber
  | europeanNumber
  | mark
  | neutral
  deriving DecidableEq

private def rightRanges : RangeTable := RangeTable.ofText "5be 0 2 0 3 0 3 0 a 1a 5 5 1cc 2a a 1 5 0 4 17 5 0 a 0 4 0 8 e 2 18 6 0 17b1 0 db0e 0 2 9 2 c 2
4 2 0 2 1 2 1 2 9 cb1 5 3 0 2 2b 2 1 4 0 3 16 2 47 9 8 31 12 2 1 6 20 5 19 6 0 41 37 5 13 3 2e
10 3 2 2 2 1c b 8 8 8 8 3f 21 24 7 b a 35 b 15 3 1a 6 19 8 3 d 6 51 48 38 32 e 32 8 5 181 29 4 0
3 1 4f 27 49 11 5 3 27 1b 15 16 d80a c4 3 8 31 43 8 0 5 9 5 1"

private def arabicRanges : RangeTable := RangeTable.ofText "608 0 3 0 2 0 e 2f 23 2 2 64 10 1 8 1 b 13 2 1 2 1d 1e 58 c 0 af a 6 1e 12 29 f287 72 11 16a 13
3f 3 35 29 c 74 4 2 86 e04 23 20d 15 c 8 dd18 43 4d 3c c3 3 2 1a 2 1 2 0 3 0 2 9 2 3 2 0 2 0 7 0
5 0 2 0 2 0 2 2 2 1 2 0 3 0 2 0 2 0 2 0 2 0 2 1 2 0 3 3 2 6 2 3 2 3 2 0 2 9 2 10 6 2 2 4 2 10"

private def arabicNumberRanges : RangeTable := RangeTable.ofText "600 5 5b 9 2 1 71 0 1b3 1 51 0 1044e 9 127 1e"

private def europeanNumberRanges : RangeTable := RangeTable.ofText "30 9 79 1 6 0 637 9 1977 0 4 5 7 9 3ff 13 da75 9 3c8 1a d4d3 31 1901 a ae6 9"

private def directionMarkRanges : RangeTable := RangeTable.ofText "300 6f 114 6 108 2c 2 0 2 1 2 1 2 0 49 a 31 14 11 0 66 6 3 5 3 1 2 3 24 0 1f 1a 5c a 3b 8 a 0 19
3 2 8 2 2 2 4 2c 2 3d 7 2b 17 2 1f 38 0 2 0 5 7 5 0 4 6 b 1 1e 0 3b 0 5 3 9 0 15 1 1b 0 3 1 3a 0
5 1 5 1 3 2 4 0 1f 1 4 0 c 1 3a 0 5 4 2 1 5 0 15 1 17 5 2 0 3b 0 3 0 2 3 9 0 8 1 c 1 1f 0 3e 0 d
0 33 0 4 0 38 0 2 2 6 2 2 3 8 1 c 1 1e 0 3b 0 10 1 15 1 1d 1 3a 1 5 3 9 0 15 1 1e 0 49 0 8 2 2 0
5b 0 3 6 d 7 63 0 3 8 c 5 4b 1 1c 0 2 0 2 0 38 d 2 4 2 1 6 a 2 23 a 0 67 3 2 5 2 1 3 1 1a 1 5 2
11 3 e 0 3 1 7 0 10 0 2c0 2 3b3 2 1e 1 1f 1 1f 1 41 1 2 6 9 0 3 a a 0 2e 2 2 0 76 1 23 0 77 2 5
1 a 0 7 2 dc 1 3 0 3b 0 2 6 2 0 2 0 3 7 7 9 3 0 31 1e 32 3 31 0 2 4 2 0 6 0 29 8 d 1 21 3 3 1 2
2 39 0 2 1 4 0 2 2 3b 7 3 1 99 2 2 c 2 6 5 0 7 0 4 1 c7 3f 2d1 20 bff 2 8e 0 61 1f 22b 3 6c 1
75d5 3 2 9 21 1 51 1 111 0 4 0 5 0 1a 1 6 0 98 1 1b 11 e 0 27 7 1a a 2f 2 31 0 3 3 3 1 28 0 44 5
3 1 3 1 d 0 9 0 30 0 34 0 2 2 3 1 6 1 2 0 2b 1 9 0 ef 0 3 0 5 0 4f31 0 2e2 f 11 f 3ce 0 e3 0 96
4 687 2 2 1 6 3 29 2 5 0 a6 1 23e 3 184 1 9a a 32 3 7c 0 37 e 2a 0 3 1 b 2 32 3 3 1 8 0 3e 2 25
4 2 7 3f 0 d 1 35 8 b 3 3 0 60 2 3 0 2 1 7 0 a1 0 4 7 16 1 3a 1 4 0 26 6 4 4 c4 7 3 2 2 0 18 0
55 5 2 0 5 1 2 1 ef 3 7 1 2 1 1c 1 56 7 3 0 2 1 6b 0 2 0 3 5 2 0 66 2 3 3 2 4 104 8 2 1 101 1 2
0 5 0 91 3 3 1 5 0 21 5 3 1 29 5 3 3 9 0 a 5 3 2 2f c 2 1 197 6 2 5 55 15 3 6 2 1 2 1 7b 5 4 0 2
1 2 6 2 0 49 1 4 0 2 0 15c 1 4bfc 4 3c 6 419 0 40 3 52 0 4cb9 1 1262 2d 3 16 221 2 12 7 3 6 1f 3
95 2 7bc 36 5 31 9 0 f 0 17 4 2 e 551 6 2 10 3 6 2 1 2 4 106 6 178 0 3e 3 5e1 6 6e 6 c17b6 ef"

private def neutralRanges : RangeTable := RangeTable.ofText "0 8 6 d 6 e b 6 1b 5 1b 9 2 23 2 6 3 0 2 2 3 4 18 0 20 0 1c2 1 8 d 3 d 6 8 2 10 75 1 9 0 6 1 2 0
6f 0 194 0 3 2 77 1 2 1 2 0 2 1 5b 0 74 0 b 0 10d 3 1f9 1 8 0 f6 0 102 7 7e 6 1c1 0 fb 3 453 9
67 0 29b 1 13f 0 15 9 7 a 4 0 132 0 4 1 99 21 5be 0 2 2 c 2 e 2 e 2 e 1 d 2 3 17 8 2f 2 4 6 5 b
4 c 4 12 20 40 1 2 3 2 1 b 0 2 2 6 5 2 0 2 0 2 0 5 0 c 1 5 4 6 3 3 f 2a 2 5 1a5 46 19 2 90 1a a
16 27 63 1c1 2 152 101 273 3 1f 2 68 e6 5 f 6 101 5d 23 19 2 58 d d5 1b b 6 3 4 18 10 0 6 1 6 2
5c 1 4 0 5b 0 c5 23 3a 1 32 f 1d 2 33 e d 3 a8 3 64 1 20 0 19c1 3f 5691 36 147 2 64 0 b 1 81 21
67 0 a0 3 d 1 3b 3 2f3 1 4fbe 0 215 11 80 0 2e 2 11 9 17 22 2 12 2 3 94 0 2 e b 6 1b 5 1b a 7b 6
2 6 b 4 104 0 3f 4c 4 c 4 0 77f 0 21a 6 513 13 5fb c 969 1c 4ff1 0 4cbe 3 14d0 7 6f 1 16 41 4 0
bb 56 385 0 3a 0 3a 0 3a 0 3a 0 b3c 0 bf1 1 10f 2b 5 63 d e 3 e 2 e 2 24 16 4 20 0 3b 5 3e 0 b3
5 9b 3d7 6 f 4 c 4 73 d 58 8 b 5 0 10 b 5 37 9 9 7 27 9 1d 3 1 4f 153 d d 3 4 4 4 4 6 a 1c 4 a 6
5 b 9 7 7 9 6 a 92 2 36 c0437 0 1f 5f"

private def markRanges : RangeTable := RangeTable.ofText "300 6f 114 6 108 2c 2 0 2 1 2 1 2 0 49 a 31 14 11 0 66 6 3 5 3 1 2 3 24 0 1f 1a 5c a 3b 8 a 0 19
3 2 8 2 2 2 4 2c 2 3c 8 2b 17 2 20 37 2 2 11 2 6 b 1 1e 2 39 0 2 6 3 1 3 2 a 0 b 1 1b 0 3 2 39 0
2 4 5 1 3 2 4 0 1f 1 4 0 c 2 39 0 2 7 2 2 2 2 15 1 17 5 2 2 39 0 2 6 3 1 3 2 8 2 b 1 1f 0 3c 4 4
2 2 3 a 0 29 4 38 0 2 6 2 2 2 3 8 1 c 1 1e 2 39 0 2 6 2 2 2 3 8 1 c 1 10 0 d 3 38 1 2 6 2 2 2 3
a 0 b 1 1e 2 47 0 5 5 2 0 2 7 13 1 3e 0 3 6 d 7 63 0 3 8 c 6 4a 1 1c 0 2 0 2 0 5 1 32 13 2 1 6 a
2 23 a 0 65 13 18 3 5 2 2 2 3 6 4 3 e b 2 0 b 3 2c0 2 3b3 3 1d 2 1e 1 1f 1 41 1f a 0 2e 2 2 0 76
1 23 0 77 b 5 b dc 4 3a 9 2 1c 3 0 31 2d 3 b 15 4 30 10 27 8 d 2 1f c 39 d 31 13 99 2 2 14 5 0 7
0 3 2 c7 3f 2d1 20 bff 2 8e 0 61 1f 22b 5 6a 1 75d5 3 2 9 21 1 51 1 111 0 4 0 5 0 18 4 5 0 54 1
33 11 1b 11 e 0 27 7 1a c 2d 3 30 d 25 0 44 d d 0 9 1 2e 2 33 0 2 2 3 1 6 1 2 0 2a 4 6 1 ed 7 2
1 4f31 0 2e2 f 11 f 3ce 0 e3 0 96 4 687 2 2 1 6 3 29 2 5 0 a6 1 23e 3 42 4 13e 1 4e 5 47 a 32 3
7b 2 36 e 2a 0 3 1 b 3 2e a 8 0 3e 2 25 d 11 1 2d 0 d 2 31 d 9 3 2 1 5d b 7 0 3 0 9e b 16 3 38 1
2 6 3 1 3 2 a 0 b 1 3 6 4 4 44 8 2 0 3 0 2 3 2 4 2 0 f 1 53 11 18 0 52 13 ec 6 3 8 1c 1 53 10 6b
c 66 e 101 e f6 5 2 1 3 3 2 0 2 1 8e 6 3 6 4 0 1d 9 29 6 2 3 9 0 a a 2f f c7 7 c8 7 2 7 53 15 2
d 7b 5 4 0 2 1 2 6 2 0 43 4 2 1 2 4 15c 3 a 1 2 0 31 6 4 4 18 0 14e6 0 7 e 2cc9 11 9c1 4 3c 6
419 0 2 36 8 3 52 0 c 1 4cac 1 1262 2d 3 16 21f 4 4 5 9 7 3 6 1f 3 95 2 7bc 36 5 31 9 0 f 0 17 4
2 e 551 6 2 10 3 6 2 1 2 4 65 0 a1 6 178 0 3e 3 1fd 3 ff 1 f4 0 3 0 8 1 6 0 1db 6 6e 6 c17b6 ef"

private def transparentRanges : RangeTable := RangeTable.ofText "ad 0 253 6f 114 6 108 2c 2 0 2 1 2 1 2 0 39 5 b a 2 0 2f 14 11 0 66 7 2 5 3 1 2 3 22 0 2 0 1f 1a
5c a 3b 8 a 0 19 3 2 8 2 2 2 4 2c 2 35 1 6 8 2b 38 38 0 2 0 5 7 5 0 4 6 b 1 1e 0 3b 0 5 3 9 0 15
1 1b 0 3 1 3a 0 5 1 5 1 3 2 4 0 1f 1 4 0 c 1 3a 0 5 4 2 1 5 0 15 1 17 5 2 0 3b 0 3 0 2 3 9 0 8 1
c 1 1f 0 3e 0 d 0 33 0 4 0 38 0 2 2 6 2 2 3 8 1 c 1 1e 0 3b 0 3 0 7 0 6 1 15 1 1d 1 3a 1 5 3 9 0
15 1 1e 0 49 0 8 2 2 0 5b 0 3 6 d 7 63 0 3 8 c 6 4a 1 1c 0 2 0 2 0 38 d 2 4 2 1 6 a 2 23 a 0 67
3 2 5 2 1 3 1 1a 1 5 2 11 3 e 0 3 1 7 0 10 0 2c0 2 3b3 2 1e 1 1f 1 1f 1 41 1 2 6 9 0 3 a a 0 2e
4 76 1 23 0 77 2 5 1 a 0 7 2 dc 1 3 0 3b 0 2 6 2 0 2 0 3 7 7 9 3 0 31 2d 3 b 15 3 31 0 2 4 2 0 6
0 29 8 d 1 21 3 3 1 2 2 39 0 2 1 4 0 2 2 3b 7 3 1 99 2 2 c 2 6 5 0 7 0 4 1 c7 3f 20c 0 3 1 1b 4
32 4 2 9 61 20 bff 2 8e 0 61 1f 22b 3 6c 1 75d5 3 2 9 21 1 51 1 111 0 4 0 5 0 1a 1 6 0 98 1 1b
11 e 0 27 7 1a a 2f 2 31 0 3 3 3 1 28 0 44 5 3 1 3 1 d 0 9 0 30 0 34 0 2 2 3 1 6 1 2 0 2b 1 9 0
ef 0 3 0 5 0 4f31 0 2e2 f 11 f d0 0 fa 2 202 0 e3 0 96 4 687 2 2 1 6 3 29 2 5 0 a6 1 23e 3 42 4
13e 1 4e 5 47 a 32 3 7c 0 37 e 2a 0 3 1 b 2 32 3 3 1 3 0 5 0 b 0 33 2 25 4 2 7 3f 0 d 1 35 8 b 3
3 0 60 2 3 0 2 1 7 0 3 0 9e 0 4 7 16 1 3a 1 4 0 26 6 4 4 47 5 e 0 2 0 2 0 f 1 56 7 3 2 2 0 18 0
55 5 2 0 5 1 2 1 ef 3 7 1 2 1 1c 1 56 7 3 0 2 1 6b 0 2 0 3 5 2 0 66 0 2 0 3 3 2 4 104 8 2 1 101
1 2 0 5 0 91 3 3 1 5 0 21 9 29 5 3 3 9 0 a 5 3 2 2f c 2 1 c7 0 2 2 2 0 ca 6 2 5 2 0 53 15 3 6 2
1 2 1 7b 5 4 0 2 1 2 6 2 0 49 1 4 0 2 0 15c 1 c 1 35 4 6 0 2 0 18 0 14d6 10 7 e 2cc9 b 4 2 9c1 4
3c 6 419 0 40 3 52 0 4cb9 1 2 3 125d 2d 3 16 221 2 a f 3 6 1f 3 95 2 7bc 36 5 31 9 0 f 0 17 4 2
e 551 6 2 10 3 6 2 1 2 4 65 0 a1 6 178 0 3e 3 1fd 3 ff 1 f4 0 3 0 8 1 6 0 1db 6 6e 6 c16b7 0 1f
5f 81 ef"

private def dualJoiningRanges : RangeTable := RangeTable.ofText "620 0 6 0 2 0 2 4 5 c 2 6 2 1 24 1 9 f 13 25 2 1 a 0 2 0 2 1 29 2 3 0 13 2 6 3 2 8 2 0 2 0 2 1
20 a 4 e 3 3 2 0 3 2 3 5"

private def rightJoiningRanges : RangeTable := RangeTable.ofText "622 3 2 0 2 0 6 3 16 0 29 2 2 2 11 11 27 0 3 8 2 0 2 0 3 1 2 0 19 1 21 0 5 4 5 0 a 0 2 0 2 0 3 0
1e 0 c 2 10 1 5 0 2 1 4 1"

def direction (c : Char) : Direction :=
  let n := c.toNat
  if rightRanges.contains n then .right
  else if arabicRanges.contains n then .arabic
  else if arabicNumberRanges.contains n then .arabicNumber
  else if europeanNumberRanges.contains n then .europeanNumber
  else if directionMarkRanges.contains n then .mark
  else if neutralRanges.contains n then .neutral
  else .left

/-- Combining marks, with which no label begins. No ASCII character is one. -/
def isMark (c : Char) : Bool := 0x80 ≤ c.toNat && markRanges.contains c.toNat

def isTransparent (c : Char) : Bool := transparentRanges.contains c.toNat

def joinsBoth (c : Char) : Bool := dualJoiningRanges.contains c.toNat

def joinsRight (c : Char) : Bool := rightJoiningRanges.contains c.toNat

end BrokerGate.Idna
