import BrokerGate.Text.CharClass

/-! Canonical composition of characters: decompose, order marks by their combining class, then
join a starter with the marks that follow it. Composed characters are stored with the two
characters they stand for, combining classes as runs. -/
namespace BrokerGate.Idna
open Text

private def readPairs (previous : Nat) : List Nat → List (Nat × Nat × Nat)
  | gap :: a :: b :: rest => (previous + gap, a, b) :: readPairs (previous + gap) rest
  | _ => []

private def readClasses (previous : Nat) : List Nat → List (Nat × Nat × Nat)
  | gap :: more :: value :: rest =>
    (previous + gap, previous + gap + more, value) :: readClasses (previous + gap + more) rest
  | _ => []

private def pairs : List (Nat × Nat × Nat) := readPairs 0 (hexNumbers "e0 61 300 1 61 301 1 61 302 1 61 303 1 61 308 1 61 30a 2 63 327 1 65 300 1 65 301 1 65 302 1 65
308 1 69 300 1 69 301 1 69 302 1 69 308 2 6e 303 1 6f 300 1 6f 301 1 6f 302 1 6f 303 1 6f 308 3
75 300 1 75 301 1 75 302 1 75 308 1 79 301 2 79 308 2 61 304 2 61 306 2 61 328 2 63 301 2 63 302
2 63 307 2 63 30c 2 64 30c 4 65 304 2 65 306 2 65 307 2 65 328 2 65 30c 2 67 302 2 67 306 2 67
307 2 67 327 2 68 302 4 69 303 2 69 304 2 69 306 2 69 328 6 6a 302 2 6b 327 3 6c 301 2 6c 327 2
6c 30c 6 6e 301 2 6e 327 2 6e 30c 5 6f 304 2 6f 306 2 6f 30b 4 72 301 2 72 327 2 72 30c 2 73 301
2 73 302 2 73 327 2 73 30c 2 74 327 2 74 30c 4 75 303 2 75 304 2 75 306 2 75 30a 2 75 30b 2 75
328 2 77 302 2 79 302 3 7a 301 2 7a 307 2 7a 30c 23 6f 31b f 75 31b 1e 61 30c 2 69 30c 2 6f 30c
2 75 30c 2 fc 304 2 fc 301 2 fc 30c 2 fc 300 3 e4 304 2 227 304 2 e6 304 4 67 30c 2 6b 30c 2 6f
328 2 1eb 304 2 292 30c 1 6a 30c 5 67 301 4 6e 300 2 e5 301 2 e6 301 2 f8 301 2 61 30f 2 61 311
2 65 30f 2 65 311 2 69 30f 2 69 311 2 6f 30f 2 6f 311 2 72 30f 2 72 311 2 75 30f 2 75 311 2 73
326 2 74 326 4 68 30c 8 61 307 2 65 327 2 f6 304 2 f5 304 2 6f 307 2 22f 304 2 79 304 15d 3ca
301 1c 3b1 301 1 3b5 301 1 3b7 301 1 3b9 301 1 3cb 301 1a 3b9 308 1 3c5 308 1 3bf 301 1 3c5 301
1 3c9 301 6b 438 306 17 435 300 1 435 308 2 433 301 4 456 308 5 43a 301 1 438 300 1 443 306 19
475 30f 4b 436 306 f 430 306 2 430 308 4 435 306 4 4d9 308 2 436 308 2 437 308 4 438 304 2 438
308 2 43e 308 4 4e9 308 2 44d 308 2 443 304 2 443 308 2 443 30b 2 447 308 4 44b 308 129 627 653
1 627 654 1 648 654 1 627 655 1 64a 654 9a 6d5 654 2 6c1 654 11 6d2 654 256 928 93c 8 930 93c 3
933 93c 97 9c7 9be 1 9c7 9d7 17c b47 b56 3 b47 b3e 1 b47 b57 48 b92 bd7 36 bc6 bbe 1 bc7 bbe 1
bc6 bd7 7c c46 c56 78 cbf cd5 7 cc6 cd5 1 cc6 cd6 2 cc6 cc2 1 cca cd5 7f d46 d3e 1 d47 d3e 1 d46
d57 8e dd9 dca 2 dd9 dcf 1 ddc dca 1 dd9 ddf 248 1025 102e ae0 1b05 1b35 2 1b07 1b35 2 1b09 1b35
2 1b0b 1b35 2 1b0d 1b35 4 1b11 1b35 29 1b3a 1b35 2 1b3c 1b35 3 1b3e 1b35 1 1b3f 1b35 2 1b42 1b35
2be 61 325 2 62 307 2 62 323 2 62 331 2 e7 301 2 64 307 2 64 323 2 64 331 2 64 327 2 64 32d 2
113 300 2 113 301 2 65 32d 2 65 330 2 229 306 2 66 307 2 67 304 2 68 307 2 68 323 2 68 308 2 68
327 2 68 32e 2 69 330 2 ef 301 2 6b 301 2 6b 323 2 6b 331 2 6c 323 2 1e37 304 2 6c 331 2 6c 32d
2 6d 301 2 6d 307 2 6d 323 2 6e 307 2 6e 323 2 6e 331 2 6e 32d 2 f5 301 2 f5 308 2 14d 300 2 14d
301 2 70 301 2 70 307 2 72 307 2 72 323 2 1e5b 304 2 72 331 2 73 307 2 73 323 2 15b 307 2 161
307 2 1e63 307 2 74 307 2 74 323 2 74 331 2 74 32d 2 75 324 2 75 330 2 75 32d 2 169 301 2 16b
308 2 76 303 2 76 323 2 77 300 2 77 301 2 77 308 2 77 307 2 77 323 2 78 307 2 78 308 2 79 307 2
7a 302 2 7a 323 2 7a 331 1 68 331 1 74 308 1 77 30a 1 79 30a 8 61 323 2 61 309 2 e2 301 2 e2 300
2 e2 309 2 e2 303 2 1ea1 302 2 103 301 2 103 300 2 103 309 2 103 303 2 1ea1 306 2 65 323 2 65
309 2 65 303 2 ea 301 2 ea 300 2 ea 309 2 ea 303 2 1eb9 302 2 69 309 2 69 323 2 6f 323 2 6f 309
2 f4 301 2 f4 300 2 f4 309 2 f4 303 2 1ecd 302 2 1a1 301 2 1a1 300 2 1a1 309 2 1a1 303 2 1a1 323
2 75 323 2 75 309 2 1b0 301 2 1b0 300 2 1b0 309 2 1b0 303 2 1b0 323 2 79 300 2 79 323 2 79 309 2
79 303 7 3b1 313 1 3b1 314 1 1f00 300 1 1f01 300 1 1f00 301 1 1f01 301 1 1f00 342 1 1f01 342 9
3b5 313 1 3b5 314 1 1f10 300 1 1f11 300 1 1f10 301 1 1f11 301 b 3b7 313 1 3b7 314 1 1f20 300 1
1f21 300 1 1f20 301 1 1f21 301 1 1f20 342 1 1f21 342 9 3b9 313 1 3b9 314 1 1f30 300 1 1f31 300 1
1f30 301 1 1f31 301 1 1f30 342 1 1f31 342 9 3bf 313 1 3bf 314 1 1f40 300 1 1f41 300 1 1f40 301 1
1f41 301 b 3c5 313 1 3c5 314 1 1f50 300 1 1f51 300 1 1f50 301 1 1f51 301 1 1f50 342 1 1f51 342 9
3c9 313 1 3c9 314 1 1f60 300 1 1f61 300 1 1f60 301 1 1f61 301 1 1f60 342 1 1f61 342 9 3b1 300 2
3b5 300 2 3b7 300 2 3b9 300 2 3bf 300 2 3c5 300 2 3c9 300 34 3b1 306 1 3b1 304 5 3b1 342 10 3b7
342 a 3b9 306 1 3b9 304 1 3ca 300 4 3b9 342 1 3ca 342 9 3c5 306 1 3c5 304 1 3cb 300 2 3c1 313 1
3c1 314 1 3c5 342 1 3cb 342 f 3c9 342 1a4 2190 338 1 2192 338 13 2194 338 1f 21d0 338 1 21d4 338
1 21d2 338 35 2203 338 5 2208 338 3 220b 338 18 2223 338 2 2225 338 1b 223c 338 3 2243 338 3
2245 338 2 2248 338 17 3d 338 2 2261 338 b 224d 338 1 3c 338 1 3e 338 1 2264 338 1 2265 338 3
2272 338 1 2273 338 3 2276 338 1 2277 338 7 227a 338 1 227b 338 3 2282 338 1 2283 338 3 2286 338
1 2287 338 23 22a2 338 1 22a8 338 1 22a9 338 1 22ab 338 31 227c 338 1 227d 338 1 2291 338 1 2292
338 7 22b2 338 1 22b3 338 1 22b4 338 1 22b5 338 d5f 304b 3099 2 304d 3099 2 304f 3099 2 3051
3099 2 3053 3099 2 3055 3099 2 3057 3099 2 3059 3099 2 305b 3099 2 305d 3099 2 305f 3099 2 3061
3099 3 3064 3099 2 3066 3099 2 3068 3099 7 306f 3099 1 306f 309a 2 3072 3099 1 3072 309a 2 3075
3099 1 3075 309a 2 3078 3099 1 3078 309a 2 307b 3099 1 307b 309a 17 3046 3099 a 309d 3099 e 30ab
3099 2 30ad 3099 2 30af 3099 2 30b1 3099 2 30b3 3099 2 30b5 3099 2 30b7 3099 2 30b9 3099 2 30bb
3099 2 30bd 3099 2 30bf 3099 2 30c1 3099 3 30c4 3099 2 30c6 3099 2 30c8 3099 7 30cf 3099 1 30cf
309a 2 30d2 3099 1 30d2 309a 2 30d5 3099 1 30d5 309a 2 30d8 3099 1 30d8 309a 2 30db 3099 1 30db
309a 17 30a6 3099 3 30ef 3099 1 30f0 3099 1 30f1 3099 1 30f2 3099 4 30fd 3099 d4cb 105d2 307 1b
105da 307 ab6 11099 110ba 2 1109b 110ba f 110a5 110ba 83 11131 11127 1 11132 11127 21c 11347
1133e 1 11347 11357 37 11382 113c9 2 11384 113bb 9 1138b 113c2 3 11390 113c9 34 113c2 113c2 2
113c2 113b8 1 113c2 113c9 f3 114b9 114ba 1 114b9 114b0 2 114b9 114bd fc 115b8 115af 1 115b9
115af 37d 11935 11930 47e9 1611e 1611e 1 1611e 16129 1 1611e 1611f 1 16129 1611f 1 1611e 16120 1
16121 1611f 1 16122 1611f 1 16121 16120 c40 16d67 16d67 1 16d63 16d67 1 16d69 16d67")

private def classes : List (Nat × Nat × Nat) := readClasses 0 (hexNumbers "300 14 e6 1 0 e8 1 3 dc 1 0 e8 1 0 d8 1 4 dc 1 1 ca 1 3 dc 1 1 ca 1 a dc 1 4 1 1 3 dc 1 7 e6 1 0
f0 1 0 e6 1 2 dc 1 2 e6 1 1 dc 2 2 e6 1 3 dc 1 0 e6 1 0 e8 1 1 dc 1 0 e6 1 0 e9 1 1 ea 1 0 e9 1
1 ea 1 0 e9 1 c e6 114 4 e6 10a 0 dc 1 3 e6 1 0 dc 1 2 e6 1 0 de 1 0 dc 1 5 e6 1 5 dc 1 1 e6 1 0
dc 1 1 e6 1 0 de 1 0 e4 1 0 e6 1 0 a 1 0 b 1 0 c 1 0 d 1 0 e 1 0 f 1 0 10 1 0 11 1 0 12 1 1 13 1
0 14 1 0 15 1 0 16 2 0 17 2 0 18 1 0 19 2 0 e6 1 0 dc 2 0 12 49 7 e6 1 0 1e 1 0 1f 1 0 20 31 0
1b 1 0 1c 1 0 1d 1 0 1e 1 0 1f 1 0 20 1 0 21 1 0 22 1 1 e6 1 1 dc 1 4 e6 1 0 dc 1 1 e6 1 0 dc 11
0 23 66 6 e6 3 3 e6 1 0 dc 1 0 e6 3 1 e6 2 0 dc 1 1 e6 1 0 dc 24 0 24 1f 0 e6 1 0 dc 1 1 e6 1 0
dc 1 1 e6 1 2 dc 1 0 e6 1 1 dc 1 0 e6 1 0 dc 1 2 e6 1 0 dc 1 0 e6 1 0 dc 1 0 e6 1 0 dc 1 0 e6 1
0 dc 1 1 e6 a1 6 e6 1 0 dc 1 0 e6 a 0 dc 19 3 e6 2 8 e6 2 2 e6 2 4 e6 2c 2 dc 3d 0 e6 1 2 dc 1 3
e6 2b 4 e6 1 4 dc 1 d e6 2 0 dc 1 1 e6 1 0 dc 1 1 e6 1 0 dc 1 2 e6 1 2 dc 1 0 1b 1 0 1c 1 0 1d 1
2 e6 1 0 dc 1 1 e6 1 1 dc 1 4 e6 3d 0 7 11 0 9 4 0 e6 1 0 dc 1 1 e6 68 0 7 11 0 9 31 0 e6 3e 0 7
11 0 9 6f 0 7 11 0 9 6f 0 7 11 0 9 80 0 9 6f 0 7 11 0 9 8 0 54 1 0 5b 66 0 7 11 0 9 6e 1 9 11 0
9 7d 0 9 6e 1 67 1 0 9 e 3 6b 6d 1 76 1 0 9 e 3 7a 4d 1 dc 1c 0 dc 2 0 dc 2 0 d8 38 0 81 1 0 82
2 0 84 6 3 82 3 0 82 2 1 e6 1 0 9 2 1 e6 3f 0 dc 71 0 7 2 1 9 53 0 dc 2d0 2 e6 3b5 1 9 1f 0 9 9e
0 9 b 0 e6 cc 0 e4 90 0 de 1 0 e6 1 0 dc dc 0 e6 1 0 dc 48 0 9 15 7 e6 3 0 dc 31 4 e6 1 5 dc 1 1
e6 1 0 dc 2 1 dc 1 1 e6 1 1 dc 1 4 e6 1 0 dc 1 3 e6 66 0 7 10 0 9 27 0 e6 1 0 dc 1 6 e6 37 1 9
3b 0 7 c 1 9 44 0 7 99 2 e6 2 0 1 1 4 dc 1 1 e6 1 3 dc 1 0 e6 2 6 1 5 0 dc 7 0 e6 4 1 e6 c7 1 e6
1 0 dc 1 6 e6 1 0 dc 1 1 e6 1 0 ea 1 0 d6 1 0 dc 1 0 ca 1 24 e6 1 0 e8 1 1 e4 1 0 dc 1 0 da 1 0
e6 1 0 e9 1 0 dc 1 0 e6 1 0 dc 2d1 1 e6 1 1 1 1 3 e6 1 2 1 1 1 e6 5 0 e6 4 1 1 1 0 e6 1 0 dc 1 0
e6 1 1 1 1 3 dc 1 0 e6 bff 2 e6 8e 0 9 61 1f e6 22b 0 da 1 0 e4 1 0 e8 1 0 de 1 1 e0 6a 1 8 75d5
0 e6 5 9 e6 21 1 e6 51 1 e6 115 0 9 26 0 9 98 0 9 1c 11 e6 3a 2 dc 26 0 9 60 0 7 d 0 9 f0 0 e6 2
1 e6 1 0 dc 3 1 e6 6 1 e6 2 0 e6 35 0 9 f7 0 9 4f31 0 1a 302 6 e6 1 6 dc 1 1 e6 3ce 0 dc e3 0 dc
96 4 e6 693 0 dc 2 0 e6 29 0 e6 1 0 1 1 0 dc 5 0 9 a6 0 e6 1 0 dc 23e 3 e6 184 1 e6 9a 1 dc 1 2
e6 1 0 dc 1 0 e6 1 3 dc 32 0 e6 1 0 dc 1 0 e6 1 0 dc c1 0 9 2a 0 9 f 0 9 3a 0 9 1 0 7 46 2 e6 31
1 9 3f 0 7 4d 0 9 a 0 7 6b 0 9 1 0 7 b3 0 7 1 0 9 51 1 7 11 0 9 19 6 e6 4 4 e6 ce 0 9 4 0 7 18 0
e6 64 0 9 1 0 7 fc 0 9 1 0 7 7f 0 9 77 0 9 1 0 7 74 0 9 10e 0 9 1 0 7 103 1 9 5 0 7 9d 0 9 54 0
9 13 0 9 52 0 9 1a6 0 9 103 0 7 2 1 9 52 0 9 4d59 4 1 3c 6 e6 4ba 1 6 4cad 0 1 14c7 1 d8 1 2 1 4
0 e2 1 4 d8 9 7 dc 3 4 e6 1 1 dc 1f 3 e6 95 2 e6 dbc 6 e6 2 10 e6 3 6 e6 2 1 e6 2 4 e6 106 6 e6
178 0 e6 3e 3 e6 5e1 6 dc 6e 5 e6 1 0 7")

def combiningClass (n : Nat) : Nat :=
  ((classes.find? fun r => r.1 ≤ n && n ≤ r.2.1).map (·.2.2)).getD 0

/-- Syllable blocks are composed by arithmetic: 19 leads, 21 vowels, 27 tails. -/
private def syllable? (n : Nat) : Option (Nat × Nat) :=
  if 0xAC00 ≤ n && n ≤ 0xD7A3 then
    let k := n - 0xAC00
    if k % 28 = 0 then some (0x1100 + k / 588, 0x1161 + k % 588 / 28)
    else some (n - k % 28, 0x11A7 + k % 28)
  else none

private def split? (n : Nat) : Option (Nat × Nat) :=
  match syllable? n with
  | some p => some p
  | none => (pairs.find? (·.1 = n)).map (·.2)

private def join? (a b : Nat) : Option Nat :=
  if 0x1100 ≤ a && a ≤ 0x1112 && 0x1161 ≤ b && b ≤ 0x1175 then
    some (0xAC00 + (a - 0x1100) * 588 + (b - 0x1161) * 28)
  else if 0xAC00 ≤ a && a ≤ 0xD7A3 && (a - 0xAC00) % 28 = 0 && 0x11A8 ≤ b && b ≤ 0x11C2 then
    some (a + (b - 0x11A7))
  else (pairs.find? fun p => p.2.1 = a && p.2.2 = b).map (·.1)

private def decompose (fuel n : Nat) : List Nat :=
  match fuel with
  | 0 => [n]
  | fuel + 1 =>
    match split? n with
    | some (a, b) => decompose fuel a ++ [b]
    | none => [n]

/-- Puts a mark behind the marks of no higher class at the end of the text. -/
private def insertMark (n : Nat) : List Nat → List Nat
  | [] => [n]
  | m :: rest =>
    if combiningClass n ≠ 0 && combiningClass m > combiningClass n then m :: insertMark n rest
    else n :: m :: rest

/-- Stable order of each run of marks; the text is kept reversed while it grows. -/
private def ordered (ns : List Nat) : List Nat :=
  (ns.foldl (fun acc n => insertMark n acc) []).reverse

/-- Joins the marks that are not blocked with the starter; `kept` is what stays, reversed. -/
private def absorb (starter lastClass : Nat) (kept : List Nat) : List Nat → List Nat
  | [] => starter :: kept.reverse
  | n :: rest =>
    let k := combiningClass n
    let free := kept.isEmpty || (lastClass < k && lastClass ≠ 0)
    match (if free then join? starter n else none) with
    | some joined => absorb joined lastClass kept rest
    | none =>
      if k = 0 then starter :: (kept.reverse ++ absorb n 0 [] rest)
      else absorb starter k (n :: kept) rest

private def composeMarks (cs : List Char) : List Char :=
  let ns := ordered (cs.flatMap fun c => decompose 4 c.toNat)
  let marks := ns.takeWhile (combiningClass · ≠ 0)
  match ns.dropWhile (combiningClass · ≠ 0) with
  | [] => marks.map Char.ofNat
  | starter :: rest => (marks ++ absorb starter 0 [] rest).map Char.ofNat

/-- ASCII is composed as it stands. -/
def compose (cs : List Char) : List Char :=
  if cs.all (·.toNat < 0x80) then cs else composeMarks cs

end BrokerGate.Idna
