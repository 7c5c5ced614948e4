import BrokerGate.Text.Split

/-! Punycode: a label written with letters, digits and hyphens alone. The basic characters come
first; numbers in a mixed base then say where the others are inserted. -/
namespace BrokerGate.Idna.Punycode
open Text

def base : Nat := 36

/-- Numbers are read as long as they fit 32 bits. -/
def limit : Nat := 0x100000000

/-- The numbers of a label of no more characters can be read. -/
def longest : Nat := 1000

def isBasic (c : Char) : Bool := c.toNat < 128

def shrink (k delta : Nat) : Nat × Nat :=
  if 455 < delta then shrink (k + base) (delta / 35) else (k, delta)
termination_by delta
decreasing_by exact Nat.div_lt_self (by omega) (by omega)

/-- The bias for the next number, once a number was used in a text of some length. -/
def adapt (delta count : Nat) (first : Bool) : Nat :=
  let d := if first then delta / 700 else delta / 2
  let r := shrink 0 (d + d / count)
  r.1 + base * r.2 / (r.2 + 38)

def threshold (k bias : Nat) : Nat :=
  if k ≤ bias + 1 then 1 else if k ≥ bias + 26 then 26 else k - bias

theorem one_le_threshold (k bias : Nat) : 1 ≤ threshold k bias := by
  unfold threshold
  split
  · exact Nat.le_refl 1
  · split <;> omega

theorem threshold_le (k bias : Nat) : threshold k bias ≤ 26 := by
  unfold threshold
  split
  · decide
  · split <;> omega

def digitOf (n : Nat) : Char := if n < 26 then Char.ofNat (97 + n) else Char.ofNat (22 + n)

def digitValue? (c : Char) : Option Nat :=
  let n := c.toNat
  if 97 ≤ n && n ≤ 122 then some (n - 97)
  else if 65 ≤ n && n ≤ 90 then some (n - 65)
  else if 48 ≤ n && n ≤ 57 then some (n - 22)
  else none

/-- A number from its least digit on; the first digit below its threshold is the last one. -/
def writeNumber (bias k q : Nat) : List Char :=
  let t := threshold k bias
  if q < t then [digitOf q]
  else digitOf (t + (q - t) % (base - t)) :: writeNumber bias (k + base) ((q - t) / (base - t))
termination_by q
decreasing_by
  have := one_le_threshold k bias
  exact Nat.lt_of_le_of_lt (Nat.div_le_self _ _) (by omega)

/-- How far a label is written. -/
structure Progress where
  delta : Nat
  bias : Nat
  handled : Nat
  output : List Char

/-- Looks at one character of the label in the pass for the code `m`. -/
def Progress.look (basic m : Nat) (s : Progress) (c : Char) : Progress :=
  if c.toNat < m then { s with delta := s.delta + 1 }
  else if c.toNat = m then
    { delta := 0
      bias := adapt s.delta (s.handled + 1) (s.handled = basic)
      handled := s.handled + 1
      output := s.output ++ writeNumber s.bias base s.delta }
  else s

def Progress.pass (label : List Char) (basic m : Nat) (s : Progress) : Progress :=
  label.foldl (Progress.look basic m) s

/-- The codes of the label from `n` on that are not written yet. -/
def pending (label : List Char) (n : Nat) : List Nat := (label.map Char.toNat).filter (n ≤ ·)

theorem length_pending_lt {label : List Char} {n m : Nat}
    (h : (pending label n).min? = some m) :
    (pending label (m + 1)).length < (pending label n).length := by
  have hmem : m ∈ pending label n := List.min?_mem h
  have hle : n ≤ m := of_decide_eq_true (List.mem_filter.mp hmem).2
  have hfewer : pending label (m + 1) = (pending label n).filter (m + 1 ≤ ·) := by
    rw [pending, pending, List.filter_filter]
    refine List.filter_congr fun c _ => ?_
    rw [Bool.eq_iff_iff, Bool.and_eq_true, decide_eq_true_eq, decide_eq_true_eq]
    omega
  rw [hfewer, List.length_filter_lt_length_iff_exists]
  exact ⟨m, hmem, by simp⟩

/-- One pass for each code, in ascending order. -/
def writeFrom (label : List Char) (basic n : Nat) (s : Progress) : Progress :=
  match h : (pending label n).min? with
  | none => s
  | some m =>
    let s := Progress.pass label basic m { s with delta := s.delta + (m - n) * (s.handled + 1) }
    writeFrom label basic (m + 1) { s with delta := s.delta + 1 }
termination_by (pending label n).length
decreasing_by exact length_pending_lt h

/-- The numbers of a label. -/
def numbers (label : List Char) : List Char :=
  let basic := (label.filter isBasic).length
  (writeFrom label basic 128 ⟨0, 72, basic, []⟩).output

def encode (label : List Char) : List Char :=
  let basic := label.filter isBasic
  (if basic.isEmpty then [] else basic ++ ['-']) ++ numbers label

/-- Reads one number, with what follows it. -/
def readNumber (bias k value weight : Nat) : List Char → Option (Nat × List Char)
  | [] => none
  | c :: cs =>
    match digitValue? c with
    | none => none
    | some d =>
      let value := value + d * weight
      let t := threshold k bias
      if value ≥ limit then none
      else if d < t then some (value, cs)
      else readNumber bias (k + base) value (weight * (base - t)) cs

theorem length_lt_of_readNumber {bias k value weight delta : Nat} {cs rest : List Char}
    (h : readNumber bias k value weight cs = some (delta, rest)) : rest.length < cs.length := by
  induction cs generalizing k value weight with
  | nil => cases h
  | cons c cs ih =>
    rw [readNumber] at h
    split at h
    · cases h
    · dsimp only at h
      split at h
      · cases h
      · split at h
        · cases h
          exact Nat.lt_succ_self _
        · exact Nat.lt_succ_of_lt (ih h)

/-- How far a label is read: the code and the place after which the next character comes. -/
structure Insertion where
  code : Nat
  place : Nat
  bias : Nat
  first : Bool
  text : List Char

/-- A number counts the places to pass, all over again for each code. -/
def Insertion.insert? (s : Insertion) (delta : Nat) : Option Insertion :=
  let size := s.text.length + 1
  let code := s.code + (s.place + delta) / size
  let place := (s.place + delta) % size
  if code > 0x10FFFF || (0xD800 ≤ code && code ≤ 0xDFFF) then none
  else some ⟨code, place + 1, adapt delta size s.first, false,
    s.text.take place ++ Char.ofNat code :: s.text.drop place⟩

def Insertion.read? (s : Insertion) (cs : List Char) : Option (List Char) :=
  if cs.isEmpty then some s.text
  else
    match _h : readNumber s.bias base 0 1 cs with
    | none => none
    | some (delta, rest) =>
      match s.insert? delta with
      | none => none
      | some s => s.read? rest
termination_by cs.length
decreasing_by exact length_lt_of_readNumber _h

/-- Where reading starts: nothing is inserted yet. -/
def Insertion.start (basic : List Char) : Insertion := ⟨128, 0, 72, true, basic⟩

/-- The basic characters stand before the last hyphen, if there is one. -/
def decode? (cs : List Char) : Option (List Char) :=
  let (basic, code) := (cutLast '-' cs).getD ([], cs)
  if basic.all isBasic then (Insertion.start basic).read? code else none

end BrokerGate.Idna.Punycode
