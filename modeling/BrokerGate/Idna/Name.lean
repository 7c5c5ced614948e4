import BrokerGate.Idna.Composition
import BrokerGate.Idna.Direction
import BrokerGate.Idna.Mapping
import BrokerGate.Idna.Punycode
import BrokerGate.Text.Split

/-! Host names in their ASCII form. A name is mapped and cut into labels, and each label has to be
valid: its characters are their own image, it is composed, no mark leads it, joiners stand where a
script uses them, and the directions of its characters fit together. One that is not ASCII then
becomes `xn--` and its Punycode. -/
namespace BrokerGate.Idna
open Text

def nonJoiner : Char := Char.ofNat 0x200C

def joiner : Char := Char.ofNat 0x200D

def virama : Nat := 9

/-- The marks before a joiner are passed over in both directions to find the letters it joins. -/
def standsBetweenJoining (before after : List Char) : Bool :=
  (before.dropWhile isTransparent).head?.any joinsBoth &&
    (after.dropWhile isTransparent).head?.any fun c => joinsBoth c || joinsRight c

/-- `before` is what precedes, nearest character first. -/
def joinersFit (before : List Char) : List Char → Bool
  | [] => true
  | c :: cs =>
    (if c = nonJoiner || c = joiner then
      before.head?.any (combiningClass ·.toNat = virama) ||
        (c = nonJoiner && standsBetweenJoining before cs)
    else true) && joinersFit (c :: before) cs

/-- Its characters are their own image, it is composed, no mark leads it, and joiners fit. -/
def isStable (label : List Char) : Bool :=
  label.all (fun c => image? c = some [c]) && compose label = label &&
    !label.head?.any isMark && joinersFit [] label

/-- No ASCII character is one. -/
def isRightToLeft (c : Char) : Bool :=
  0x80 ≤ c.toNat && match direction c with
  | .right | .arabic | .arabicNumber => true
  | _ => false

private def lastDirection (label : List Char) : Option Direction :=
  ((label.reverse.dropWhile (direction · = .mark)).head?).map direction

def directionsFit (label : List Char) : Bool :=
  match label.head?.map direction with
  | none => true
  | some .left =>
    label.all (fun c => !isRightToLeft c) &&
      (lastDirection label = some .left || lastDirection label = some .europeanNumber)
  | some .right | some .arabic =>
    label.all (fun c => direction c ≠ .left) &&
      (match lastDirection label with
      | some .right | some .arabic | some .europeanNumber | some .arabicNumber => true
      | _ => false) &&
      !(label.any (direction · = .europeanNumber) && label.any (direction · = .arabicNumber))
  | some _ => false

/-- ASCII characters that no host of a URL may hold. -/
def isForbidden (c : Char) : Bool :=
  c.toNat ≤ 0x20 || c.toNat = 0x7F || "%#/:<>?@[\\]^|".toList.contains c

def marker : List Char := "xn--".toList

def isAscii (cs : List Char) : Bool := cs.all (·.toNat < 0x80)

/-- The Unicode form of a mapped label. A marked label has to decode to something that is not
ASCII. -/
def unicodeLabel? (label : List Char) : Option (List Char) :=
  match dropWord? marker label with
  | none => some label
  | some code =>
    if isAscii label then
      match Punycode.decode? code with
      | some decoded =>
        if isAscii decoded || Punycode.encode decoded ≠ code then none else some decoded
      | none => none
    else none

def asciiLabel (label : List Char) : List Char :=
  if isAscii label then label else marker ++ Punycode.encode label

def isWritable (label : List Char) : Bool := isAscii label || label.length ≤ Punycode.longest

/-- The labels of a name in their Unicode form: map, compose, cut, and decode what is marked. -/
def labels? (name : List Char) : Option (List (List Char)) := do
  let images ← name.mapM image?
  (pieces '.' (compose images.flatten)).mapM unicodeLabel?

def areValid (labels : List (List Char)) : Bool :=
  labels.all (fun l => isStable l && isWritable l) &&
    (!labels.any (·.any isRightToLeft) || labels.all directionsFit)

def asciiText (labels : List (List Char)) : List Char := joinWith ['.'] (labels.map asciiLabel)

/-- The ASCII form of a host name. -/
def toAscii? (name : List Char) : Option (List Char) := do
  let labels ← labels? name
  if areValid labels && !(asciiText labels).any isForbidden then some (asciiText labels) else none

end BrokerGate.Idna
