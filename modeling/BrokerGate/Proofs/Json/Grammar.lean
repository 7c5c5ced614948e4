import BrokerGate.Json.Outline
import BrokerGate.Proofs.Decimal.Read

/-! The texts that are JSON. Strings and numbers come first, then the documents that are made of
them; an array and an object go with the texts of their items and members. -/
namespace BrokerGate.Json
open Text Decimal

def Blanks (cs : List Char) : Prop := ∀ c ∈ cs, isJsonBlank c = true

/-- Letters that stand for another character behind a backslash. -/
def simpleEscapes : List (Char × Char) :=
  [('"', '"'), ('\\', '\\'), ('/', '/'), ('b', '\x08'), ('f', '\x0c'), ('n', '\n'), ('r', '\r'),
    ('t', '\t')]

/-- What may stand between the quotes of a string. -/
inductive StringText : List Char → Prop
  | nil : StringText []
  | plain {c : Char} {cs : List Char} (hquote : c ≠ '"') (hslash : c ≠ '\\')
    (hcontrol : 0x20 ≤ c.toNat) (h : StringText cs) : StringText (c :: cs)
  | simple {e c : Char} {cs : List Char} (he : (e, c) ∈ simpleEscapes) (h : StringText cs) :
    StringText ('\\' :: e :: cs)
  | unicode {ds cs : List Char} (hlength : ds.length = 4)
    (hds : ∀ d ∈ ds, (hexDigit? d).isSome = true) (h : StringText cs) :
    StringText ('\\' :: 'u' :: (ds ++ cs))

/-- What may stand between the quotes of a string, and the characters it stands for. A surrogate
stands for none without its other half. -/
inductive Spells : List Char → List Char → Prop
  | nil : Spells [] []
  | plain {c : Char} {cs u : List Char} (hquote : c ≠ '"') (hslash : c ≠ '\\')
    (hcontrol : 0x20 ≤ c.toNat) (h : Spells cs u) : Spells (c :: cs) (c :: u)
  | simple {e c : Char} {cs u : List Char} (he : (e, c) ∈ simpleEscapes) (h : Spells cs u) :
    Spells ('\\' :: e :: cs) (c :: u)
  | unit {ds cs u : List Char} {n : Nat} (hds : hexQuad? ds = some (n, []))
    (hhigh : isHigh n = false) (hlow : isLow n = false) (h : Spells cs u) :
    Spells ('\\' :: 'u' :: (ds ++ cs)) (Char.ofNat n :: u)
  | pair {ds ds' cs u : List Char} {n m : Nat} (hds : hexQuad? ds = some (n, []))
    (hds' : hexQuad? ds' = some (m, [])) (hhigh : isHigh n = true) (hlow : isLow m = true)
    (h : Spells cs u) : Spells ('\\' :: 'u' :: (ds ++ '\\' :: 'u' :: (ds' ++ cs)))
      (Char.ofNat (0x10000 + (n - 0xD800) * 1024 + (m - 0xDC00)) :: u)

/-- Digits without a leading zero. -/
structure Whole (ds : List Char) : Prop where
  digits : Digits ds
  zero : ds.head? = some '0' → ds = ['0']

/-- Nothing, or a point and digits. -/
inductive Fraction : List Char → Prop
  | none : Fraction []
  | some {ds : List Char} (h : Digits ds) : Fraction ('.' :: ds)

inductive NumberText : List Char → Prop
  | intro {sign whole fraction e : List Char} (hsign : sign = [] ∨ sign = ['-'])
    (hwhole : Whole whole) (hfraction : Fraction fraction) (he : Exponent e) :
    NumberText (sign ++ (whole ++ (fraction ++ e)))

/-- Parts of a document: a value, and what follows the bracket that opens an array or an object with
anything in it. It goes with the texts of the items, or of the names and values of the members,
without blanks around them. -/
inductive Part
  | value
  | items (texts : List (List Char))
  | members (texts : List (List Char × List Char))

inductive Fits : Part → List Char → Prop
  | null : Fits .value "null".toList
  | yes : Fits .value "true".toList
  | no : Fits .value "false".toList
  | number {cs : List Char} (h : NumberText cs) : Fits .value cs
  | string {cs : List Char} (h : StringText cs) : Fits .value ('"' :: (cs ++ ['"']))
  | noItem {gap : List Char} (h : Blanks gap) : Fits .value ('[' :: (gap ++ [']']))
  | array {texts : List (List Char)} {cs : List Char} (h : Fits (.items texts) cs) :
    Fits .value ('[' :: cs)
  | noMember {gap : List Char} (h : Blanks gap) : Fits .value ('\x7b' :: (gap ++ ['\x7d']))
  | object {texts : List (List Char × List Char)} {cs : List Char} (h : Fits (.members texts) cs) :
    Fits .value ('\x7b' :: cs)
  | lastItem {lead cs trail : List Char} (hlead : Blanks lead) (h : Fits .value cs)
    (htrail : Blanks trail) : Fits (.items [cs]) (lead ++ (cs ++ (trail ++ [']'])))
  | item {lead cs trail more : List Char} {texts : List (List Char)} (hlead : Blanks lead)
    (h : Fits .value cs) (htrail : Blanks trail) (hmore : Fits (.items texts) more) :
    Fits (.items (cs :: texts)) (lead ++ (cs ++ (trail ++ ',' :: more)))
  | lastMember {front name gap lead cs trail : List Char} (hfront : Blanks front)
    (hname : StringText name) (hgap : Blanks gap) (hlead : Blanks lead) (h : Fits .value cs)
    (htrail : Blanks trail) : Fits (.members [('"' :: (name ++ ['"']), cs)])
      (front ++ '"' :: (name ++ '"' :: (gap ++ ':' :: (lead ++ (cs ++ (trail ++ ['\x7d']))))))
  | member {front name gap lead cs trail more : List Char} {texts : List (List Char × List Char)}
    (hfront : Blanks front) (hname : StringText name) (hgap : Blanks gap) (hlead : Blanks lead)
    (h : Fits .value cs) (htrail : Blanks trail) (hmore : Fits (.members texts) more) :
    Fits (.members (('"' :: (name ++ ['"']), cs) :: texts))
      (front ++ '"' :: (name ++ '"' :: (gap ++ ':' :: (lead ++ (cs ++ (trail ++ ',' :: more))))))

/-- A document that is an array of these items. -/
inductive ArrayText : List (List Char) → List Char → Prop
  | none {lead gap trail : List Char} (hlead : Blanks lead) (hgap : Blanks gap)
    (htrail : Blanks trail) : ArrayText [] (lead ++ '[' :: (gap ++ ']' :: trail))
  | some {texts : List (List Char)} {lead cs trail : List Char} (hlead : Blanks lead)
    (h : Fits (.items texts) cs) (htrail : Blanks trail) :
    ArrayText texts (lead ++ '[' :: (cs ++ trail))

/-- A document that is an object of these members. -/
inductive ObjectText : List (List Char × List Char) → List Char → Prop
  | none {lead gap trail : List Char} (hlead : Blanks lead) (hgap : Blanks gap)
    (htrail : Blanks trail) : ObjectText [] (lead ++ '\x7b' :: (gap ++ '\x7d' :: trail))
  | some {texts : List (List Char × List Char)} {lead cs trail : List Char} (hlead : Blanks lead)
    (h : Fits (.members texts) cs) (htrail : Blanks trail) :
    ObjectText texts (lead ++ '\x7b' :: (cs ++ trail))

end BrokerGate.Json
