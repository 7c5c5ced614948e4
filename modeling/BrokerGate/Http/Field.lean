import BrokerGate.Text.Utf8

/-! Header fields: names compare without case and are kept in lower case, values are bytes without
controls, and a field list keeps the order in which fields arrived. -/
namespace BrokerGate.Http
open Text Utf8

/-- Letters, digits and the marks that names of fields and methods may hold. -/
def isTokenByte (b : UInt8) : Bool :=
  let c := Char.ofNat b.toNat
  b < 0x80 && (c.isAlphanum || "!#$%&'*+-.^_\x60|~".toList.contains c)

structure FieldName where
  text : String
  deriving DecidableEq

namespace FieldName

def ofBytes? (bs : Bytes) : Option FieldName :=
  if bs ≠ [] && bs.all isTokenByte && bs.length ≤ 65535 then
    some ⟨String.ofList (bs.map fun b => (Char.ofNat b.toNat).toLower)⟩
  else none

def connection : FieldName := ⟨"connection"⟩
def host : FieldName := ⟨"host"⟩
def authorization : FieldName := ⟨"authorization"⟩
def forwardedFor : FieldName := ⟨"x-forwarded-for"⟩
def apiVersion : FieldName := ⟨"x-broker-api-version"⟩
def contentType : FieldName := ⟨"content-type"⟩
def contentLength : FieldName := ⟨"content-length"⟩
def transferEncoding : FieldName := ⟨"transfer-encoding"⟩

end FieldName

/-- A sensitive value is one that diagnostics leave out. -/
structure FieldValue where
  bytes : Bytes
  sensitive : Bool
  deriving DecidableEq

namespace FieldValue

def isAllowedByte (b : UInt8) : Bool := (0x20 ≤ b && b ≠ 0x7F) || b = 9

def isReadableByte (b : UInt8) : Bool := (0x20 ≤ b && b < 0x7F) || b = 9

def ofBytes? (bs : Bytes) : Option FieldValue :=
  if bs.all isAllowedByte then some ⟨bs, false⟩ else none

def ofText (s : String) : FieldValue := ⟨ofString s, false⟩

/-- Only visible ASCII and tabs can be read as text. -/
def isReadable (v : FieldValue) : Bool := v.bytes.all isReadableByte

def text? (v : FieldValue) : Option (List Char) :=
  if v.isReadable then some (v.bytes.map fun b => Char.ofNat b.toNat) else none

end FieldValue

abbrev Fields := List (FieldName × FieldValue)

namespace Fields

def values (fs : Fields) (n : FieldName) : List FieldValue :=
  (fs.filter (·.1 = n)).map (·.2)

def has (fs : Fields) (n : FieldName) : Bool := fs.any (·.1 = n)

def erase (fs : Fields) (n : FieldName) : Fields := fs.filter (·.1 ≠ n)

/-- One value in the place of all that the name had. -/
def set (fs : Fields) (n : FieldName) (v : FieldValue) : Fields := erase fs n ++ [(n, v)]

@[simp] theorem values_erase_self (fs : Fields) (n : FieldName) : values (erase fs n) n = [] := by
  simp [values, erase]

@[simp] theorem values_erase_other (fs : Fields) {m n : FieldName} (h : m ≠ n) :
    values (erase fs n) m = values fs m := by
  simp only [values, erase, List.filter_filter]
  congr 1
  apply List.filter_congr
  intro p _
  by_cases hp : p.1 = m
  · simp [hp, h]
  · simp [hp]

@[simp] theorem values_set_self (fs : Fields) (n : FieldName) (v : FieldValue) :
    values (set fs n v) n = [v] := by
  have h := values_erase_self fs n
  simp only [values] at h
  simp [values, set, h]

@[simp] theorem values_set_other (fs : Fields) {m n : FieldName} (v : FieldValue) (h : m ≠ n) :
    values (set fs n v) m = values fs m := by
  have he := values_erase_other fs h
  simp only [values] at he
  simp [values, set, he, Ne.symm h]

end Fields

end BrokerGate.Http
