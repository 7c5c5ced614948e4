import BrokerGate.Decimal.Shortest
import BrokerGate.Json

/-! Untyped settings: scalars, lists, and tables sorted by key. Every value knows which layer it
comes from, and a higher layer is merged over a lower one key by key. -/
namespace BrokerGate.Config
open Decimal

/-- Where a value was set. -/
inductive Source
  | defaults
  | text
  | file (path : String)
  | environment
  deriving DecidableEq

/-- Numbers keep the width in which they were read. -/
inductive Scalar
  | text (s : String)
  | char (c : Char)
  | flag (b : Bool)
  | unsigned (n : Nat)
  | signed (n : Int)
  | wide (n : Nat)
  | wideSigned (n : Int)
  | real (d : Double)
  | unit
  deriving DecidableEq

inductive Value
  | scalar (source : Source) (s : Scalar)
  | list (source : Source) (items : List Value)
  | table (source : Source) (entries : List (String × Value))

abbrev Entries := List (String × Value)

namespace Entries

def get? (es : Entries) (k : String) : Option Value := (es.find? (·.1 = k)).map (·.2)

/-- Sets a key, keeping the keys sorted. -/
def put (k : String) (v : Value) : Entries → Entries
  | [] => [(k, v)]
  | (j, w) :: rest =>
    if k = j then (k, v) :: rest
    else if k < j then (k, v) :: (j, w) :: rest
    else (j, w) :: put k v rest

/-- Of several values of a key the last stays. -/
def ofList (es : List (String × Value)) : Entries :=
  es.foldl (fun acc e => put e.1 e.2 acc) []

@[simp] theorem get?_put_self (k : String) (v : Value) (es : Entries) :
    get? (put k v es) k = some v := by
  induction es with
  | nil => simp [put, get?]
  | cons e rest ih =>
    obtain ⟨j, w⟩ := e
    simp only [put]
    split
    · simp [get?]
    · split
      · simp [get?]
      · rename_i hne _
        have hj : ¬ j = k := fun h => hne h.symm
        simpa [get?, hj] using ih

theorem get?_put_other {j k : String} (v : Value) (es : Entries) (h : j ≠ k) :
    get? (put k v es) j = get? es j := by
  induction es with
  | nil => simp [put, get?, Ne.symm h]
  | cons e rest ih =>
    obtain ⟨i, w⟩ := e
    simp only [put]
    split
    · rename_i hk
      subst hk
      simp [get?, Ne.symm h]
    · split
      · simp [get?, Ne.symm h]
      · by_cases hi : i = j
        · simp [get?, hi]
        · simpa [get?, hi] using ih

end Entries

namespace Value

def source : Value → Source
  | scalar o _ | list o _ | table o _ => o

mutual

/-- Tables are merged key by key; anything else in the upper layer replaces what is below. -/
def merge (lower : Value) : Value → Value
  | table o upper =>
    match lower with
    | table _ es => table o (mergeEntries es upper)
    | _ => table o upper
  | scalar o s => scalar o s
  | list o items => list o items

def mergeEntries (lower : Entries) : List (String × Value) → Entries
  | [] => lower
  | (k, v) :: rest =>
    mergeEntries (Entries.put k
      (match Entries.get? lower k with
        | some old => merge old v
        | none => v) lower) rest

end

mutual

/-- The JSON document with the same content. -/
def toJson : Value → Json
  | scalar _ s =>
    match s with
    | .text t => .string t
    | .char c => .string (String.singleton c)
    | .flag b => .bool b
    | .unsigned n | .wide n => .number (toString n).toList
    | .signed n | .wideSigned n => .number (toString n).toList
    | .real d => .number (scientificText d)
    | .unit => .null
  | list _ items => .array (itemsToJson items)
  | table _ es => .object (entriesToJson es)

def itemsToJson : List Value → List Json
  | [] => []
  | v :: rest => toJson v :: itemsToJson rest

def entriesToJson : List (String × Value) → List (String × Json)
  | [] => []
  | (k, v) :: rest => (k, toJson v) :: entriesToJson rest

end

end Value

end BrokerGate.Config
