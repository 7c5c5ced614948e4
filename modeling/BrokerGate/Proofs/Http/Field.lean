import BrokerGate.Http.Field
import BrokerGate.Proofs.Text.Ascii

/-! What a field list has under a name, and the bytes that names and readable values consist of. -/
namespace BrokerGate.Http
open Text Utf8

namespace Fields
variable {fs : Fields} {n : FieldName}

/-- Filtering by name keeps all values of a name, in their order, or none. -/
theorem values_filter (fs : Fields) (keep : FieldName → Bool) (n : FieldName) :
    values (fs.filter fun f => keep f.1) n = if keep n then values fs n else [] := by
  simp only [values, List.filter_filter]
  split
  · rename_i hn
    congr 1
    refine List.filter_congr fun f _ => ?_
    by_cases hf : f.1 = n
    · simp [hf, hn]
    · simp [hf]
  · rename_i hn
    rw [List.map_eq_nil_iff, List.filter_eq_nil_iff]
    rintro f - hf
    rw [Bool.and_eq_true, decide_eq_true_eq] at hf
    exact hn (hf.1 ▸ hf.2)

theorem values_append (fs gs : Fields) (n : FieldName) :
    values (fs ++ gs) n = values fs n ++ values gs n := by
  simp [values]

theorem values_of_notMem (h : n ∉ fs.map Prod.fst) : values fs n = [] := by
  rw [values, List.map_eq_nil_iff, List.filter_eq_nil_iff]
  rintro f hf hn
  exact h (of_decide_eq_true hn ▸ List.mem_map_of_mem hf)

/-- A name that is new behind the fields so far takes its place at the end. -/
theorem set_append (fs : Fields) {gs : Fields} (v : FieldValue) (h : n ∉ gs.map Prod.fst) :
    (fs ++ gs).set n v = fs.erase n ++ (gs ++ [(n, v)]) := by
  have hkeep : gs.filter (·.1 ≠ n) = gs := List.filter_eq_self.mpr fun f hf => by
    have hne : f.1 ≠ n := fun he => h (he ▸ List.mem_map_of_mem hf)
    simpa using hne
  rw [set, erase, List.filter_append, hkeep, List.append_assoc]
  rfl

theorem has_iff : has fs n = true ↔ values fs n ≠ [] := by
  simp [has, values, List.filter_eq_nil_iff]

theorem has_erase_iff {m : FieldName} :
    has (erase fs m) n = true ↔ n ≠ m ∧ has fs n = true := by
  rw [has_iff, has_iff]
  by_cases h : n = m
  · simp [h]
  · simp [h]

/-- The fields under none of the names. -/
def eraseAll (fs : Fields) (ns : List FieldName) : Fields := ns.foldl erase fs

theorem values_eraseAll {ns : List FieldName} (h : n ∉ ns) :
    values (eraseAll fs ns) n = values fs n := by
  induction ns generalizing fs with
  | nil => rfl
  | cons m ns ih =>
    rw [List.mem_cons, not_or] at h
    exact (ih h.2).trans (values_erase_other fs h.1)

theorem has_eraseAll_iff {ns : List FieldName} :
    has (eraseAll fs ns) n = true ↔ n ∉ ns ∧ has fs n = true := by
  induction ns generalizing fs with
  | nil => simp [eraseAll]
  | cons m ns ih =>
    rw [List.mem_cons, not_or, and_comm (a := n ≠ m), and_assoc, ← has_erase_iff]
    exact ih

theorem eraseAll_sublist (fs : Fields) (ns : List FieldName) : (eraseAll fs ns).Sublist fs := by
  induction ns generalizing fs with
  | nil => exact List.Sublist.refl fs
  | cons m ns ih => exact (ih (erase fs m)).trans List.filter_sublist

theorem mem_values {v : FieldValue} : v ∈ values fs n ↔ (n, v) ∈ fs := by
  simp [values]

end Fields

namespace FieldName

/-- A name is read from bytes of the token alphabet, of which there is at least one. -/
theorem ofBytes?_eq_some {bs : Bytes} {n : FieldName} (h : ofBytes? bs = some n) :
    bs ≠ [] ∧ ∀ b ∈ bs, isTokenByte b = true := by
  rw [ofBytes?] at h
  split at h
  · simp_all
  · cases h

end FieldName

namespace FieldValue
variable {v : FieldValue} {b : UInt8}

theorem isReadable_iff : v.isReadable = true ↔ ∀ b ∈ v.bytes, isReadableByte b = true := by
  simp [isReadable]

theorem toNat_lt_of_isReadableByte : isReadableByte b = true → b.toNat < 128 :=
  forall_byte (p := fun b => isReadableByte b = true → b.toNat < 128) (by decide +kernel) b

theorem isAllowedByte_of_isReadableByte : isReadableByte b = true → isAllowedByte b = true :=
  forall_byte (p := fun b => isReadableByte b = true → isAllowedByte b = true) (by decide +kernel) b

theorem text?_eq_some_iff {cs : List Char} : v.text? = some cs ↔
    v.isReadable = true ∧ cs = v.bytes.map fun b => Char.ofNat b.toNat := by
  constructor
  · intro h
    rw [text?] at h
    split at h
    · rename_i hr
      exact ⟨hr, (Option.some.inj h).symm⟩
    · cases h
  · rintro ⟨hr, rfl⟩
    rw [text?, if_pos hr]

end FieldValue

end BrokerGate.Http
