import BrokerGate.Config.Extract
import BrokerGate.Proofs.Config.Variable

/-! Values without numbers that are too wide for any setting. Those of variables are of this kind,
and so is one such value over another. -/
namespace BrokerGate.Config
open Entries Value

section Narrow
variable {v lower upper : Value} {o : Source}

theorem narrowItems_eq_ok_iff {i : Nat} {items : List Value} :
    narrowItems i items = .ok () ↔ ∀ v ∈ items, narrow v = .ok () := by
  induction items generalizing i with
  | nil => exact ⟨fun _ v hv => (nomatch hv), fun _ => rfl⟩
  | cons v items ih =>
    rw [narrowItems, List.forall_mem_cons]
    cases narrow v with
    | error m => simp
    | ok u => simp [ih]

theorem narrowEntries_eq_ok_iff {es : Entries} :
    narrowEntries es = .ok () ↔ ∀ e ∈ es, narrow e.2 = .ok () := by
  induction es with
  | nil => exact ⟨fun _ e he => (nomatch he), fun _ => rfl⟩
  | cons e es ih =>
    obtain ⟨k, v⟩ := e
    rw [narrowEntries, List.forall_mem_cons]
    cases narrow v with
    | error m => simp
    | ok u => simp [ih]

theorem narrow_list_iff {items : List Value} :
    narrow (.list o items) = .ok () ↔ ∀ v ∈ items, narrow v = .ok () := by
  rw [narrow, narrowItems_eq_ok_iff]

theorem narrow_table_iff {es : Entries} :
    narrow (.table o es) = .ok () ↔ ∀ e ∈ es, narrow e.2 = .ok () := by
  rw [narrow, narrowEntries_eq_ok_iff]

theorem narrow_entries (h : narrow v = .ok ()) : ∀ e ∈ v.entries, narrow e.2 = .ok () := by
  cases v with
  | table o es => exact narrow_table_iff.mp h
  | _ => exact fun e he => (nomatch he)

theorem narrow_of_not_wide {s : Scalar} (h : s.isWide = false) (o : Source) :
    narrow (.scalar o s) = .ok () := by
  cases s with
  | wide n => cases h
  | wideSigned n => cases h
  | _ => rfl

theorem narrow_variableValue (text : String) : narrow (variableValue text) = .ok () := by
  have hnarrow : HandedUp fun v => narrow v = .ok () :=
    ⟨fun s hs => narrow_of_not_wide hs _, fun items h => narrow_list_iff.mpr h,
      fun es h => narrow_table_iff.mpr fun e he => h e (mem_ofList he)⟩
  exact hnarrow.variableValue text

theorem narrow_merge (hupper : upper.Sorted) (hl : narrow lower = .ok ())
    (hu : narrow upper = .ok ()) : narrow (lower.merge upper) = .ok () := by
  induction hupper generalizing lower with
  | scalar o s => exact hu
  | list o items => exact hu
  | @table o es hkeys hvalues ih =>
    rw [merge_table lower o hkeys, narrow_table_iff]
    exact forall_mem_mergeEntries (P := fun v => narrow v = .ok ()) (narrow_entries hl)
      (narrow_table_iff.mp hu) fun e he w hw => ih e he hw (narrow_table_iff.mp hu e he)

theorem narrow_nested (p : List String) (h : narrow v = .ok ()) :
    narrow (nested p v) = .ok () := by
  induction p with
  | nil => exact h
  | cons k ks ih => exact narrow_table_iff.mpr (List.forall_mem_singleton.mpr ih)

theorem narrow_environmentLayer (environment : List (String × String)) :
    narrow (environmentLayer environment) = .ok () := by
  rw [environmentLayer_eq]
  refine List.foldlRecOn (motive := fun z => narrow z = .ok ()) environment setVariable rfl ?_
  intro z hz x _
  unfold setVariable
  split
  · exact narrow_merge (sorted_nested _ (sorted_variableValue x.2)) hz
      (narrow_nested _ (narrow_variableValue x.2))
  · exact hz

end Narrow

end BrokerGate.Config
