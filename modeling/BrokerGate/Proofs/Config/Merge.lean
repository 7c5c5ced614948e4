import BrokerGate.Proofs.Config.Entries
import Mathlib.Data.List.Infix

/-! Merging one layer over another. What stands at a path afterwards is settled by what the two
layers have there and by whether the upper one ends above it; where the upper one has something that
is no table, it does not matter what the lower one has. -/
namespace BrokerGate.Config

namespace Value
open Entries

def isTable : Value → Bool
  | table _ _ => true
  | _ => false

/-- The entries of a table; nothing else has any. -/
def entries : Value → Entries
  | table _ es => es
  | _ => []

/-- What stands at a path of keys. -/
def at? (v : Value) : List String → Option Value
  | [] => some v
  | k :: ks => (get? v.entries k).bind fun w => w.at? ks

/-- Something that is no table stands above a path, so that nothing can stand there. -/
def blocks (v : Value) : List String → Bool
  | [] => false
  | k :: ks => !v.isTable || (get? v.entries k).any fun w => w.blocks ks

/-- Nothing stands at a path, but something could. -/
def Leaves (v : Value) (p : List String) : Prop := v.at? p = none ∧ v.blocks p = false

/-- A value over another one that may be there. -/
def overlay (old : Option Value) (v : Value) : Value :=
  match old with
  | some w => w.merge v
  | none => v

/-- What a layer makes of that which a lower one has at a path. -/
def cover (upper : Value) (p : List String) (below : Option Value) : Option Value :=
  match upper.at? p with
  | some v => some (overlay below v)
  | none => if upper.blocks p then none else below

/-- Every table is sorted by key, with no key twice. -/
inductive Sorted : Value → Prop
  | scalar (o : Source) (s : Scalar) : Sorted (.scalar o s)
  | list (o : Source) (items : List Value) : Sorted (.list o items)
  | table (o : Source) {es : Entries} (hkeys : Ascending es) (hvalues : ∀ e ∈ es, Sorted e.2) :
    Sorted (.table o es)

theorem sorted_empty (o : Source) : (table o []).Sorted :=
  .table o List.Pairwise.nil fun _ he => nomatch he

section Merge
variable {lower upper : Value} {o : Source} {es le : Entries} {k : String} {v : Value}

theorem merge_of_not_table (lower : Value) (h : upper.isTable = false) :
    lower.merge upper = upper := by
  cases upper with
  | table o es => cases h
  | _ => rfl

theorem entries_of_not_table (h : v.isTable = false) : v.entries = [] := by
  cases v with
  | table o es => cases h
  | _ => rfl

theorem get?_mergeEntries (h : Ascending es) (le : Entries) (k : String) :
    get? (mergeEntries le es) k = match get? es k with
      | some v => some (overlay (get? le k) v)
      | none => get? le k := by
  induction es generalizing le with
  | nil => rfl
  | cons e es ih =>
    obtain ⟨j, v⟩ := e
    obtain ⟨hhead, htail⟩ := List.pairwise_cons.mp h
    have hput : mergeEntries le ((j, v) :: es) =
        mergeEntries (put j (overlay (get? le j) v) le) es := rfl
    rw [hput, ih htail, get?_cons]
    by_cases hk : j = k
    · subst hk
      rw [get?_eq_none hhead, if_pos rfl, get?_put_self]
    · rw [if_neg hk, get?_put_other _ _ (Ne.symm hk)]

theorem ascending_mergeEntries (h : Ascending le) (es : Entries) :
    Ascending (mergeEntries le es) := by
  induction es generalizing le with
  | nil => exact h
  | cons e es ih => exact ih (ascending_put h)

/-- Over something that is no table a table stays as it is; that is what merging it over no entries
gives. -/
theorem merge_table (lower : Value) (o : Source) (h : Ascending es) :
    lower.merge (.table o es) = .table o (mergeEntries lower.entries es) := by
  have hself : mergeEntries [] es = es := by
    apply Entries.ext (ascending_mergeEntries List.Pairwise.nil es) h
    intro k
    rw [get?_mergeEntries h]
    cases get? es k <;> rfl
  cases lower with
  | table _ le => rfl
  | scalar _ _ => exact congrArg (Value.table o) hself.symm
  | list _ _ => exact congrArg (Value.table o) hself.symm

theorem Sorted.of_get? (h : v.Sorted) {w : Value} (hget : get? v.entries k = some w) :
    w.Sorted := by
  cases h with
  | table o hkeys hvalues => exact hvalues _ (mem_of_get? hget)
  | _ => cases hget

theorem Sorted.ascending (h : v.Sorted) : Ascending v.entries := by
  cases h with
  | table o hkeys hvalues => exact hkeys
  | _ => exact List.Pairwise.nil

theorem sorted_put (h : (table o es).Sorted) (k : String) (hv : v.Sorted) :
    (table o (put k v es)).Sorted := by
  cases h with
  | table _ hkeys hvalues =>
    refine .table o (ascending_put hkeys) fun e he => ?_
    rcases mem_put he with rfl | he
    · exact hv
    · exact hvalues e he

/-- What holds of all values below and above, and of one over another, holds after merging. -/
theorem forall_mem_mergeEntries {P : Value → Prop} (hl : ∀ e ∈ le, P e.2) (hes : ∀ e ∈ es, P e.2)
    (hmerge : ∀ e ∈ es, ∀ w, P w → P (w.merge e.2)) : ∀ e ∈ mergeEntries le es, P e.2 := by
  induction es generalizing le with
  | nil => exact hl
  | cons f es ih =>
    obtain ⟨j, v⟩ := f
    have hput : P (overlay (get? le j) v) := by
      cases hold : get? le j with
      | none => exact hes _ List.mem_cons_self
      | some w => exact hmerge _ List.mem_cons_self w (hl _ (mem_of_get? hold))
    apply ih
    · intro e he
      rcases mem_put he with rfl | he
      · exact hput
      · exact hl e he
    · exact fun e he => hes e (List.mem_cons_of_mem _ he)
    · exact fun e he => hmerge e (List.mem_cons_of_mem _ he)

theorem Sorted.merge (hl : lower.Sorted) (hu : upper.Sorted) : (lower.merge upper).Sorted := by
  induction hu generalizing lower with
  | scalar o s => exact .scalar o s
  | list o items => exact .list o items
  | @table o es hkeys hvalues ih =>
    rw [merge_table lower o hkeys]
    refine .table o (ascending_mergeEntries hl.ascending es) ?_
    refine forall_mem_mergeEntries ?_ hvalues fun e he w hw => ih e he hw
    cases hl with
    | table o hkeys hvalues => exact hvalues
    | _ => exact fun e he => nomatch he

@[simp] theorem entries_table (o : Source) (es : Entries) : (table o es).entries = es := rfl

theorem at?_table_cons (o : Source) (es : Entries) (k : String) (ks : List String) :
    (table o es).at? (k :: ks) = (get? es k).bind fun w => w.at? ks := rfl

theorem blocks_table_cons (o : Source) (es : Entries) (k : String) (ks : List String) :
    (table o es).blocks (k :: ks) = (get? es k).any fun w => w.blocks ks := rfl

/-- What stands at a path after merging. -/
theorem at?_merge (lower : Value) (hu : upper.Sorted) (p : List String) :
    (lower.merge upper).at? p = upper.cover p (lower.at? p) := by
  induction p generalizing lower upper with
  | nil => rfl
  | cons k ks ih =>
    cases hu with
    | scalar o s => rfl
    | list o items => rfl
    | @table o es hkeys hvalues =>
      have hlower : lower.at? (k :: ks) = (get? lower.entries k).bind fun w => w.at? ks := rfl
      rw [merge_table lower o hkeys, cover, hlower, at?_table_cons, at?_table_cons,
        blocks_table_cons, get?_mergeEntries hkeys]
      cases hes : get? es k with
      | none => rfl
      | some v =>
        cases get? lower.entries k with
        | none =>
          simp only [overlay, Option.bind_some, Option.any_some, Option.bind_none]
          cases v.at? ks <;> simp
        | some old => exact ih old (hvalues _ (mem_of_get? hes))

end Merge

/-- What stands at a path, unless that is a table. -/
def leaf? (v : Value) (p : List String) : Option Value := (v.at? p).filter fun w => !w.isTable

/-- One layer over another. -/
structure Layered (lower upper merged : Value) : Prop where
  /-- Anything but a table replaces what is below. -/
  set : ∀ p v, upper.leaf? p = some v → merged.at? p = some v
  /-- A table replaces anything but a table. -/
  replaced : ∀ p v, upper.at? p = some v →
    (∀ w, lower.at? p = some w → w.isTable = false) → merged.at? p = some v
  /-- A table over a table goes key by key. -/
  joined : ∀ p o es o' les, upper.at? p = some (.table o es) →
    lower.at? p = some (.table o' les) → ∃ ms, merged.at? p = some (.table o ms) ∧
      ∀ k, get? ms k = match get? es k with
        | some v => some (overlay (get? les k) v)
        | none => get? les k
  /-- Where the upper layer sets nothing the lower one is untouched. -/
  kept : ∀ p, upper.Leaves p → merged.at? p = lower.at? p
  /-- Nothing stands below anything but a table. -/
  shadowed : ∀ p, upper.blocks p = true → merged.at? p = none

section Layered
variable {upper v : Value} {p : List String}

theorem at?_eq_none_of_blocks (h : v.blocks p = true) : v.at? p = none := by
  induction p generalizing v with
  | nil => cases h
  | cons k ks ih =>
    rw [at?]
    rcases Bool.or_eq_true_iff.mp h with htable | hbelow
    · rw [entries_of_not_table (by simpa using htable)]
      rfl
    · obtain ⟨w, hw, hblocks⟩ := (Option.any_eq_true ..).mp hbelow
      rw [hw]
      exact ih hblocks

theorem Sorted.of_at? (h : v.Sorted) {w : Value} (hat : v.at? p = some w) : w.Sorted := by
  induction p generalizing v with
  | nil =>
    cases hat
    exact h
  | cons k ks ih =>
    obtain ⟨u, hu, hat⟩ := Option.bind_eq_some_iff.mp hat
    exact ih (h.of_get? hu) hat

/-- Over anything but a table a value stays as it is. -/
theorem overlay_of_not_table {old : Option Value} (h : ∀ w, old = some w → w.isTable = false)
    (v : Value) : overlay old v = v := by
  cases old with
  | none => rfl
  | some w =>
    have hw := h w rfl
    cases w with
    | table o es => cases hw
    | _ => cases v <;> rfl

theorem layered_merge (lower : Value) (hu : upper.Sorted) :
    Layered lower upper (lower.merge upper) where
  set := by
    intro p v h
    obtain ⟨hat, htable⟩ := Option.filter_eq_some_iff.mp h
    rw [at?_merge lower hu, cover, hat]
    have hv : v.isTable = false := by simpa using htable
    cases lower.at? p with
    | none => rfl
    | some w => exact congrArg some (merge_of_not_table w hv)
  replaced := by
    intro p v hat hlower
    rw [at?_merge lower hu, cover, hat]
    exact congrArg some (overlay_of_not_table hlower v)
  joined := by
    intro p o es o' les hat hlower
    refine ⟨mergeEntries les es, ?_, get?_mergeEntries (hu.of_at? hat).ascending les⟩
    rw [at?_merge lower hu, cover, hat, hlower]
    rfl
  kept := by
    rintro p ⟨hat, hblocks⟩
    rw [at?_merge lower hu, cover, hat, hblocks]
    rfl
  shadowed := by
    intro p hblocks
    rw [at?_merge lower hu, cover, at?_eq_none_of_blocks hblocks, hblocks]
    rfl

end Layered

/-- Neither path leads through the other. -/
def Apart (p q : List String) : Prop := ¬ p <+: q ∧ ¬ q <+: p

theorem Apart.symm {p q : List String} (h : Apart p q) : Apart q p := ⟨h.2, h.1⟩

theorem apart_cons {k : String} {p q : List String} : Apart (k :: p) (k :: q) ↔ Apart p q := by
  simp [Apart, List.cons_prefix_cons]

theorem apart_of_ne {j k : String} (h : j ≠ k) (p q : List String) : Apart (j :: p) (k :: q) := by
  simp [Apart, List.cons_prefix_cons, h, h.symm]

/-- Two layers that have the same beside a path. -/
def AgreeBeside (p : List String) (u v : Value) : Prop := ∀ r, Apart p r → u.at? r = v.at? r

/-- Two layers that differ at a path only: beside it they have the same, and above it the same that
is no table. -/
structure AgreeOff (p : List String) (u v : Value) : Prop where
  beside : AgreeBeside p u v
  above : ∀ r, r <+: p → r ≠ p → u.leaf? r = v.leaf? r

section Hidden
variable {lower lower' upper u v : Value} {p : List String}

theorem agreeOff_of_get? {k : String} (hu : u.isTable = true) (hv : v.isTable = true)
    (h : ∀ j, j ≠ k → get? u.entries j = get? v.entries j) : AgreeOff [k] u v where
  beside := by
    intro r hr
    cases r with
    | nil => exact absurd List.nil_prefix hr.2
    | cons j js =>
      have hj : j ≠ k := by
        rintro rfl
        exact hr.1 (List.cons_prefix_cons.mpr ⟨rfl, List.nil_prefix⟩)
      rw [at?, at?, h j hj]
  above := by
    intro r hr hne
    cases r with
    | nil => simp [leaf?, at?, Option.filter_some, hu, hv]
    | cons j js =>
      obtain ⟨rfl, hjs⟩ := List.cons_prefix_cons.mp hr
      rw [List.prefix_nil.mp hjs] at hne
      exact absurd rfl hne

theorem leaf?_nil_isSome (v : Value) : (v.leaf? []).isSome = !v.isTable := by
  simp [leaf?, at?, Option.filter_some, apply_ite Option.isSome]

theorem leaf?_cons (v : Value) (k : String) (ks : List String) :
    v.leaf? (k :: ks) = (get? v.entries k).bind fun w => w.leaf? ks := by
  unfold leaf?
  rw [at?]
  cases get? v.entries k <;> rfl

/-- A layer ends above a path if one of the values on the way is no table. -/
theorem blocks_iff (v : Value) (p : List String) :
    v.blocks p = true ↔ ∃ r, r <+: p ∧ r ≠ p ∧ (v.leaf? r).isSome := by
  induction p generalizing v with
  | nil =>
    constructor
    · intro h
      cases h
    · rintro ⟨r, hr, hne, -⟩
      exact absurd (List.prefix_nil.mp hr) hne
  | cons k ks ih =>
    rw [blocks, Bool.or_eq_true, Option.any_eq_true]
    constructor
    · rintro (hleaf | ⟨w, hw, hblocks⟩)
      · exact ⟨[], List.nil_prefix, by simp, (leaf?_nil_isSome v).trans hleaf⟩
      · obtain ⟨r, hr, hne, hleaf⟩ := (ih w).mp hblocks
        refine ⟨k :: r, List.cons_prefix_cons.mpr ⟨rfl, hr⟩, by simpa using hne, ?_⟩
        rw [leaf?_cons, hw]
        exact hleaf
    · rintro ⟨r, hr, hne, hleaf⟩
      cases r with
      | nil => exact .inl ((leaf?_nil_isSome v).symm.trans hleaf)
      | cons j r =>
        obtain ⟨rfl, hrest⟩ := List.cons_prefix_cons.mp hr
        rw [leaf?_cons] at hleaf
        cases hw : get? v.entries j with
        | none =>
          rw [hw] at hleaf
          cases hleaf
        | some w =>
          rw [hw] at hleaf
          exact .inr ⟨w, rfl, (ih w).mpr ⟨r, hrest, by simpa using hne, hleaf⟩⟩

/-- An absent value below is as good as an empty table. -/
theorem overlay_eq (old : Option Value) (h : v.Sorted) :
    overlay old v = (old.getD (.table .defaults [])).merge v := by
  cases old with
  | some w => rfl
  | none =>
    cases h with
    | @table o es hkeys hvalues =>
      have hself := merge_table (.scalar .defaults .unit) o hkeys
      exact hself.trans (merge_table (.table .defaults []) o hkeys).symm
    | _ => rfl

theorem at?_getD_cons (old : Option Value) (k : String) (ks : List String) :
    (old.getD (.table .defaults [])).at? (k :: ks) = old.bind fun w => w.at? (k :: ks) := by
  cases old <;> rfl

theorem sorted_getD (h : v.Sorted) (k : String) :
    ((get? v.entries k).getD (.table .defaults [])).Sorted := by
  cases hk : get? v.entries k with
  | none => exact sorted_empty _
  | some w => exact h.of_get? hk

theorem at?_singleton (v : Value) (k : String) : v.at? [k] = get? v.entries k := by
  cases hk : get? v.entries k <;> simp [at?, hk]

theorem AgreeBeside.get?_eq {j k : String} {ks : List String} (h : AgreeBeside (k :: ks) u v)
    (hj : k ≠ j) : get? u.entries j = get? v.entries j := by
  have hbeside := h [j] (apart_of_ne hj ks [])
  rwa [at?_singleton, at?_singleton] at hbeside

theorem AgreeBeside.below {k : String} {ks : List String} (h : AgreeBeside (k :: ks) u v) :
    AgreeBeside ks ((get? u.entries k).getD (.table .defaults []))
      ((get? v.entries k).getD (.table .defaults [])) := by
  intro r hr
  cases r with
  | nil => exact absurd List.nil_prefix hr.2
  | cons i r =>
    rw [at?_getD_cons, at?_getD_cons]
    exact h (k :: i :: r) (apart_cons.mpr hr)

/-- Where the upper layer has something that is no table, it does not matter what the lower one
has. -/
theorem merge_eq_of_hidden (hl : lower.Sorted) (hl' : lower'.Sorted) (hu : upper.Sorted)
    (h : AgreeBeside p lower lower') (hleaf : (upper.leaf? p).isSome) :
    lower.merge upper = lower'.merge upper := by
  induction p generalizing lower lower' upper with
  | nil =>
    have htable : upper.isTable = false := by
      rw [leaf?_nil_isSome] at hleaf
      simpa using hleaf
    rw [merge_of_not_table _ htable, merge_of_not_table _ htable]
  | cons k ks ih =>
    cases hu with
    | scalar o s => cases hleaf
    | list o items => cases hleaf
    | @table o es hkeys hvalues =>
      rw [merge_table lower o hkeys, merge_table lower' o hkeys]
      congr 1
      apply Entries.ext (ascending_mergeEntries hl.ascending es)
        (ascending_mergeEntries hl'.ascending es)
      intro j
      rw [get?_mergeEntries hkeys, get?_mergeEntries hkeys]
      by_cases hj : k = j
      · subst hj
        rw [leaf?_cons, entries_table] at hleaf
        cases hes : get? es k with
        | none =>
          rw [hes] at hleaf
          cases hleaf
        | some w =>
          rw [hes] at hleaf
          have hw := hvalues _ (mem_of_get? hes)
          have hbelow := ih (sorted_getD hl k) (sorted_getD hl' k) hw h.below hleaf
          rw [← overlay_eq _ hw, ← overlay_eq _ hw] at hbelow
          exact congrArg some hbelow
      · rw [h.get?_eq hj]

/-- Layers that agree beside a path still do so when the same layer is put over both. -/
theorem AgreeBeside.merge (h : AgreeBeside p lower lower') (hu : upper.Sorted) :
    AgreeBeside p (lower.merge upper) (lower'.merge upper) := by
  intro r hr
  rw [at?_merge lower hu, at?_merge lower' hu, h r hr]

theorem AgreeOff.blocks_eq (h : AgreeOff p u v) {r : List String} (hr : Apart p r) :
    u.blocks r = v.blocks r := by
  have hleaf : ∀ q, q <+: r → q ≠ r → u.leaf? q = v.leaf? q := by
    intro q hq _
    have hnot : ¬ p <+: q := fun hpq => hr.1 (hpq.trans hq)
    by_cases hqp : q <+: p
    · exact h.above q hqp fun heq => hnot (heq ▸ List.prefix_refl q)
    · rw [leaf?, leaf?, h.beside q ⟨hnot, hqp⟩]
  rw [Bool.eq_iff_iff, blocks_iff, blocks_iff]
  constructor
  · rintro ⟨q, hq, hne, hsome⟩
    exact ⟨q, hq, hne, hleaf q hq hne ▸ hsome⟩
  · rintro ⟨q, hq, hne, hsome⟩
    exact ⟨q, hq, hne, (hleaf q hq hne).symm ▸ hsome⟩

theorem AgreeOff.merge (h : AgreeOff p u v) (hu : u.Sorted) (hv : v.Sorted) (lower : Value) :
    AgreeBeside p (lower.merge u) (lower.merge v) := by
  intro r hr
  rw [at?_merge lower hu, at?_merge lower hv, cover, cover, h.beside r hr, h.blocks_eq hr]

end Hidden

end Value

end BrokerGate.Config
