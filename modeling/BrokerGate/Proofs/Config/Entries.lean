import BrokerGate.Config.Value
import Mathlib.Data.List.Nodup
import Mathlib.Tactic.SplitIfs

/-! Entries of tables. They are kept sorted by key, so that a table is known by the values of its
keys, and keys can be set in any order. -/
namespace BrokerGate.Config

theorem lt_of_ne_of_not_lt {j k : String} (hne : j ≠ k) (h : ¬ j < k) : k < j := by
  rcases String.le_total j k with hle | hle
  · exact absurd (String.le_antisymm hle (String.not_lt.mp h)) hne
  · exact String.not_le.mp fun hjk => hne (String.le_antisymm hjk hle)

namespace Entries
variable {es fs : Entries} {j k : String} {v w : Value}

theorem get?_cons (e : String × Value) (es : Entries) (k : String) :
    get? (e :: es) k = if e.1 = k then some e.2 else get? es k := by
  by_cases h : e.1 = k
  · simp [get?, h]
  · simp [get?, h]

theorem get?_nil (k : String) : get? [] k = none := rfl

/-- Keys ascend. -/
def Ascending (es : Entries) : Prop := es.Pairwise fun a b => a.1 < b.1

theorem get?_eq_none (h : ∀ e ∈ es, k < e.1) : get? es k = none := by
  induction es with
  | nil => rfl
  | cons e es ih =>
    have hne : e.1 ≠ k := fun heq => String.lt_irrefl k (heq ▸ h e List.mem_cons_self)
    rw [get?_cons, if_neg hne]
    exact ih fun e he => h e (List.mem_cons_of_mem _ he)

theorem get?_eq_none_of_not_mem (h : k ∉ es.map Prod.fst) : get? es k = none := by
  have hfind : es.find? (·.1 = k) = none := by
    rw [List.find?_eq_none]
    intro e he hk
    exact h (List.mem_map.mpr ⟨e, he, by simpa using hk⟩)
  rw [get?, hfind]
  rfl

theorem mem_of_get? (h : get? es k = some v) : (k, v) ∈ es := by
  induction es with
  | nil => cases h
  | cons e es ih =>
    rw [get?_cons] at h
    split_ifs at h with hk
    · cases h
      cases hk
      exact List.mem_cons_self
    · exact List.mem_cons_of_mem _ (ih h)

theorem get?_of_mem (hkeys : Ascending es) {e : String × Value} (he : e ∈ es) :
    get? es e.1 = some e.2 := by
  induction es with
  | nil => cases he
  | cons f es ih =>
    obtain ⟨hhead, htail⟩ := List.pairwise_cons.mp hkeys
    rw [get?_cons]
    rcases List.mem_cons.mp he with rfl | he
    · rw [if_pos rfl]
    · have hne : f.1 ≠ e.1 := fun heq => String.lt_irrefl e.1 (heq ▸ hhead e he)
      rw [if_neg hne, ih htail he]

theorem mem_put {e : String × Value} (h : e ∈ put k v es) : e = (k, v) ∨ e ∈ es := by
  induction es with
  | nil => exact .inl (List.mem_singleton.mp h)
  | cons f es ih =>
    rw [put] at h
    split_ifs at h with heq hlt
    · rcases List.mem_cons.mp h with h | h
      · exact .inl h
      · exact .inr (List.mem_cons_of_mem _ h)
    · exact List.mem_cons.mp h
    · rcases List.mem_cons.mp h with h | h
      · exact .inr (h ▸ List.mem_cons_self)
      · exact (ih h).imp_right (List.mem_cons_of_mem _)

theorem ascending_put (h : Ascending es) : Ascending (put k v es) := by
  induction es with
  | nil => exact List.pairwise_singleton _ _
  | cons e es ih =>
    obtain ⟨hhead, htail⟩ := List.pairwise_cons.mp h
    rw [put]
    split_ifs with heq hlt
    · exact List.pairwise_cons.mpr ⟨fun f hf => heq ▸ hhead f hf, htail⟩
    · refine List.pairwise_cons.mpr ⟨fun f hf => ?_, h⟩
      rcases List.mem_cons.mp hf with rfl | hf
      · exact hlt
      · exact String.lt_trans hlt (hhead f hf)
    · refine List.pairwise_cons.mpr ⟨fun f hf => ?_, ih htail⟩
      rcases mem_put hf with rfl | hf
      · exact lt_of_ne_of_not_lt heq hlt
      · exact hhead f hf

theorem put_put_self (k : String) (v w : Value) (es : Entries) :
    put k v (put k w es) = put k v es := by
  induction es with
  | nil => simp [put]
  | cons e es ih =>
    obtain ⟨i, u⟩ := e
    by_cases heq : k = i
    · simp [put, heq]
    · by_cases hlt : k < i
      · simp [put, heq, hlt]
      · simp [put, heq, hlt, ih]

/-- A key has its place among the others, whatever its value. -/
theorem exists_put_eq (k : String) (es : Entries) :
    ∃ front back, ∀ v, put k v es = front ++ (k, v) :: back := by
  induction es with
  | nil => exact ⟨[], [], fun _ => rfl⟩
  | cons e rest ih =>
    obtain ⟨j, w⟩ := e
    by_cases heq : k = j
    · exact ⟨[], rest, fun v => by simp [put, heq]⟩
    · by_cases hlt : k < j
      · exact ⟨[], (j, w) :: rest, fun v => by simp [put, heq, hlt]⟩
      · obtain ⟨front, back, hput⟩ := ih
        exact ⟨(j, w) :: front, back, fun v => by simp [put, heq, hlt, hput v]⟩

theorem put_comm_of_lt (h : k < j) (v w : Value) (es : Entries) :
    put k v (put j w es) = put j w (put k v es) := by
  have hne : k ≠ j := fun heq => String.lt_irrefl k (heq ▸ h)
  have hnot : ¬ j < k := String.lt_asymm h
  induction es with
  | nil => simp [put, hne, hne.symm, h, hnot]
  | cons e es ih =>
    obtain ⟨i, u⟩ := e
    by_cases heq : k = i
    · subst heq
      simp [put, hne.symm, hnot]
    · by_cases hlt : k < i
      · -- the lesser key stands in front of all others
        have hfront : put k v ((i, u) :: es) = (k, v) :: (i, u) :: es := by
          simp [put, heq, hlt]
        have hback : put j w ((k, v) :: (i, u) :: es) = (k, v) :: put j w ((i, u) :: es) := by
          simp [put, hne.symm, hnot]
        rw [hfront, hback]
        by_cases hji : j = i
        · subst hji
          simp [put, hne, h]
        · by_cases hjlt : j < i
          · simp [put, hji, hjlt, hne, h]
          · simp [put, hji, hjlt, heq, hlt]
      · have hik : i < k := lt_of_ne_of_not_lt heq hlt
        have hij : i < j := String.lt_trans hik h
        have hji : j ≠ i := fun heq => String.lt_irrefl j (heq ▸ hij)
        simp [put, heq, hlt, hji, String.lt_asymm hij, ih]

theorem put_comm (h : j ≠ k) (v w : Value) (es : Entries) :
    put k v (put j w es) = put j w (put k v es) := by
  by_cases hlt : j < k
  · exact (put_comm_of_lt hlt w v es).symm
  · exact put_comm_of_lt (lt_of_ne_of_not_lt h hlt) v w es

theorem get?_head_lt (h : Ascending ((j, w) :: es)) (hk : get? ((j, w) :: es) k = some v) :
    k = j ∨ j < k := by
  rcases List.mem_cons.mp (mem_of_get? hk) with heq | hmem
  · cases heq
    exact .inl rfl
  · exact .inr ((List.pairwise_cons.mp h).1 _ hmem)

/-- The first entry can be told from the values of all keys. -/
theorem first_eq {e f : String × Value} (he : Ascending (e :: es)) (hf : Ascending (f :: fs))
    (h : ∀ k, get? (e :: es) k = get? (f :: fs) k) : e = f := by
  obtain ⟨i, u⟩ := e
  obtain ⟨j, w⟩ := f
  have hi := h i
  have hj := h j
  rw [get?_cons, if_pos rfl] at hi
  rw [get?_cons (j, w), if_pos rfl] at hj
  -- neither first key is below the other
  have hij : i = j := by
    rcases get?_head_lt hf hi.symm with heq | hlt
    · exact heq
    · rcases get?_head_lt he hj with heq | hlt'
      · exact heq.symm
      · exact absurd hlt' (String.lt_asymm hlt)
  subst hij
  rw [get?_cons, if_pos rfl] at hi
  cases hi
  rfl

/-- Tables with the same values under the same keys are the same. -/
theorem ext (he : Ascending es) (hf : Ascending fs) (h : ∀ k, get? es k = get? fs k) :
    es = fs := by
  induction es generalizing fs with
  | nil =>
    cases fs with
    | nil => rfl
    | cons f fs =>
      have hfirst := h f.1
      rw [get?_cons f fs, if_pos rfl] at hfirst
      cases hfirst
  | cons e es ih =>
    cases fs with
    | nil =>
      have hfirst := h e.1
      rw [get?_cons e es, if_pos rfl] at hfirst
      cases hfirst
    | cons f fs =>
      have hfirst := first_eq he hf h
      subst hfirst
      obtain ⟨hehead, hetail⟩ := List.pairwise_cons.mp he
      obtain ⟨hfhead, hftail⟩ := List.pairwise_cons.mp hf
      rw [ih hetail hftail]
      intro k
      have hk := h k
      rw [get?_cons, get?_cons] at hk
      split_ifs at hk with heq
      · cases heq
        rw [get?_eq_none hehead, get?_eq_none hfhead]
      · exact hk

theorem mem_ofList {es : List (String × Value)} {e : String × Value} (h : e ∈ ofList es) :
    e ∈ es := by
  have hfold : ∀ acc : Entries, e ∈ es.foldl (fun acc e => put e.1 e.2 acc) acc →
      e ∈ es ∨ e ∈ acc := by
    clear h
    induction es with
    | nil => exact fun acc h => .inr h
    | cons f es ih =>
      intro acc h
      rcases ih _ h with h | h
      · exact .inl (List.mem_cons_of_mem _ h)
      · rcases mem_put h with rfl | h
        · exact .inl List.mem_cons_self
        · exact .inr h
  exact (hfold [] h).resolve_right List.not_mem_nil

theorem ascending_ofList (es : List (String × Value)) : Ascending (ofList es) := by
  have hfold : ∀ acc, Ascending acc →
      Ascending (es.foldl (fun acc e => put e.1 e.2 acc) acc) := by
    induction es with
    | nil => exact fun acc hacc => hacc
    | cons e es ih => exact fun acc hacc => ih _ (ascending_put hacc)
  exact hfold [] List.Pairwise.nil

/-- The order of entries does not matter if their keys differ. -/
theorem ofList_perm (hperm : es.Perm fs) (hkeys : (es.map Prod.fst).Nodup) :
    ofList es = ofList fs := by
  refine hperm.foldl_eq' (fun x hx y hy z => ?_) []
  by_cases hkey : x.1 = y.1
  · rw [List.inj_on_of_nodup_map hkeys hx hy hkey]
  · exact put_comm hkey _ _ _

theorem get?_append (es fs : List (String × Value)) (k : String) :
    get? (es ++ fs) k = (get? es k).or (get? fs k) := by
  induction es with
  | nil => rfl
  | cons e es ih =>
    rw [List.cons_append, get?_cons, get?_cons, ih]
    split_ifs <;> rfl

/-- Of entries with different keys each stands at its own. -/
theorem get?_ofList (hkeys : (es.map Prod.fst).Nodup) (k : String) :
    get? (ofList es) k = get? es k := by
  have hfold : ∀ acc, get? (es.foldl (fun acc e => put e.1 e.2 acc) acc) k =
      (get? es k).or (get? acc k) := by
    induction es with
    | nil => exact fun acc => rfl
    | cons e es ih =>
      intro acc
      rw [List.map_cons, List.nodup_cons] at hkeys
      rw [List.foldl_cons, ih hkeys.2, get?_cons]
      by_cases hk : e.1 = k
      · subst hk
        rw [get?_eq_none_of_not_mem hkeys.1, if_pos rfl, get?_put_self]
        rfl
      · rw [if_neg hk, get?_put_other _ _ (Ne.symm hk)]
  rw [ofList, hfold]
  exact Option.or_none

theorem ascending_of_keys (h : (es.map Prod.fst).Pairwise (· < ·)) : Ascending es :=
  List.pairwise_map.mp h

theorem nodup_of_ascending (h : Ascending es) : (es.map Prod.fst).Nodup := by
  refine List.pairwise_map.mpr (h.imp ?_)
  intro a b hlt heq
  exact String.lt_irrefl b.1 (heq ▸ hlt)

/-- Entries are put in the order of their keys. -/
theorem ofList_eq (hperm : es.Perm fs) (h : Ascending fs) : ofList es = fs := by
  have hkeys := nodup_of_ascending h
  rw [ofList_perm hperm ((hperm.map Prod.fst).nodup_iff.mpr hkeys)]
  exact Entries.ext (ascending_ofList fs) h fun k => get?_ofList hkeys k

end Entries

end BrokerGate.Config
