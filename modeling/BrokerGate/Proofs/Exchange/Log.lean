import BrokerGate.Exchange.Traffic
import Mathlib.Algebra.BigOperators.Group.Finset.Piecewise
import Mathlib.Data.List.NodupEquivFin

/-! Reading a log: what happened to one operation, in which order, and how often. -/
namespace BrokerGate.Traffic
open Exchange

variable {log : List (Nat × Act)} {l : List Act} {i j : Nat}

section Lifeline

theorem lifeline_append (i : Nat) (log more : List (Nat × Act)) :
    lifeline i (log ++ more) = lifeline i log ++ lifeline i more :=
  List.filterMap_append

theorem lifeline_own (i : Nat) (l : List Act) : lifeline i (l.map fun a => (i, a)) = l := by
  simp [lifeline, List.filterMap_map]

theorem lifeline_eq_nil (h : ∀ e ∈ log, e.1 ≠ i) : lifeline i log = [] := by
  rw [lifeline, List.filterMap_eq_nil_iff]
  intro e he
  rw [if_neg (h e he)]

theorem lifeline_other (h : i ≠ j) (l : List Act) : lifeline j (l.map fun a => (i, a)) = [] := by
  apply lifeline_eq_nil
  intro e he
  obtain ⟨a, -, rfl⟩ := List.mem_map.mp he
  exact h

theorem mem_lifeline {a : Act} : a ∈ lifeline i log ↔ (i, a) ∈ log := by
  simp [lifeline, List.mem_filterMap]

theorem lifeline_cons (i : Nat) (e : Nat × Act) (log : List (Nat × Act)) :
    lifeline i (e :: log) = (if e.1 = i then [e.2] else []) ++ lifeline i log := by
  rw [lifeline, List.filterMap_cons]
  split_ifs <;> rfl

/-- A lifeline keeps the order of the log. -/
theorem lifeline_sublist (i : Nat) (log : List (Nat × Act)) :
    ((lifeline i log).map fun a => (i, a)).Sublist log := by
  induction log with
  | nil => exact List.Sublist.refl _
  | cons e log ih =>
    rw [lifeline_cons]
    split_ifs with he
    · subst he
      exact ih.cons_cons e
    · exact ih.cons e

end Lifeline

/-- A lifeline without the events that are only reported. -/
def quiet (l : List Act) : List Act := l.filter fun a => !a.isNote

section Quiet

theorem quiet_append (l more : List Act) : quiet (l ++ more) = quiet l ++ quiet more :=
  List.filter_append ..

theorem quiet_cons {a : Act} (h : a.isNote = false) (l : List Act) :
    quiet (a :: l) = a :: quiet l :=
  List.filter_cons_of_pos (by simp [h])

theorem mem_quiet {a : Act} (h : a.isNote = false) : a ∈ quiet l ↔ a ∈ l := by
  simp [quiet, List.mem_filter, h]

theorem countP_quiet {p : Act → Bool} (hp : ∀ a, a.isNote = true → p a = false) (l : List Act) :
    (quiet l).countP p = l.countP p := by
  rw [quiet, List.countP_filter]
  apply List.countP_congr
  intro a _
  have := hp a
  cases ha : a.isNote <;> simp_all

theorem any_quiet {p : Act → Bool} (hp : ∀ a, a.isNote = true → p a = false) (l : List Act) :
    (quiet l).any p = l.any p := by
  rw [Bool.eq_iff_iff, List.any_eq_true, List.any_eq_true, ← List.countP_pos_iff,
    ← List.countP_pos_iff, countP_quiet hp]

/-- What a lifeline holds stands in the log in the same order. -/
theorem exists_places {a b c : Act} (h : quiet (lifeline i log) = [a, b, c]) :
    ∃ j k m : Nat, j < k ∧ k < m ∧
      log[j]? = some (i, a) ∧ log[k]? = some (i, b) ∧ log[m]? = some (i, c) := by
  have hsub : ((quiet (lifeline i log)).map fun a => (i, a)).Sublist log :=
    (List.filter_sublist.map _).trans (lifeline_sublist i log)
  rw [h, List.sublist_iff_exists_orderEmbedding_getElem?_eq] at hsub
  obtain ⟨place, hplace⟩ := hsub
  refine ⟨place 0, place 1, place 2, ?_, ?_, (hplace 0).symm, (hplace 1).symm, (hplace 2).symm⟩
  · exact place.lt_iff_lt.mpr Nat.zero_lt_one
  · exact place.lt_iff_lt.mpr Nat.one_lt_two

theorem getElem?_of_take {n k : Nat} {e : Nat × Act} (h : (log.take n)[k]? = some e) :
    k < n ∧ log[k]? = some e := by
  rw [List.getElem?_take] at h
  split_ifs at h with hk
  exact ⟨hk, h⟩

end Quiet

section Count

/-- What is counted in the log is counted in the lifelines. -/
theorem countP_log {n : Nat} (h : ∀ e ∈ log, e.1 < n) (p : Act → Bool) :
    log.countP (fun e => p e.2) = ∑ i ∈ Finset.range n, (lifeline i log).countP p := by
  induction log with
  | nil => simp [lifeline]
  | cons e log ih =>
    have he : e.1 ∈ Finset.range n := Finset.mem_range.mpr (h e (List.mem_cons_self ..))
    have hone (i : Nat) : (lifeline i (e :: log)).countP p =
        (if e.1 = i then (if p e.2 then 1 else 0) else 0) + (lifeline i log).countP p := by
      rw [lifeline_cons, List.countP_append]
      split_ifs <;> simp_all
    rw [List.countP_cons, ih fun e he => h e (List.mem_cons_of_mem _ he)]
    simp only [hone]
    rw [Finset.sum_add_distrib, Finset.sum_ite_eq, if_pos he, Nat.add_comm]

/-- In a list the members that satisfy a condition are counted place by place. -/
theorem countP_eq_sum {β : Type} (p : β → Bool) (l : List β) :
    l.countP p = ∑ i ∈ Finset.range l.length, if (l[i]?).any p then 1 else 0 := by
  induction l with
  | nil => rfl
  | cons x xs ih =>
    rw [List.length_cons, Finset.sum_range_succ', List.countP_cons, ih]
    simp only [List.getElem?_cons_succ, List.getElem?_cons_zero, Option.any_some]

theorem countP_or {β : Type} (p q : β → Bool) (l : List β)
    (h : ∀ x ∈ l, ¬ (p x = true ∧ q x = true)) :
    l.countP (fun x => p x || q x) = l.countP p + l.countP q := by
  induction l with
  | nil => rfl
  | cons x xs ih =>
    have hx := h x (List.mem_cons_self ..)
    rw [List.countP_cons, List.countP_cons, List.countP_cons,
      ih fun y hy => h y (List.mem_cons_of_mem _ hy)]
    by_cases hp : p x = true <;> by_cases hq : q x = true <;> simp_all <;> omega

end Count

end BrokerGate.Traffic
