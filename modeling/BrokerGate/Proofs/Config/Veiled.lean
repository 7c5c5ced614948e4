/-! Two computations that are to show the same, though what they work on differs. They may differ in
what is taken away from their results before it is shown, and in failures that are named. -/
namespace BrokerGate.Config

/-- Two readings that may differ in what `f` takes away. Otherwise one of them has failed, and its
failure is one of those that may differ. -/
def Veiled {ε α β : Type} (B B' : ε → Prop) (f : α → β) (r r' : Except ε α) : Prop :=
  (∃ e, r = .error e ∧ B e) ∨ (∃ e, r' = .error e ∧ B' e) ∨ r.map f = r'.map f

namespace Veiled
section
variable {ε δ α β γ : Type} {B B' : ε → Prop} {f : α → β} {r r' : Except ε α}

theorem of_map (h : r.map f = r'.map f) : Veiled B B' f r r' := .inr (.inr h)

theorem refl (r : Except ε α) : Veiled B B' id r r := .of_map rfl

theorem of_ok {a a' : α} (h : f a = f a') : Veiled B B' f (.ok a) (.ok a') :=
  .of_map (congrArg Except.ok h)

theorem of_map_eq_map (h : r.map f = r'.map f) : (∃ e, r = .error e ∧ r' = .error e) ∨
    ∃ a a', r = .ok a ∧ r' = .ok a' ∧ f a = f a' := by
  cases r with
  | error e =>
    cases r' with
    | error e' =>
      cases h
      exact .inl ⟨e, rfl, rfl⟩
    | ok a' => cases h
  | ok a =>
    cases r' with
    | error e' => cases h
    | ok a' => exact .inr ⟨a, a', rfl, rfl, Except.ok.inj h⟩

/-- Each of the two comes, but for its own failures, to the same. -/
theorem of_sides {b : β} (h : (∃ e, r = .error e ∧ B e) ∨ r.map f = .ok b)
    (h' : (∃ e, r' = .error e ∧ B' e) ∨ r'.map f = .ok b) : Veiled B B' f r r' := by
  rcases h with h | h
  · exact .inl h
  · rcases h' with h' | h'
    · exact .inr (.inl h')
    · exact .of_map (h.trans h'.symm)

theorem mono {C C' : ε → Prop} (h : Veiled B B' f r r') (hB : ∀ e, B e → C e)
    (hB' : ∀ e, B' e → C' e) : Veiled C C' f r r' := by
  rcases h with ⟨e, he, hb⟩ | ⟨e, he, hb⟩ | h
  · exact .inl ⟨e, he, hB e hb⟩
  · exact .inr (.inl ⟨e, he, hB' e hb⟩)
  · exact .of_map h

theorem bind {g : γ → δ} {k k' : α → Except ε γ} (h : Veiled B B' f r r')
    (hk : ∀ a a', f a = f a' → Veiled B B' g (k a) (k' a')) :
    Veiled B B' g (r >>= k) (r' >>= k') := by
  rcases h with ⟨e, rfl, hb⟩ | ⟨e, rfl, hb⟩ | h
  · exact .inl ⟨e, rfl, hb⟩
  · exact .inr (.inl ⟨e, rfl, hb⟩)
  · rcases of_map_eq_map h with ⟨e, rfl, rfl⟩ | ⟨a, a', rfl, rfl, ha⟩
    · exact .of_map rfl
    · exact hk a a' ha

theorem map {g : γ → δ} {k k' : α → γ} (h : Veiled B B' f r r')
    (hk : ∀ a a', f a = f a' → g (k a) = g (k' a')) : Veiled B B' g (r.map k) (r'.map k') :=
  h.bind fun a a' ha => .of_ok (hk a a' ha)

theorem mapError {ε' : Type} {C C' : ε' → Prop} (g : ε → ε') (h : Veiled B B' f r r')
    (hB : ∀ e, B e → C (g e)) (hB' : ∀ e, B' e → C' (g e)) :
    Veiled C C' f (r.mapError g) (r'.mapError g) := by
  rcases h with ⟨e, rfl, hb⟩ | ⟨e, rfl, hb⟩ | h
  · exact .inl ⟨g e, rfl, hB e hb⟩
  · exact .inr (.inl ⟨g e, rfl, hB' e hb⟩)
  · rcases of_map_eq_map h with ⟨e, rfl, rfl⟩ | ⟨a, a', rfl, rfl, ha⟩
    · exact .of_map rfl
    · exact .of_ok ha

/-- What can be told from results that are both there, or both missing. -/
theorem of_oks {a a' : α} (h : Veiled B B' f (.ok a) (.ok a')) : f a = f a' := by
  rcases h with ⟨e, he, -⟩ | ⟨e, he, -⟩ | h
  · cases he
  · cases he
  · exact Except.ok.inj h

theorem of_errors {e e' : ε} (h : Veiled B B' f (.error e : Except ε α) (.error e')) :
    e = e' ∨ B e ∨ B' e' := by
  rcases h with ⟨e, he, hb⟩ | ⟨e, he, hb⟩ | h
  · cases he
    exact .inr (.inl hb)
  · cases he
    exact .inr (.inr hb)
  · exact .inl (Except.error.inj h)

theorem of_error_ok {e : ε} {a : α} (h : Veiled B B' f (.error e) (.ok a)) : B e := by
  rcases h with ⟨e, he, hb⟩ | ⟨e, he, -⟩ | h
  · cases he
    exact hb
  · cases he
  · cases h

theorem of_ok_error {e : ε} {a : α} (h : Veiled B B' f (.ok a) (.error e)) : B' e := by
  rcases h with ⟨e, he, -⟩ | ⟨e, he, hb⟩ | h
  · cases he
  · cases he
    exact hb
  · cases h

end

section Fold
variable {ε α β κ : Type} {B B' : ε → Prop} {f : α → β} {step : α → κ → Except ε α}

theorem foldlM (hstep : ∀ a a' x, f a = f a' → Veiled B B' f (step a x) (step a' x))
    (items : List κ) {a a' : α} (h : f a = f a') :
    Veiled B B' f (items.foldlM step a) (items.foldlM step a') := by
  induction items generalizing a a' with
  | nil => exact .of_ok h
  | cons x items ih =>
    rw [List.foldlM_cons, List.foldlM_cons]
    exact (hstep a a' x h).bind fun b b' hb => ih hb

/-- Lists with another item in one place. -/
theorem foldlM_at (hstep : ∀ a a' x, f a = f a' → Veiled B B' f (step a x) (step a' x))
    {x x' : κ} (hat : ∀ a, Veiled B B' f (step a x) (step a x')) (front back : List κ) (a : α) :
    Veiled B B' f ((front ++ x :: back).foldlM step a) ((front ++ x' :: back).foldlM step a) := by
  rw [List.foldlM_append, List.foldlM_append]
  refine (refl (front.foldlM step a)).bind fun b b' hb => ?_
  cases hb
  rw [List.foldlM_cons, List.foldlM_cons]
  exact (hat b).bind fun c c' hc => foldlM hstep back hc

end Fold

end Veiled

end BrokerGate.Config
