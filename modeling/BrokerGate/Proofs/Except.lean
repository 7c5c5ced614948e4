/-! Results that are values or errors: what is known of the parts of a step that gave a value, and
of a run of steps over a list. -/
namespace BrokerGate

section Step
variable {ε ε' α β γ : Type} {x : Except ε α}

theorem bind_eq_ok {f : α → Except ε β} {b : β} :
    x >>= f = .ok b ↔ ∃ a, x = .ok a ∧ f a = .ok b := by
  cases x <;> simp [bind, Except.bind]

theorem map_eq_ok {f : α → β} {b : β} (h : x.map f = .ok b) : ∃ a, x = .ok a ∧ f a = b := by
  cases x with
  | error e => cases h
  | ok a => exact ⟨a, rfl, Except.ok.inj h⟩

theorem map_eq_ok_iff {f : α → β} {b : β} :
    x.map f = .ok b ↔ ∃ a, x = .ok a ∧ b = f a := by
  refine ⟨fun h => ?_, ?_⟩
  · obtain ⟨a, ha, rfl⟩ := map_eq_ok h
    exact ⟨a, ha, rfl⟩
  · rintro ⟨a, rfl, rfl⟩
    rfl

theorem map_eq_map_map {f : α → β} {g : β → γ} {f' : α → γ} (h : ∀ a, f' a = g (f a)) :
    x.map f' = (x.map f).map g := by
  cases x with
  | error e => rfl
  | ok a => exact congrArg Except.ok (h a)

theorem eq_ok_of_toOption {a : α} (h : x.toOption = some a) : x = .ok a := by
  cases x with
  | error e => cases h
  | ok b =>
    cases h
    rfl

theorem eq_error_of_mapError {g : ε → ε'} {e' : ε'} (h : x.mapError g = .error e') :
    ∃ e, x = .error e ∧ g e = e' := by
  cases x with
  | error e => exact ⟨e, rfl, Except.error.inj h⟩
  | ok a => cases h

theorem eq_ok_of_mapError {g : ε → ε'} {a : α} (h : x.mapError g = .ok a) : x = .ok a := by
  cases x with
  | error e => cases h
  | ok b => exact congrArg Except.ok (Except.ok.inj h)

theorem mapError_bind (x : Except ε α) (next : α → Except ε β) (g : ε → ε') :
    (x.bind next).mapError g = (x.mapError g).bind fun a => (next a).mapError g := by
  cases x <;> rfl

theorem mapError_map (x : Except ε α) (f : α → β) (g : ε → ε') :
    (x.map f).mapError g = (x.mapError g).map f := by
  cases x <;> rfl

end Step

section Fold
variable {ε α β κ : Type} {step : α → κ → Except ε α} {front back : List κ} {x x' : κ} {a b : α}

theorem foldlM_append_cons (h : (front ++ x :: back).foldlM step a = .ok b) :
    ∃ c d, front.foldlM step a = .ok c ∧ step c x = .ok d ∧ back.foldlM step d = .ok b := by
  rw [List.foldlM_append] at h
  obtain ⟨c, hfront, h⟩ := bind_eq_ok.mp h
  rw [List.foldlM_cons] at h
  obtain ⟨d, hx, h⟩ := bind_eq_ok.mp h
  exact ⟨c, d, hfront, hx, h⟩

/-- What one item has set stays if the items behind it leave it. -/
theorem foldlM_kept {f : α → β} (hback : ∀ y ∈ back, ∀ c d, step c y = .ok d → f d = f c)
    (h : back.foldlM step a = .ok b) : f b = f a := by
  induction back generalizing a with
  | nil =>
    cases h
    rfl
  | cons y back ih =>
    rw [List.foldlM_cons] at h
    obtain ⟨c, hy, h⟩ := bind_eq_ok.mp h
    rw [ih (fun z hz => hback z (List.mem_cons_of_mem _ hz)) h, hback y List.mem_cons_self a c hy]

theorem foldlM_map {g : α → α}
    (hback : ∀ y ∈ back, ∀ c, step (g c) y = (step c y).map g) (a : α) :
    back.foldlM step (g a) = (back.foldlM step a).map g := by
  induction back generalizing a with
  | nil => rfl
  | cons y back ih =>
    rw [List.foldlM_cons, List.foldlM_cons, hback y List.mem_cons_self]
    cases step a y with
    | error e => rfl
    | ok c => exact ih (fun z hz => hback z (List.mem_cons_of_mem _ hz)) c

/-- Another item in one place changes what that item does and nothing else. -/
theorem foldlM_replace {g : α → α}
    (hback : ∀ y ∈ back, ∀ c, step (g c) y = (step c y).map g)
    (hat : ∀ c d, step c x = .ok d → back.foldlM step d = .ok b → step c x' = .ok (g d))
    (h : (front ++ x :: back).foldlM step a = .ok b) :
    (front ++ x' :: back).foldlM step a = .ok (g b) := by
  obtain ⟨c, d, hfront, hx, hrest⟩ := foldlM_append_cons h
  rw [List.foldlM_append, hfront]
  change (x' :: back).foldlM step c = .ok (g b)
  rw [List.foldlM_cons, hat c d hx hrest]
  change back.foldlM step (g d) = .ok (g b)
  rw [foldlM_map hback, hrest]
  rfl

end Fold

end BrokerGate
