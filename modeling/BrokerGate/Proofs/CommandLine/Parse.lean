import BrokerGate.CommandLine.Parse
import BrokerGate.Proofs.Url.Authority

/-! What a command line can ask for: a verb with options of its own, and no others. -/
namespace BrokerGate

namespace Invocation
variable {i j : Invocation} {f : Flag} {p : Pending} {text : String}

/-- Only options of its verb are set. -/
def Fits (i : Invocation) : Prop := ∀ f, i.has f = true → f ∈ i.verb.flags

/-- An option that was begun is one of the verb's. -/
def Awaits (i : Invocation) (p : Pending) : Prop := ∀ f v, p = some (f, v) → f ∈ i.verb.flags

theorem fits_ofVerb (v : Verb) : (ofVerb v).Fits := by
  intro f hf
  cases f <;> cases hf

/-- Setting an option sets nothing else. -/
theorem has_of_set (h : i.set f text = .ok j) :
    j.verb = i.verb ∧ ∀ g, j.has g = true → g = f ∨ i.has g = true := by
  unfold set at h
  split at h
  · cases h
  · cases f with
    | config =>
      dsimp only at h
      split at h
      · cases h
      · cases h
        exact ⟨rfl, fun g hg => by cases g <;> simp_all [has]⟩
    | port =>
      obtain ⟨n, -, rfl⟩ := map_eq_ok h
      exact ⟨rfl, fun g hg => by cases g <;> simp_all [has]⟩
    | host =>
      cases h
      exact ⟨rfl, fun g hg => by cases g <;> simp_all [has]⟩
    | backendUrl =>
      cases h
      exact ⟨rfl, fun g hg => by cases g <;> simp_all [has]⟩

theorem fits_set (hi : i.Fits) (hf : f ∈ i.verb.flags) (h : i.set f text = .ok j) :
    j.Fits ∧ j.verb = i.verb := by
  obtain ⟨hverb, hhas⟩ := has_of_set h
  refine ⟨?_, hverb⟩
  intro g hg
  rw [hverb]
  rcases hhas g hg with rfl | hg
  · exact hf
  · exact hi g hg

theorem awaits_none (i : Invocation) : i.Awaits none := by
  intro f v h
  cases h

theorem fits_settle (hi : i.Fits) (hp : i.Awaits p) (h : settle i p = .ok j) :
    j.Fits ∧ j.verb = i.verb := by
  unfold settle at h
  split at h
  · cases h
    exact ⟨hi, rfl⟩
  · cases h
  · exact fits_set hi (hp _ _ rfl) h

theorem fits_begin {q : Pending} {value : Option String} (hi : i.Fits) (hp : i.Awaits p)
    (hf : f ∈ i.verb.flags) (h : begin i p f value = .ok (j, q)) :
    j.Fits ∧ j.Awaits q ∧ j.verb = i.verb := by
  obtain ⟨k, hk, h⟩ := bind_eq_ok.mp h
  obtain ⟨hkfits, hkverb⟩ := fits_settle hi hp hk
  rw [← hkverb] at hf
  cases value with
  | none =>
    cases h
    refine ⟨hkfits, ?_, hkverb⟩
    intro g v hg
    cases hg
    exact hf
  | some v =>
    obtain ⟨l, hl, h⟩ := bind_eq_ok.mp h
    obtain ⟨hlfits, hlverb⟩ := fits_set hkfits hf hl
    cases h
    exact ⟨hlfits, awaits_none _, hlverb.trans hkverb⟩

theorem helped_ne_ok {α : Type} (i : Invocation) (p : Pending) (a : α) : helped i p ≠ .ok a := by
  intro h
  obtain ⟨_, _, h⟩ := bind_eq_ok.mp h
  cases h

theorem fits_takeArgument {q : Pending} {a : Argument} (hi : i.Fits) (hp : i.Awaits p)
    (h : takeArgument i p a = .ok (j, q)) : j.Fits ∧ j.Awaits q ∧ j.verb = i.verb := by
  unfold takeArgument at h
  split at h
  · split at h
    · cases h
      refine ⟨hi, ?_, rfl⟩
      intro g v hg
      cases hg
      exact hp _ none rfl
    · cases h
  · split at h
    · next f hfind => exact fits_begin hi hp (List.mem_of_find?_eq_some hfind) h
    · split_ifs at h
      exact absurd h (helped_ne_ok i p _)
  · split at h
    · next f hfind => exact fits_begin hi hp (List.mem_of_find?_eq_some hfind) h
    · split_ifs at h
      exact absurd h (helped_ne_ok i p _)
  · cases h

theorem fits_parseOptions {args : List String} (hi : i.Fits) (hp : i.Awaits p)
    (h : parseOptions i p args = .ok j) : j.Fits ∧ j.verb = i.verb := by
  induction args generalizing i p with
  | nil => exact fits_settle hi hp h
  | cons s more ih =>
    rw [parseOptions] at h
    split at h
    · split_ifs at h
      exact fits_settle hi hp h
    · obtain ⟨⟨k, q⟩, hk, h⟩ := bind_eq_ok.mp h
      obtain ⟨hkfits, hkawaits, hkverb⟩ := fits_takeArgument hi hp hk
      obtain ⟨hjfits, hjverb⟩ := ih hkfits hkawaits h
      exact ⟨hjfits, hjverb.trans hkverb⟩

theorem fits_parse {args : List String} (h : parse args = .ok i) : i.Fits := by
  unfold parse at h
  split at h
  · cases h
  · split at h
    · exact (fits_parseOptions (fits_ofVerb _) (awaits_none _) h).1
    · split_ifs at h

/-- A check listens nowhere, so that nobody can tell it where. -/
theorem address_of_check {args : List String} (h : parse args = .ok i) (hverb : i.verb = .check) :
    i.port = none ∧ i.host = none := by
  have hunset : ∀ f, f ∉ Verb.flags .check → i.has f = false := by
    intro f hf
    by_contra hset
    exact hf (hverb ▸ fits_parse h f (by simpa using hset))
  have hport := hunset .port (by decide)
  have hhost := hunset .host (by decide)
  exact ⟨by simpa [has] using hport, by simpa [has] using hhost⟩

end Invocation

end BrokerGate
