import BrokerGate.Proofs.Text.Ascii
import BrokerGate.Url.Percent

/-! Escaping happens once: an escaped text is left alone by the same set, and a text without
percent signs is the text of its own bytes. -/
namespace BrokerGate.Url
open Text

/-- Percent sign and upper case digits, of which escapes are made. -/
def escapeAlphabet : List Char := "%0123456789ABCDEF".toList

theorem mem_escapeAlphabet_of_mem_escapeByte {b : UInt8} {c : Char} (h : c ∈ escapeByte b) :
    c ∈ escapeAlphabet := by
  have hall : ((escapeByte b).all fun c => escapeAlphabet.contains c) = true :=
    forall_byte (p := fun b => ((escapeByte b).all fun c => escapeAlphabet.contains c) = true)
      (by decide +kernel) b
  exact List.contains_iff_mem.mp (List.all_eq_true.mp hall c h)

/-- A character of an escaped text stood there before or belongs to an escape. -/
theorem mem_escape {s : EscapeSet} {cs : List Char} {c : Char} (h : c ∈ escape s cs) :
    (c ∈ cs ∧ s.escapes c = false) ∨ c ∈ escapeAlphabet := by
  obtain ⟨d, hd, hc⟩ := List.mem_flatMap.mp h
  rw [escapeChar] at hc
  split at hc
  · obtain ⟨b, _, hb⟩ := List.mem_flatMap.mp hc
    exact .inr (mem_escapeAlphabet_of_mem_escapeByte hb)
  · rename_i hs
    rw [List.mem_singleton] at hc
    subst hc
    exact .inl ⟨hd, by simpa using hs⟩

/-- A set that escapes no character of an escape. -/
def EscapeSet.SparesEscapes (s : EscapeSet) : Prop := ∀ c ∈ escapeAlphabet, s.escapes c = false

instance (s : EscapeSet) : Decidable s.SparesEscapes :=
  decidable_of_iff ((escapeAlphabet.all fun c => !s.escapes c) = true)
    (by simp [EscapeSet.SparesEscapes])

theorem fragment_sparesEscapes : EscapeSet.fragment.SparesEscapes := by decide +kernel
theorem path_sparesEscapes : EscapeSet.path.SparesEscapes := by decide +kernel
theorem userinfo_sparesEscapes : EscapeSet.userinfo.SparesEscapes := by decide +kernel
theorem specialQuery_sparesEscapes : EscapeSet.specialQuery.SparesEscapes := by decide +kernel

theorem EscapeSet.SparesEscapes.escapes_eq_false {s : EscapeSet} (hs : s.SparesEscapes)
    {cs : List Char} {c : Char} (h : c ∈ escape s cs) : s.escapes c = false := by
  rcases mem_escape h with h | h
  · exact h.2
  · exact hs c h

theorem escape_eq_self {s : EscapeSet} {cs : List Char} (h : ∀ c ∈ cs, s.escapes c = false) :
    escape s cs = cs := by
  induction cs with
  | nil => rfl
  | cons c cs ih =>
    rw [List.forall_mem_cons] at h
    change escapeChar s c ++ escape s cs = _
    rw [ih h.2, escapeChar, if_neg (by simp [h.1]), List.singleton_append]

theorem escapes_eq_false_iff {s : EscapeSet} {c : Char} :
    s.escapes c = false ↔ 0x20 ≤ c.toNat ∧ c.toNat < 0x7F ∧ c ∉ s.extra := by
  simp [EscapeSet.escapes, and_assoc]

/-- No set leaves a control or a character outside ASCII alone. -/
theorem not_control_of_escapes_eq_false {s : EscapeSet} {c : Char} (h : s.escapes c = false) :
    0x20 ≤ c.toNat ∧ c.toNat < 0x7F :=
  ⟨(escapes_eq_false_iff.mp h).1, (escapes_eq_false_iff.mp h).2.1⟩

theorem unescape_of_notMem {cs : List Char} (h : '%' ∉ cs) : unescape cs = Utf8.encode cs := by
  induction cs with
  | nil => rfl
  | cons c cs ih =>
    rw [List.mem_cons, not_or] at h
    rw [unescape.eq_3 _ _ (by rintro a b t rfl; exact fun _ => h.1 rfl), ih h.2]
    rfl

end BrokerGate.Url
