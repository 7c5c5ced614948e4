import BrokerGate.Proofs.Except
import BrokerGate.Proofs.Url.Host
import BrokerGate.Url.Parse
import Mathlib.Data.List.TakeWhile

/-! Authorities of web URLs. What reading leaves of user name, password, host and port stands for
itself, and an authority that stands for itself is read back from its text, whatever path, query
or fragment follows it. -/
namespace BrokerGate.Url
open Text

namespace Authority

/-- Escaped user name and password, a host that is read from its text, a port that is written. -/
structure Settled (kind : SchemeKind) (a : Authority) : Prop where
  username : ∀ c ∈ a.username, EscapeSet.userinfo.escapes c = false
  password : ∀ c ∈ a.password, EscapeSet.userinfo.escapes c = false
  host : a.host.Settled
  port : ∀ p ∈ a.port, p ≤ 65535 ∧ kind.defaultPort ≠ some p

section Text
variable {kind : SchemeKind} {a : Authority}

private theorem spared_ne {c : Char} (h : EscapeSet.userinfo.escapes c = false) :
    Host.isHostChar c = true ∧ c ≠ ':' ∧ c ≠ '@' := by
  have hlt := (not_control_of_escapes_eq_false h).2
  revert h
  exact forall_ascii (p := fun c => EscapeSet.userinfo.escapes c = false →
    Host.isHostChar c = true ∧ c ≠ ':' ∧ c ≠ '@') (by decide +kernel) (by omega)

theorem mem_portText {c : Char} (h : c ∈ a.portText) : c = ':' ∨ c.isDigit = true := by
  rw [portText] at h
  split at h
  · cases h
  · exact (List.mem_cons.mp h).imp_right isDigit_of_mem_decimalText

private theorem isHostChar_of_mem_portText {c : Char} (h : c ∈ a.portText) :
    Host.isHostChar c = true := by
  rcases mem_portText h with rfl | h
  · decide +kernel
  · have hlt := toNat_lt_of_isDigit h
    revert h
    exact forall_ascii (p := fun c => c.isDigit = true → Host.isHostChar c = true)
      (by decide +kernel) hlt

theorem Settled.isHostChar_hostPort (h : a.Settled kind) {c : Char} (hc : c ∈ a.hostPort) :
    Host.isHostChar c = true :=
  (List.mem_append.mp hc).elim h.host.isHostChar isHostChar_of_mem_portText

theorem Settled.hostPort_ne_nil (h : a.Settled kind) : a.hostPort ≠ [] := by
  simp [hostPort, h.host.text_ne_nil]

/-- User name and password up to the `@`, if there are any. -/
def credentials (a : Authority) : List Char :=
  a.username ++ (if a.password.isEmpty then [] else ':' :: a.password)

theorem credentials_eq_nil_iff : a.credentials = [] ↔ a.username = [] ∧ a.password = [] := by
  cases hp : a.password <;> simp [credentials, hp]

theorem text_of_credentials_nil (h : a.credentials = []) : a.text = a.hostPort := by
  obtain ⟨hu, hp⟩ := credentials_eq_nil_iff.mp h
  simp [text, userinfoText, hu, hp]

theorem text_of_credentials_ne_nil (h : a.credentials ≠ []) :
    a.text = a.credentials ++ '@' :: a.hostPort := by
  have hne : ¬ (a.username = [] ∧ a.password = []) := fun he => h (credentials_eq_nil_iff.mpr he)
  simp [text, userinfoText, credentials, hne]

theorem Settled.cutUserinfo_text (h : a.Settled kind) :
    cutUserinfo a.text = (a.credentials, a.hostPort) := by
  have hat : '@' ∉ a.hostPort := fun hc => absurd (h.isHostChar_hostPort hc) (by decide +kernel)
  by_cases hcred : a.credentials = []
  · rw [cutUserinfo, text_of_credentials_nil hcred, cutLast_eq_none_iff.mpr hat, hcred]
  · rw [cutUserinfo, text_of_credentials_ne_nil hcred, cutLast_append _ hat]

theorem Settled.readUserinfo_credentials (h : a.Settled kind) :
    readUserinfo a.credentials = (a.username, a.password) := by
  have hcolon : ':' ∉ a.username := fun hc => (spared_ne (h.username _ hc)).2.1 rfl
  rw [readUserinfo, credentials]
  cases hp : a.password with
  | nil =>
    rw [List.isEmpty_nil, if_pos rfl, List.append_nil, cutFirst_eq_none_iff.mpr hcolon,
      escape_eq_self h.username]
  | cons c cs =>
    rw [← hp, if_neg (by simp [hp]), cutFirst_append hcolon]
    simp only [escape_eq_self h.username, escape_eq_self h.password]

/-- Nothing in the text ends an authority or is cut off around a URL. -/
theorem Settled.mem_text (h : a.Settled kind) {c : Char} (hc : c ∈ a.text) :
    0x20 < c.toNat ∧ endsAuthority true c = false := by
  have hat : Host.isHostChar c = true ∨ c = '@' := by
    by_cases hcred : a.credentials = []
    · rw [text_of_credentials_nil hcred] at hc
      exact .inl (h.isHostChar_hostPort hc)
    · rw [text_of_credentials_ne_nil hcred, credentials, List.mem_append, List.mem_append,
        List.mem_cons] at hc
      rcases hc with (hc | hc) | hc | hc
      · exact .inl (spared_ne (h.username _ hc)).1
      · split at hc
        · cases hc
        · rcases List.mem_cons.mp hc with rfl | hc
          · exact .inl (by decide +kernel)
          · exact .inl (spared_ne (h.password _ hc)).1
      · exact .inr hc
      · exact .inl (h.isHostChar_hostPort hc)
  rcases hat with hc | rfl
  · rw [Host.isHostChar, Bool.and_eq_true, decide_eq_true_eq] at hc
    refine ⟨hc.1, ?_⟩
    have hm := hc.2
    simp only [endsAuthority]
    simp_all
  · decide +kernel

theorem Settled.text_ne_nil (h : a.Settled kind) : a.text ≠ [] := by
  simp [text, h.hostPort_ne_nil]

end Text

end Authority

section Span

theorem hostSpan_unbracketed {t : List Char} (h : ∀ c ∈ t, c ≠ ':' ∧ c ≠ '[' ∧ c ≠ ']')
    (r : List Char) : hostSpan false (t ++ r) = t ++ hostSpan false r := by
  induction t with
  | nil => rfl
  | cons c t ih =>
    rw [List.forall_mem_cons] at h
    simp [hostSpan, h.1, ih h.2]

theorem hostSpan_bracketed {t : List Char} (h : ∀ c ∈ t, c ≠ '[' ∧ c ≠ ']') (r : List Char) :
    hostSpan true (t ++ ']' :: r) = t ++ ']' :: hostSpan false r := by
  induction t with
  | nil => simp [hostSpan]
  | cons c t ih =>
    rw [List.forall_mem_cons] at h
    simp [hostSpan, h.1, ih h.2]

theorem Host.Settled.hostSpan_text {h : Host} (hs : h.Settled) (r : List Char) :
    hostSpan false (h.text ++ r) = h.text ++ hostSpan false r := by
  cases h with
  | name n =>
    refine hostSpan_unbracketed (fun c hc => ?_) r
    have := Idna.isForbidden_of_toAscii? (Host.parse_eq_name hs).1 c hc
    refine ⟨?_, ?_, ?_⟩ <;> rintro rfl <;> exact absurd this (by decide +kernel)
  | ipv4 a =>
    refine hostSpan_unbracketed (fun c hc => ?_) r
    have := Host.isForbidden_of_mem_ipv4 hc
    refine ⟨?_, ?_, ?_⟩ <;> rintro rfl <;> exact absurd this (by decide +kernel)
  | ipv6 a =>
    have hin : ∀ c ∈ a.text, c ≠ '[' ∧ c ≠ ']' := by
      intro c hc
      rcases Ipv6.mem_text hc with rfl | hx
      · decide
      · refine ⟨?_, ?_⟩ <;> rintro rfl <;> exact absurd hx (by decide +kernel)
    have := hostSpan_bracketed hin r
    simpa [Host.text, hostSpan] using this

theorem hostSpan_portText (a : Authority) : hostSpan false a.portText = [] := by
  rw [Authority.portText]
  split <;> simp [hostSpan]

end Span

section Port
variable {kind : SchemeKind}

theorem readPort_decimalText {p : Nat} (hp : p ≤ 65535) (hk : kind.defaultPort ≠ some p) :
    readPort kind (decimalText p) = .ok (some p, []) := by
  have hdigits : ∀ c ∈ decimalText p, c.isDigit = true := fun _ => isDigit_of_mem_decimalText
  have htake : (decimalText p).takeWhile Char.isDigit = decimalText p :=
    List.takeWhile_eq_self_iff.mpr hdigits
  have hdrop : (decimalText p).dropWhile Char.isDigit = [] :=
    List.dropWhile_eq_nil_iff.mpr hdigits
  simp [readPort, htake, hdrop, digitsValue_decimalText, Nat.not_lt.mpr hp, decimalText_ne_nil, hk]

theorem readPortPart_portText {a : Authority} (h : a.Settled kind) :
    readPortPart kind a.portText = .ok (a.port, []) := by
  rw [Authority.portText]
  cases hp : a.port with
  | none => rfl
  | some p =>
    obtain ⟨hle, hne⟩ := h.port p (by simp [hp])
    exact readPort_decimalText hle hne

theorem readPortPart_port {cs : List Char} {r : Option Nat × List Char}
    (h : readPortPart kind cs = .ok r) : ∀ p ∈ r.1, p ≤ 65535 ∧ kind.defaultPort ≠ some p := by
  rw [readPortPart.eq_def] at h
  split at h
  · rw [readPort] at h
    split at h
    · cases h
    · split at h
      · cases h
        intro p hp
        split at hp
        · cases hp
        · cases hp
          simp_all
      · cases h
  · cases h
    simp

end Port

section ReadAuthority
variable {kind : SchemeKind}

theorem readHost_settled (hk : kind.isSpecial = true) {h : Host} (hs : h.Settled) :
    readHost kind h.text = .ok h := by
  rw [readHost, if_pos hk, if_neg (by simpa using hs.text_ne_nil)]
  exact hs

theorem settled_of_readHost (hk : kind.isSpecial = true) {cs : List Char} {h : Host}
    (hr : readHost kind cs = .ok h) : h.Settled := by
  rw [readHost, if_pos hk] at hr
  split at hr
  · cases hr
  · exact Host.parse_text hr

theorem readUserinfo_spared (cs : List Char) :
    (∀ c ∈ (readUserinfo cs).1, EscapeSet.userinfo.escapes c = false) ∧
      ∀ c ∈ (readUserinfo cs).2, EscapeSet.userinfo.escapes c = false := by
  rw [readUserinfo]
  split
  · exact ⟨fun _ => userinfo_sparesEscapes.escapes_eq_false,
      fun _ => userinfo_sparesEscapes.escapes_eq_false⟩
  · exact ⟨fun _ => userinfo_sparesEscapes.escapes_eq_false, by simp⟩

/-- An authority that stands for itself is read back, whatever follows. -/
theorem readAuthority_text (hk : kind.isSpecial = true) {a : Authority} (h : a.Settled kind)
    (more : Bool) : readAuthority kind a.text more = .ok (a, []) := by
  have hspan : hostSpan false a.hostPort = a.host.text := by
    rw [Authority.hostPort, h.host.hostSpan_text, hostSpan_portText, List.append_nil]
  have hafter : a.hostPort.drop a.host.text.length = a.portText := by simp [Authority.hostPort]
  have hne : a.hostPort.isEmpty = false := by simp [h.hostPort_ne_nil]
  simp only [readAuthority, h.cutUserinfo_text, h.readUserinfo_credentials, hspan, hafter, hne,
    Bool.and_false, Bool.false_and, Bool.false_eq_true, if_false, readHost_settled hk h.host, bind,
    Except.bind, h.host.isEmpty_eq_false, readPortPart_portText h]
  rfl

/-- What reading leaves of an authority stands for itself. -/
theorem settled_of_readAuthority (hk : kind.isSpecial = true) {text : List Char} {more : Bool}
    {r : Authority × List Char} (h : readAuthority kind text more = .ok r) :
    r.1.Settled kind := by
  simp only [readAuthority, bind, Except.bind, pure, Except.pure, throw, throwThe,
    MonadExceptOf.throw] at h
  split at h
  · cases h
  split at h
  · cases h
  rename_i host hhost
  split at h
  · cases h
  split at h
  · cases h
  rename_i port hport
  cases h
  have huser := readUserinfo_spared (cutUserinfo text).1
  exact ⟨huser.1, huser.2, settled_of_readHost hk hhost, readPortPart_port hport⟩

end ReadAuthority

end BrokerGate.Url
