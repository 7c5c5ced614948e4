import BrokerGate.Proofs.Idna.Name
import BrokerGate.Proofs.Text.Ascii
import BrokerGate.Proofs.Text.Utf8
import BrokerGate.Proofs.Url.Address
import BrokerGate.Proofs.Url.Percent
import BrokerGate.Url.Host

/-! A host that has been read is read again from its own text, and that text holds nothing that
ends a host or the authority around it. -/
namespace BrokerGate.Url
open Text

namespace Host

/-- Nothing that separates parts of a URL. -/
def isHostChar (c : Char) : Bool := 0x20 < c.toNat && !"/?#@\\".toList.contains c

theorem parse_name {n : List Char} (hn : Idna.toAscii? n = some n) (hne : n ≠ [])
    (hnum : Ipv4.endsInNumber n = false) : parse n = .ok (.name n) := by
  have hallowed := Idna.isForbidden_of_toAscii? hn
  have hbracket : n.head? ≠ some '[' := fun h =>
    absurd (hallowed _ (List.mem_of_mem_head? h)) (by decide +kernel)
  have hpercent : '%' ∉ n := fun h => absurd (hallowed _ h) (by decide +kernel)
  rw [parse, if_neg hbracket, unescape_of_notMem hpercent, Utf8.decode?_encode,
    Option.bind_some, hn]
  cases n with
  | nil => exact absurd rfl hne
  | cons c cs => simp [hnum]

theorem isForbidden_of_mem_ipv4 {a : Ipv4} {c : Char} (h : c ∈ a.text) :
    Idna.isForbidden c = false := by
  rcases Ipv4.mem_text h with rfl | hd
  · decide +kernel
  · exact forall_ascii (p := fun c => c.isDigit = true → Idna.isForbidden c = false)
      (by decide +kernel) (toNat_lt_of_isDigit hd) hd

theorem toAscii?_ipv4 (a : Ipv4) : Idna.toAscii? a.text = some a.text := by
  have hchar {c : Char} (hc : c ∈ a.text) : c.toNat < 0x80 ∧ c.toLower = c ∧ c ≠ 'x' := by
    rcases Ipv4.mem_text hc with rfl | hd
    · decide +kernel
    · have hlt := toNat_lt_of_isDigit hd
      exact ⟨hlt, forall_ascii (p := fun c => c.isDigit = true → c.toLower = c ∧ c ≠ 'x')
        (by decide +kernel) hlt hd⟩
  refine Idna.toAscii?_of_isPlain (fun c hc => ?_) (fun c hc => isForbidden_of_mem_ipv4 hc) ?_
  · exact Idna.isPlain_of_toLower (hchar hc).1 (hchar hc).2.1
  · intro l hl
    rw [dropWord?, if_neg]
    intro hmark
    obtain ⟨t, rfl⟩ := List.isPrefixOf_iff_prefix.mp hmark
    exact (hchar (mem_of_mem_pieces hl (List.mem_append_left t (by decide +kernel)))).2.2 rfl

theorem parse_ipv4 (a : Ipv4) : parse a.text = .ok (.ipv4 a) := by
  have hbracket : a.text.head? ≠ some '[' := fun h =>
    absurd (isForbidden_of_mem_ipv4 (List.mem_of_mem_head? h)) (by decide +kernel)
  have hpercent : '%' ∉ a.text := fun h => absurd (isForbidden_of_mem_ipv4 h) (by decide +kernel)
  rw [parse, if_neg hbracket, unescape_of_notMem hpercent, Utf8.decode?_encode, Option.bind_some,
    toAscii?_ipv4]
  cases ht : a.text with
  | nil => simp [Ipv4.text, decimalText_ne_nil] at ht
  | cons c cs => simp only [← ht, Ipv4.endsInNumber_text, Ipv4.parse?_text, if_true]

theorem parse_ipv6 (a : Ipv6) : parse ('[' :: a.text ++ [']']) = .ok (.ipv6 a) := by
  have hlast : ('[' :: a.text ++ [']']).getLast? = some ']' := List.getLast?_concat
  have hinner : (('[' :: a.text ++ [']']).drop 1).dropLast = a.text := by simp
  rw [parse, if_pos (by simp), parseBracketed, hinner, Ipv6.parse?_text, hlast, if_pos (by simp)]

theorem parse_eq_name {cs n : List Char} (h : parse cs = .ok (.name n)) :
    Idna.toAscii? n = some n ∧ n ≠ [] ∧ Ipv4.endsInNumber n = false := by
  rw [parse] at h
  split at h
  · rw [parseBracketed] at h
    split at h
    · split at h <;> cases h
    · cases h
  · split at h
    · cases h
    · cases h
    · rename_i m hm hsome
      obtain ⟨t, _, ht⟩ := Option.bind_eq_some_iff.mp hsome
      split at h
      · split at h <;> cases h
      · rename_i hnum
        cases h
        refine ⟨Idna.toAscii?_fixed ht, hm, ?_⟩
        simpa using hnum

/-- A host that has been read is read again from its own text. -/
theorem parse_text {cs : List Char} {h : Host} (hp : parse cs = .ok h) : parse h.text = .ok h := by
  cases h with
  | name n =>
    obtain ⟨hn, hne, hnum⟩ := parse_eq_name hp
    exact parse_name hn hne hnum
  | ipv4 a => exact parse_ipv4 a
  | ipv6 a => exact parse_ipv6 a

/-- Read from its own text, as every host is that has been read. -/
def Settled (h : Host) : Prop := parse h.text = .ok h

section Settled
variable {h : Host}

theorem Settled.isEmpty_eq_false (hs : h.Settled) : h.isEmpty = false := by
  cases h with
  | name n =>
    have := (parse_eq_name hs).2.1
    simpa [isEmpty] using this
  | ipv4 a => rfl
  | ipv6 a => rfl

theorem Settled.text_ne_nil (hs : h.Settled) : h.text ≠ [] := by
  cases h with
  | name n => exact (parse_eq_name hs).2.1
  | ipv4 a => simp [text, Ipv4.text, decimalText_ne_nil]
  | ipv6 a => simp [text]

private theorem isHostChar_of_isForbidden {c : Char} (h : Idna.isForbidden c = false) :
    isHostChar c = true := by
  simp only [Idna.isForbidden, Bool.or_eq_false_iff, decide_eq_false_iff_not, Nat.not_le] at h
  obtain ⟨⟨hl, _⟩, hm⟩ := h
  have hsub : ("/?#@\\".toList.all fun d => "%#/:<>?@[\\]^|".toList.contains d) = true := by
    decide +kernel
  rw [isHostChar, Bool.and_eq_true, decide_eq_true_eq, Bool.not_eq_true']
  refine ⟨hl, ?_⟩
  rw [← Bool.not_eq_true] at hm ⊢
  exact fun hd => hm (List.all_eq_true.mp hsub c (List.contains_iff_mem.mp hd))

private theorem isHostChar_of_isHexDigit {c : Char} (h : isHexDigit c = true) :
    isHostChar c = true := by
  have hlt : c.toNat < 128 := by
    rw [isHexDigit, hexDigit?] at h
    grind
  revert h
  exact forall_ascii (p := fun c => isHexDigit c = true → isHostChar c = true)
    (by decide +kernel) hlt

theorem Settled.isHostChar (hs : h.Settled) {c : Char} (hc : c ∈ h.text) :
    isHostChar c = true := by
  cases h with
  | name n =>
    exact isHostChar_of_isForbidden (Idna.isForbidden_of_toAscii? (parse_eq_name hs).1 c hc)
  | ipv4 a => exact isHostChar_of_isForbidden (isForbidden_of_mem_ipv4 hc)
  | ipv6 a =>
    simp only [text, List.cons_append, List.mem_cons, List.mem_append, List.not_mem_nil,
      or_false] at hc
    rcases hc with rfl | hc | rfl
    · decide +kernel
    · rcases Ipv6.mem_text hc with rfl | hx
      · decide +kernel
      · exact isHostChar_of_isHexDigit hx
    · decide +kernel

end Settled

end Host

end BrokerGate.Url
