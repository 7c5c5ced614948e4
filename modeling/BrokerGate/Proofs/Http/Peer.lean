import BrokerGate.Http.Field
import BrokerGate.Http.Message
import BrokerGate.Proofs.Text.Ascii
import BrokerGate.Proofs.Url.Address
import BrokerGate.Text.Split

/-! The text of a caller's address: it may stand in a list of a field value, where nothing of it is
taken for a comma or for a blank. -/
namespace BrokerGate.Http.IpAddress
open Text Url

/-- The characters of addresses. -/
def isAddressChar (c : Char) : Bool := c = '.' || c = ':' || isHexDigit c

theorem toNat_lt_of_isAddressChar {c : Char} (h : isAddressChar c = true) : c.toNat < 128 := by
  rw [isAddressChar, Bool.or_eq_true, Bool.or_eq_true, decide_eq_true_eq, decide_eq_true_eq] at h
  rcases h with (rfl | rfl) | h
  · decide
  · decide
  · simp only [isHexDigit, hexDigit?, Bool.and_eq_true, decide_eq_true_eq] at h
    split at h
    · omega
    · split at h
      · omega
      · split at h
        · omega
        · cases h

theorem address_char {c : Char} (h : isAddressChar c = true) :
    c ≠ ',' ∧ isBlank c = false ∧ FieldValue.isReadableByte (UInt8.ofNat c.toNat) = true :=
  forall_ascii (p := fun c => isAddressChar c = true →
    c ≠ ',' ∧ isBlank c = false ∧ FieldValue.isReadableByte (UInt8.ofNat c.toNat) = true)
    (by decide +kernel) (toNat_lt_of_isAddressChar h) h

theorem isAddressChar_of_isDigit {c : Char} (h : c.isDigit = true) : isAddressChar c = true :=
  forall_ascii (p := fun c => c.isDigit = true → isAddressChar c = true) (by decide +kernel)
    (toNat_lt_of_isDigit h) h

theorem isAddressChar_of_mem_decimalText {n : Nat} {c : Char} (h : c ∈ decimalText n) :
    isAddressChar c = true :=
  isAddressChar_of_isDigit (isDigit_of_mem_decimalText h)

theorem isAddressChar_of_mem_v6 {a : Ipv6} {c : Char} (h : c ∈ a.text) :
    isAddressChar c = true := by
  rcases Ipv6.mem_text h with rfl | h
  · decide
  · simp [isAddressChar, h]

theorem isAddressChar_of_mem_text {a : IpAddress} {c : Char} (h : c ∈ a.text) :
    isAddressChar c = true := by
  cases a with
  | v4 a =>
    rcases Ipv4.mem_text h with rfl | h
    · decide
    · exact isAddressChar_of_isDigit h
  | v6 a =>
    simp only [text] at h
    split at h
    · have hmapped := List.all_eq_true.mp
        (by decide : "::ffff:".toList.all isAddressChar = true)
      simp only [List.append_assoc, List.cons_append, List.mem_append, List.mem_cons] at h
      rcases h with h | h | rfl | h | rfl | h | rfl | h
      · exact hmapped c h
      · exact isAddressChar_of_mem_decimalText h
      · decide
      · exact isAddressChar_of_mem_decimalText h
      · decide
      · exact isAddressChar_of_mem_decimalText h
      · decide
      · exact isAddressChar_of_mem_decimalText h
    · exact isAddressChar_of_mem_v6 h

theorem text_ne_nil (a : IpAddress) : a.text ≠ [] := by
  cases a with
  | v4 a => simp [text, Ipv4.text, decimalText_ne_nil]
  | v6 a =>
    simp only [text]
    split
    · simp
    · rw [Ipv6.text]
      split
      · obtain ⟨g, gs, hgroups⟩ := List.exists_cons_of_length_eq_add_one a.size
        have hne : a.groups ≠ [] := by simp [hgroups]
        have hpieces := Ipv6.pieces_groupsText hne
        intro hnil
        rw [hnil, hgroups, List.map_cons] at hpieces
        exact hexText_ne_nil g (List.cons.inj hpieces).1.symm
      · simp

end BrokerGate.Http.IpAddress
