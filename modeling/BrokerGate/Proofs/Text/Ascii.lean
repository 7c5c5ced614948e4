import BrokerGate.Text.Utf8

/-! ASCII characters and bytes: facts about all of them are checked one by one, and each character
is its own byte. -/
namespace BrokerGate.Text

theorem forall_ascii {p : Char → Prop} (h : ∀ n : Fin 128, p (Char.ofNat n)) {c : Char}
    (hc : c.toNat < 128) : p c := by
  have := h ⟨c.toNat, hc⟩
  rwa [Char.ofNat_toNat] at this

theorem forall_byte {p : UInt8 → Prop} (h : ∀ n : Fin 256, p (UInt8.ofNat n)) (b : UInt8) :
    p b := by
  have := h ⟨b.toNat, b.toNat_lt⟩
  rwa [UInt8.ofNat_toNat] at this

theorem toNat_ofNat_ascii {n : Nat} (h : n < 128) : (Char.ofNat n).toNat = n := by
  have : ∀ n : Fin 128, (Char.ofNat n.val).toNat = n.val := by decide +kernel
  exact this ⟨n, h⟩

theorem toNat_lt_of_isDigit {c : Char} (h : c.isDigit = true) : c.toNat < 128 := by
  have h := (Char.isDigit_iff_toNat.mp h).2
  have : '9'.toNat = 57 := rfl
  omega

theorem toNat_lt_of_toLower {c : Char} (h : c.toLower.toNat < 128) : c.toNat < 128 := by
  delta Char.toLower at h
  split at h
  · rename_i hc
    exact Nat.lt_of_le_of_lt hc.2 (by decide)
  · exact h

theorem utf8EncodeChar_ascii {c : Char} (h : c.toNat < 128) :
    String.utf8EncodeChar c = [UInt8.ofNat c.toNat] := by
  rw [String.utf8EncodeChar]
  exact if_pos (Nat.le_of_lt_succ h)

/-- ASCII bytes read as characters are written as the same bytes. -/
theorem encode_ofNat {bs : Utf8.Bytes} (h : ∀ b ∈ bs, b.toNat < 128) :
    Utf8.encode (bs.map fun b => Char.ofNat b.toNat) = bs := by
  induction bs with
  | nil => rfl
  | cons b bs ih =>
    rw [List.forall_mem_cons] at h
    have hb := toNat_ofNat_ascii h.1
    have hchar : String.utf8EncodeChar (Char.ofNat b.toNat) = [b] := by
      rw [utf8EncodeChar_ascii (by omega), hb, UInt8.ofNat_toNat]
    rw [List.map_cons, Utf8.encode, List.flatMap_cons, hchar, List.singleton_append]
    exact congrArg (b :: ·) (ih h.2)

end BrokerGate.Text
